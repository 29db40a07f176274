import ScopedQuery.Proofs.Bound.Everywhere
import ScopedQuery.Proofs.Sql.Accepted
/-!
# Nothing in a bound query is forbidden

* `SelectText.Clear` asks of a selection that its tables may be read and that nothing in its expressions is
  forbidden. `SelectText.Clear.query` says that the whole query is clear then.
* `Query.Selects.clear`: the selection that a query is meant to be is clear if its dataset is.
-/

namespace ScopedQuery

open Sql Sql.Node

variable {tables : List String}

/-- Nothing in an expression is forbidden. -/
def Sql.ExprText.Clear (tables : List String) (x : ExprText) : Prop :=
  Node.Clear tables (.expr x.tree)

namespace Sql

/-- Only sources and queries are looked at by themselves. -/
theorem lenient_plain (tables : List String) : Lenient (Plain tables) where
  expr _ _ := True.intro
  item _ _ := True.intro
  key _ := True.intro
  body _ := True.intro
  select _ := True.intro
  fromItem _ := True.intro
  join _ := True.intro

/-- A table that may be read, under a short name. -/
theorem plain_short {table : String} (h : ObjectName.key [⟨table, none⟩] ∈ tables) (name : String) :
    Plain tables (.source (.short table name)) :=
  PlainSource.table _ _ _ _ _ _ h

/-! ### Selections -/

/-- The tables of a selection may be read, and nothing in its expressions is forbidden. -/
structure SelectText.Clear (tables : List String) (s : SelectText) : Prop where
  items : ∀ x ∈ s.items, ExprText.Clear tables x
  table : ObjectName.key [⟨s.table, none⟩] ∈ tables
  joins : ∀ j ∈ s.joins, Node.Clear tables (.join (LeftJoin.join j))
  condition : Node.Clear tables (.expr s.condition.tree)
  groupBy : ∀ x ∈ s.groupBy, ExprText.Clear tables x
  orderBy : ∀ k ∈ s.orderBy, ExprText.Clear tables (SortText.key k)

theorem SelectText.Clear.query {s : SelectText} (h : s.Clear tables) :
    Node.Clear tables (.query s.query) := by
  have hall : s.All (Plain tables) :=
    ⟨h.items, plain_short h.table s.name, h.joins, h.condition, h.groupBy, h.orderBy⟩
  exact hall.query (lenient_plain tables) ⟨rfl, .select ..⟩

end Sql

/-! ### Selections of a query -/

/-- The tables of a dataset may be read, and nothing in its expressions is forbidden. -/
structure DatasetText.Clear (tables : List String) (r : DatasetText) : Prop where
  fields : ∀ x ∈ r.fields, ExprText.Clear tables x
  table : ObjectName.key [⟨r.table, none⟩] ∈ tables
  joins : ∀ j ∈ r.joins, Node.Clear tables (.join (LeftJoin.join j))
  condition : r.condition.Clear tables

/-- The selection that a query is meant to be reads no other tables than its dataset. -/
theorem Query.Selects.clear {q : Query} {d : Dataset} {dialect : Dialect} {r : DatasetText}
    {value : ExprText} {s : SelectText} (h : q.Selects d dialect r value s) (hr : r.Clear tables)
    (hvalue : value.Clear tables) : s.Clear tables := by
  have hfield : ∀ {name x}, FieldText d dialect r name x → ExprText.Clear tables x := by
    rintro name x ⟨_, -, hmem, -⟩
    exact hr.fields x hmem
  have hall : s.All (Plain tables) := h.all (lenient_plain tables) (fun _ _ _ => hfield)
    (plain_short hr.table r.name) (fun _ => hr.joins) hr.condition hvalue
  exact ⟨hall.items, h.table ▸ hr.table, hall.joins, hall.condition, hall.groupBy, hall.orderBy⟩

end ScopedQuery
