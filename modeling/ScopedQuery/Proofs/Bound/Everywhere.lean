import ScopedQuery.Proofs.Bound.Selected
import ScopedQuery.Proofs.Sql.Nodes
/-!
# All nodes of a bound query

What holds of every node of the query that a selection is read as.

* `Sql.Node.Lenient` says of a property that it asks something of names of columns, sources and queries at
  most.
* `Sql.SelectText.All` asks such a property of the parts of a selection, and `Sql.SelectText.All.query`
  says that it holds of all nodes of the query then.
* `Query.Selects.all`: the selection that a query is meant to be has it in all parts if the texts of its
  dataset have.
-/

namespace ScopedQuery

open Sql Sql.Node

namespace Sql

/-- Whether an expression is the name of a column. -/
def Expr.isName : Expr → Bool
  | .name _ => true
  | _ => false

/-- The property asks something of names of columns, of sources and of queries at most. -/
structure Node.Lenient (P : Node → Prop) : Prop where
  expr : ∀ e, e.isName = false → P (.expr e)
  item : ∀ label e, P (.item (.expr label e))
  key : ∀ k, P (.key k)
  body : ∀ b, P (.body b)
  select : ∀ s, P (.select s)
  fromItem : ∀ f, P (.fromItem f)
  join : ∀ j, P (.join j)

/-- Every node of an expression has a property. -/
def ExprText.All (P : Node → Prop) (x : ExprText) : Prop := Node.All P (.expr x.tree)

/-- Every node of the parts of a selection has a property. -/
structure SelectText.All (P : Node → Prop) (s : SelectText) : Prop where
  items : ∀ x ∈ s.items, ExprText.All P x
  source : P (.source (.short s.table s.name))
  joins : ∀ j ∈ s.joins, Node.All P (.join (LeftJoin.join j))
  condition : Node.All P (.expr s.condition.tree)
  groupBy : ∀ x ∈ s.groupBy, ExprText.All P x
  orderBy : ∀ k ∈ s.orderBy, ExprText.All P (SortText.key k)

/-- A table under a short name has no parts. -/
theorem Source.all_short {P : Node → Prop} {table name : String}
    (h : P (.source (.short table name))) : Node.All P (.source (.short table name)) :=
  all_iff.mpr ⟨h, List.forall_mem_nil _⟩

end Sql

section

variable {P : Node → Prop} (hP : Lenient P)

include hP

/-! ### Expressions -/

namespace Sql.Node.Lenient

/-- Of an expression that is not a name only the parts are looked at. -/
theorem all_expr {e : Expr} (he : e.isName = false)
    (h : ∀ c ∈ exprChildren e, Node.All P c) : Node.All P (.expr e) :=
  all_iff.mpr ⟨hP.expr e he, h⟩

theorem all_literal (value : Literal) : Node.All P (.expr (.literal value)) :=
  hP.all_expr rfl (List.forall_mem_nil _)

theorem all_item {e : Expr} (h : Node.All P (.expr e)) (label : Option Ident) :
    Node.All P (.item (.expr label e)) :=
  all_iff.mpr ⟨hP.item label e, List.forall_mem_singleton.mpr h⟩

theorem all_binary {op : BinaryOp} {left right : Expr}
    (hleft : Node.All P (.expr left)) (hright : Node.All P (.expr right)) :
    Node.All P (.expr (.binary op left right)) := by
  refine hP.all_expr rfl ?_
  simp only [exprChildren, List.forall_mem_cons]
  exact ⟨hleft, hright, List.forall_mem_nil _⟩

/-- A call of a function on some arguments. -/
theorem all_call {args : List ExprText} (h : ∀ x ∈ args, ExprText.All P x)
    (name : ObjectName) (distinct : Bool) :
    Node.All P
      (.expr (.call name distinct (args.map fun x => .expr none (ExprText.tree x)) "" none [])) := by
  refine hP.all_expr rfl ?_
  simp only [exprChildren, Option.toList_none, List.map_nil, List.append_nil, List.map_map,
    List.forall_mem_map]
  exact fun x hx => hP.all_item (h x hx) none

end Sql.Node.Lenient

theorem Aggregation.all_call {x : ExprText} (h : x.All P) (agg : Aggregation) :
    (agg.call x).All P :=
  hP.all_call (List.forall_mem_singleton.mpr h) _ _

theorem Predicate.all_condition {x value : ExprText} (hx : x.All P) (hvalue : value.All P)
    (p : Predicate) : (p.condition x value).All P := by
  cases p with
  | compare op _ => exact hP.all_binary hx hvalue
  | oneOf values =>
    refine hP.all_expr rfl ?_
    simp only [condition, exprChildren, List.forall_mem_cons, List.map_map, List.forall_mem_map]
    exact ⟨hx, fun _ _ => hvalue⟩
  | between _ _ =>
    refine hP.all_expr rfl ?_
    simp only [condition, exprChildren, List.forall_mem_cons]
    exact ⟨hx, hvalue, hvalue, List.forall_mem_nil _⟩

namespace Sql

/-- Conditions that are joined by AND. -/
theorem Conjunction.all_tree {c : Conjunction} (hfirst : c.first.All P)
    (hfurther : ∀ x ∈ c.further, ExprText.All P x) : Node.All P (.expr c.tree) := by
  obtain ⟨first, further⟩ := c
  have hall : ∀ (xs : List ExprText) (e : Expr), Node.All P (.expr e) →
      (∀ x ∈ xs, ExprText.All P x) →
        Node.All P (.expr (xs.foldl (fun left x => .binary .and left x.tree) e)) := by
    intro xs
    induction xs with
    | nil => exact fun e he _ => he
    | cons x xs ih =>
      intro e he hxs
      rw [List.forall_mem_cons] at hxs
      exact ih _ (hP.all_binary he hxs.1) hxs.2
  exact hall further first.tree hfirst hfurther

/-! ### Sources -/

theorem LeftJoin.all_join {j : LeftJoin} (hsource : P (.source (.short j.table j.name)))
    (hcondition : Node.All P (.expr j.condition.tree)) : Node.All P (.join j.join) := by
  refine all_iff.mpr ⟨hP.join _, ?_⟩
  simp only [LeftJoin.join, children, Option.toList_some, List.map_cons, List.map_nil,
    List.forall_mem_cons]
  exact ⟨Source.all_short hsource, hcondition, List.forall_mem_nil _⟩

/-! ### Selections -/

theorem SelectText.All.query {s : SelectText} (h : s.All P) (hquery : P (.query s.query)) :
    Node.All P (.query s.query) := by
  have hfrom : Node.All P (.fromItem (.mk (.short s.table s.name) (s.joins.map LeftJoin.join))) := by
    refine all_iff.mpr ⟨hP.fromItem _, ?_⟩
    simp only [children, List.forall_mem_cons, List.forall_mem_map]
    exact ⟨Source.all_short h.source, h.joins⟩
  have hitems : ∀ x index, (x, index) ∈ s.items.zipIdx →
      Node.All P (.item (.expr (some ⟨itemAlias index, none⟩) x.tree)) := fun x _ hitem =>
    hP.all_item (h.items x (List.fst_mem_of_mem_zipIdx hitem)) _
  have hgroups : ∀ x ∈ s.groupBy, Node.All P (.expr x.tree) := h.groupBy
  have hselect : Node.All P (.select s.select) := by
    refine all_iff.mpr ⟨hP.select _, ?_⟩
    simp only [SelectText.select, children, List.forall_mem_append, List.forall_mem_map,
      Option.toList_none, Option.toList_some, List.forall_mem_singleton]
    simpa [hfrom, h.condition] using ⟨hitems, hgroups⟩
  have hbody : Node.All P (.body (.select s.select)) :=
    all_iff.mpr ⟨hP.body _, List.forall_mem_singleton.mpr hselect⟩
  have hkeys : ∀ k ∈ s.orderBy, Node.All P (.key (SortText.orderKey k)) := fun k hk =>
    all_iff.mpr ⟨hP.key _, List.forall_mem_singleton.mpr (h.orderBy k hk)⟩
  have hlimit := hP.all_literal (.number s.limit false)
  refine all_iff.mpr ⟨hquery, ?_⟩
  simp only [SelectText.query, children, List.forall_mem_append, List.forall_mem_map]
  simpa [hbody, hlimit] using hkeys

end Sql

/-! ### Selections of a query -/

/-- What holds of the expressions of the fields that a query uses, of the sources and of the conditions
holds of all of its selection. -/
theorem Query.Selects.all {q : Query} {d : Dataset} {dialect : Dialect} {r : DatasetText}
    {value : ExprText} {s : SelectText} (h : q.Selects d dialect r value s)
    (hfield : ∀ name ∈ Plan.fieldsOf q.dimensions q.measures q.filters q.orderBy,
      ∀ x, FieldText d dialect r name x → ExprText.All P x)
    (hsource : P (.source (.short r.table r.name)))
    (hjoins : d.needsJoin q.usedFields = true → ∀ j ∈ r.joins, Node.All P (.join (LeftJoin.join j)))
    (hcondition : r.condition.All P) (hvalue : value.All P) : s.All P := by
  simp only [Plan.fieldsOf, Text.mem_sorted, List.forall_mem_append, List.forall_mem_map] at hfield
  obtain ⟨⟨⟨hdims, hms⟩, hfs⟩, hos⟩ := hfield
  have hgroups : ∀ x ∈ s.groupBy, ExprText.All P x := by
    intro x hx
    obtain ⟨dim, hmem, hdim⟩ := Steps.exists_origin h.groupBy hx
    exact hdims dim hmem x hdim
  obtain ⟨calls, hitems, hcalls⟩ := h.items
  refine ⟨?_, ?_, ?_, Conjunction.all_tree hP ?_ ?_, hgroups, ?_⟩
  · rw [hitems, List.forall_mem_append]
    refine ⟨hgroups, fun y hy => ?_⟩
    obtain ⟨m, hmem, x, hx, rfl⟩ := Steps.exists_origin hcalls hy
    exact Aggregation.all_call hP (hms m hmem x hx) m.agg
  · rw [h.table, h.name]
    exact hsource
  · rw [h.joins]
    split
    · next hneeds => exact hjoins hneeds
    · exact List.forall_mem_nil _
  · rw [h.softDelete]
    exact hcondition
  · intro y hy
    obtain ⟨f, hmem, x, hx, -, rfl⟩ := Steps.exists_origin h.filters hy
    exact Predicate.all_condition hP (hfs f hmem x hx) hvalue f.predicate
  · intro k hk
    obtain ⟨o, hmem, ho, -⟩ := Steps.exists_origin h.orderBy hk
    exact hos o hmem k.key ho

end

end ScopedQuery
