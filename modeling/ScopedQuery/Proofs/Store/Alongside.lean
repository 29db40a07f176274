import ScopedQuery.Proofs.Store.Selecting
/-!
# One query in two stores

* `Selection.Alike`: two selections differ at most in the rows of their tables.
* `Selection.ofQuery_both`: in two stores with the same headers of tables, a selection is refused for the same
  reason, or means alike selections.
-/

namespace ScopedQuery.Store

open Steps
open Sql (SelectText LeftJoin)

/-! ### Steps that count placeholders -/

/-- Two steps that count placeholders are refused alike, or count alike and come to related results. -/
def Alongside {α β : Type} (R : α → β → Prop) (f : Resolving α) (g : Resolving β) : Prop :=
  ∀ n, Both (fun p q => R p.1 q.1 ∧ p.2 = q.2) (f n) (g n)

namespace Alongside

variable {α β γ δ : Type} {R : α → β → Prop} {S : γ → δ → Prop}

theorem pure {a : α} {b : β} (h : R a b) : Alongside R (pure a) (pure b) := fun _ => ⟨h, rfl⟩

theorem refuse (fault : StoreFault) : Alongside R (refuse fault) (refuse fault) := fun _ => rfl

theorem bind {x : Resolving α} {y : Resolving β} (h : Alongside R x y) {f : α → Resolving γ}
    {g : β → Resolving δ} (hfg : ∀ a b, R a b → Alongside S (f a) (g b)) :
    Alongside S (x >>= f) (y >>= g) := by
  refine fun n => (h n).bind ?_
  rintro ⟨a, m⟩ ⟨b, m'⟩ ⟨hab, rfl⟩
  exact hfg a b hab m

/-- After the same step, the two only have to go on alike. -/
theorem bind_same (x : Resolving α) {f : α → Resolving γ} {g : α → Resolving δ}
    (hfg : ∀ a, Alongside S (f a) (g a)) : Alongside S (x >>= f) (x >>= g) :=
  fun _ => Both.bind_same fun r _ => hfg r.1 r.2

theorem mapM {f : α → Resolving γ} {g : α → Resolving δ} {xs : List α}
    (h : ∀ a ∈ xs, Alongside S (f a) (g a)) :
    Alongside (List.Forall₂ S) (xs.mapM f) (xs.mapM g) := by
  induction xs with
  | nil => exact pure .nil
  | cons a xs ih =>
    rw [List.mapM_cons, List.mapM_cons]
    refine (h a (by simp)).bind fun c d hcd => ?_
    refine (ih fun b hb => h b (List.mem_cons_of_mem a hb)).bind fun cs ds hcds => ?_
    exact pure (.cons hcd hcds)

end Alongside

/-! ### Selections -/

/-- Two joins of tables with the same header by the same test. -/
structure JoinedTable.Alike (j k : JoinedTable) : Prop where
  header : j.table.header = k.table.header
  outer : j.outer = k.outer
  test : j.test = k.test

/-- Two selections differ at most in the rows of their tables. -/
structure Selection.Alike (a b : Selection) : Prop where
  base : a.base.header = b.base.header
  joins : List.Forall₂ JoinedTable.Alike a.joins b.joins
  condition : a.condition = b.condition
  items : a.items = b.items
  groupBy : a.groupBy = b.groupBy
  orderBy : a.orderBy = b.orderBy
  limit : a.limit = b.limit

/-- Sources with the same names, whose tables have the same headers. -/
def SameHeaders (ss ts : Sources) : Prop :=
  List.Forall₂ (fun s t => s.1 = t.1 ∧ s.2.header = t.2.header) ss ts

section

variable {ss ts : Sources} (h : SameHeaders ss ts)

include h

theorem SameHeaders.alike : Sources.Alike ss ts :=
  h.imp fun _ _ hst => ⟨hst.1, Table.columns_eq_of_header_eq hst.2⟩

theorem joinedTable_alongside (x : Sql.Join × Nat) :
    Alongside JoinedTable.Alike (joinedTable ss x) (joinedTable ts x) := by
  unfold joinedTable
  split
  · next kind natural on index =>
    obtain ⟨hs, ht⟩ | ⟨p, q, hs, ht, -, hheader⟩ := partners_cases h (index + 1)
    · rw [hs, ht]
      cases isOuter? kind with
      | none => exact .refuse _
      | some outer => exact .refuse _
    · rw [hs, ht, Test.ofOption_alike (h.alike.take (index + 2))]
      cases isOuter? kind with
      | none => exact .refuse _
      | some outer => exact .bind_same _ fun test => .pure ⟨hheader, rfl, rfl⟩
  · exact Alongside.refuse _

theorem ofParts_alongside (items : List Sql.Item) (joins : List Sql.Join)
    (condition : Option Sql.Expr) (groupBy : List Sql.Expr) (orderBy : List Sql.OrderKey)
    (limit : Option Sql.Expr) :
    Alongside Selection.Alike (Selection.ofParts ss items joins condition groupBy orderBy limit)
      (Selection.ofParts ts items joins condition groupBy orderBy limit) := by
  have hbase : ((ss.head?.map Prod.snd).getD Table.single).header =
      ((ts.head?.map Prod.snd).getD Table.single).header := by
    cases h with
    | nil => rfl
    | cons hfirst _ => exact hfirst.2
  unfold Selection.ofParts
  rw [NamedOutput.ofItem_alike h.alike, Test.ofOption_alike h.alike, Term.ofExpr_alike h.alike,
    SortKey.ofKey_alike h.alike]
  refine .bind_same _ fun outputs => ?_
  refine .bind (.mapM fun x _ => joinedTable_alongside h x) fun js ks hjoins => ?_
  refine .bind_same _ fun test => ?_
  refine .bind_same _ fun groups => ?_
  refine .bind_same _ fun keys => ?_
  split
  · exact .refuse _
  · exact .pure ⟨hbase, hjoins, rfl, rfl, rfl, rfl, rfl⟩

end

/-! ### Queries -/

theorem namedTable_short (s : Store) (table name : String) :
    namedTable s (.short table name) = do return (name, ← s.table? table) := by
  cases h : s.table? table with
  | error fault => simp [namedTable, Sql.Source.short, h]
  | ok t => simp [namedTable, Sql.Source.short, h]

/-- What a selection means when its sources are known. -/
def SelectText.resolve (x : SelectText) (sources : Sources) : Resolving Selection :=
  Selection.ofParts sources (x.items.zipIdx.map fun item => .expr (some ⟨Sql.itemAlias item.2, none⟩) item.1.tree)
    (x.joins.map LeftJoin.join) (some x.condition.tree) (x.groupBy.map (·.tree))
    (x.orderBy.map Sql.SortText.orderKey) (some (.literal (.number x.limit false)))

/-- The tables of a selection are looked up first. -/
theorem Selection.ofQuery_eq (s : Store) (x : SelectText) :
    Selection.ofQuery s x.query = (do
      let sources ← x.sources s
      SelectText.resolve x sources 0) := by
  simp only [SelectText.query, SelectText.select, Selection.ofQuery, joinedSources, namedTable_short,
    SelectText.sources, bind_assoc, pure_bind, List.mapM_map]
  simp only [Function.comp_def]
  rfl

section

variable {s u : Store} (h : ∀ name, (s.table? name).map (·.header) = (u.table? name).map (·.header))

include h

theorem sources_both (x : SelectText) : Both SameHeaders (x.sources s) (x.sources u) := by
  have htable : ∀ name, Both (fun t t' => t.header = t'.header) (s.table? name) (u.table? name) :=
    fun name => .of_map_eq (h name)
  have hothers : Both SameHeaders (x.joins.mapM fun j => do return (j.name, ← s.table? j.table))
      (x.joins.mapM fun j => do return (j.name, ← u.table? j.table)) :=
    Both.mapM fun j _ => (htable j.table).bind fun t t' hjoined => .ok ⟨rfl, hjoined⟩
  exact (htable x.table).bind fun t t' hfirst => hothers.bind fun ss ts hrest =>
    .ok (.cons ⟨rfl, hfirst⟩ hrest)

/-- A query of two stores whose tables have the same headers. -/
theorem Selection.ofQuery_both (x : SelectText) :
    Both (fun p q => Selection.Alike p.1 q.1 ∧ p.2 = q.2) (Selection.ofQuery s x.query)
      (Selection.ofQuery u x.query) := by
  rw [Selection.ofQuery_eq, Selection.ofQuery_eq]
  exact (sources_both h x).bind fun ss ts hsources => ofParts_alongside hsources _ _ _ _ _ _ 0

end

end ScopedQuery.Store
