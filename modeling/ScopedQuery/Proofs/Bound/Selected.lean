import ScopedQuery.Proofs.Bound.Clauses
import ScopedQuery.Proofs.Schema.Tasks
/-!
# Bound queries read back

* `Query.Selects` says which selection a query is meant to be: its expressions are those of its fields,
  and its conditions, sort keys and limit are those of the query, in order.
* `Query.Written.exists_selects`: the clauses are read as this selection, also if the texts of their
  conditions are rewritten so that something else stands in the places of the operands.
* `Query.Written.statements?`: the text of a bound query is read as this selection, and as nothing else.
-/

namespace ScopedQuery

open Sql

/-- A name stands for a field that is read as an expression. -/
def FieldText (d : Dataset) (dialect : Dialect) (r : DatasetText) (name : String) (x : ExprText) :
    Prop :=
  ∃ field, d.field? name = some field ∧ x ∈ r.fields ∧ x.Read 2 (field.expressionIn dialect)

namespace Query

/-- The selection that a query is meant to be, with `value` in the places of its operands. -/
structure Selects (q : Query) (d : Dataset) (dialect : Dialect) (r : DatasetText) (value : ExprText)
    (s : SelectText) : Prop where
  groupBy : List.Forall₂ (fun dim x => FieldText d dialect r (Dimension.field dim) x)
    q.dimensions s.groupBy
  items : ∃ calls, s.items = s.groupBy ++ calls ∧
    List.Forall₂ (fun m y => ∃ x, FieldText d dialect r (Measure.field m) x ∧ y = m.agg.call x)
      q.measures calls
  selected : s.items ≠ []
  table : s.table = r.table
  name : s.name = r.name
  joins : s.joins = if d.needsJoin q.usedFields then r.joins else []
  softDelete : s.condition.first = r.condition
  filters : List.Forall₂ (fun f y => ∃ x, FieldText d dialect r (Filter.field f) x ∧
      f.predicate ≠ .oneOf [] ∧ y = f.predicate.condition x value)
    q.filters s.condition.further
  orderBy : List.Forall₂ (fun o k => FieldText d dialect r (Order.field o) (SortText.key k) ∧
    k.direction = o.direction) q.orderBy s.orderBy
  limit : s.limit = toString q.limit

end Query

section

variable {d : Dataset} {dialect : Dialect} {r : DatasetText}

/-- A field that a dataset has is read as one of its expressions. -/
theorem Dataset.Read.field (hd : d.Read dialect r) {name : String} {field : Field}
    (hfield : d.field? name = some field) :
    ∃ x, FieldText d dialect r name x ∧ Writes (field.expressionIn dialect) x.tokens := by
  have hmem := List.mem_of_find?_eq_some hfield
  obtain ⟨k, hk⟩ := List.mem_iff_getElem?.mp hmem
  obtain ⟨x, hx, hread⟩ := Steps.exists_partner hd.fields hk
  exact ⟨x, ⟨field, hfield, List.mem_of_getElem? hx, hread⟩, hread.writes⟩

theorem Dataset.Read.expression (hd : d.Read dialect r) {name text : String}
    (h : d.expression dialect name = .ok text) :
    ∃ x, FieldText d dialect r name x ∧ x.Read 2 text := by
  obtain ⟨field, hfield, rfl⟩ := Dataset.expression_eq_ok.mp h
  obtain ⟨x, hx, -⟩ := hd.field hfield
  refine ⟨x, hx, ?_⟩
  obtain ⟨field', hfield', -, hread⟩ := hx
  rw [hfield, Option.some.injEq] at hfield'
  rw [hfield']
  exact hread

theorem FieldText.operand {name : String} {x : ExprText} (h : FieldText d dialect r name x) :
    Operand 3 x.tokens x.tree := by
  obtain ⟨_, -, -, hread⟩ := h
  exact hread.operand.mono (by omega)

theorem Dataset.Read.exists_calls (hd : d.Read dialect r) {ms : List Query.Measure}
    {texts : List String}
    (h : List.Forall₂ (fun m text => Query.Measure.item m d dialect = .ok text) ms texts) :
    ∃ ys, List.Forall₂ (fun m y => ∃ x, FieldText d dialect r (Query.Measure.field m) x ∧
        y = m.agg.call x) ms ys ∧
      List.Forall₂ (fun text y => Writes text (ExprText.tokens y)) texts ys := by
  apply Steps.exists_between
  refine h.imp fun m text hm => ?_
  obtain ⟨expression, hexpression, -, rfl⟩ := Query.Measure.item_eq_ok.mp hm
  obtain ⟨x, hx, hread⟩ := hd.expression hexpression
  exact ⟨m.agg.call x, ⟨x, hx, rfl⟩, Aggregation.writes_call hread m.agg⟩

/-- A name stands for one expression only. -/
theorem FieldText.unique {name : String} {x y : ExprText} (hx : FieldText d dialect r name x)
    (hy : FieldText d dialect r name y) : x = y := by
  obtain ⟨field, hfield, -, hread⟩ := hx
  obtain ⟨field', hfield', -, hread'⟩ := hy
  rw [hfield, Option.some.injEq] at hfield'
  rw [← hfield'] at hread'
  exact hread.unique hread'

end

/-! ### Rewritten conditions -/

/-- The clauses with the texts of their conditions rewritten. -/
def Clauses.rewritten (rewrite : String → String) (c : Clauses) : Clauses :=
  { c with conditions := c.conditions.map fun cond => { cond with sql := rewrite cond.sql } }

/-- The text of each rewritten condition is read with a value in the places of its operands. -/
def Dataset.ReadWith (d : Dataset) (dialect : Dialect) (rewrite : String → String)
    (value : ExprText) : Prop :=
  ∀ f ∈ d.fields, ∀ x : ExprText, Writes (Field.expressionIn f dialect) x.tokens →
    ∀ p : Predicate, Writes (rewrite (p.sql (Field.expressionIn f dialect))) (p.condition x value).tokens

/-- As they are written, conditions have placeholders for their operands. -/
theorem Dataset.readWith_hole (d : Dataset) (dialect : Dialect) : d.ReadWith dialect id .hole := by
  intro f _ x hx p
  rw [id, Predicate.sql_eq]
  exact Predicate.writes_textWith hx ExprText.writes_hole p

namespace Query.Written

variable {q : Query} {d : Dataset} {dialect : Dialect} {c : Clauses} {r : DatasetText}
  (h : q.Written d dialect c) (hd : d.Read dialect r)

include h hd

theorem exists_groups : ∃ xs,
    List.Forall₂ (fun dim x => FieldText d dialect r (Dimension.field dim) x) q.dimensions xs ∧
      List.Forall₂ (fun text x => Writes text (ExprText.tokens x)) c.groupBy xs := by
  apply Steps.exists_between
  refine h.groupBy.imp fun dim text hdim => ?_
  obtain ⟨x, hx, hread⟩ := hd.expression hdim
  exact ⟨x, hx, hread.writes⟩

theorem exists_conditions {rewrite : String → String} {value : ExprText}
    (hvalue : d.ReadWith dialect rewrite value) : ∃ ys,
    List.Forall₂ (fun f y => ∃ x, FieldText d dialect r (Filter.field f) x ∧
        f.predicate ≠ .oneOf [] ∧ y = f.predicate.condition x value) q.filters ys ∧
      List.Forall₂ (fun cond y => Writes (rewrite (Condition.sql cond)) (ExprText.tokens y))
        c.conditions ys := by
  apply Steps.exists_between
  refine h.conditions.imp fun f cond hcond => ?_
  obtain ⟨field, hfield, hne, hsql, -⟩ := Filter.condition_eq_ok.mp hcond
  obtain ⟨x, hx, hwrites⟩ := hd.field hfield
  refine ⟨_, ⟨x, hx, hne, rfl⟩, ?_⟩
  rw [hsql]
  exact hvalue field (List.mem_of_find?_eq_some hfield) x hwrites f.predicate

theorem exists_keys : ∃ ks,
    List.Forall₂ (fun o k => FieldText d dialect r (Order.field o) (SortText.key k) ∧
        k.direction = o.direction) q.orderBy ks ∧
      List.Forall₂ (fun text k => Writes text (SortText.tokens k)) c.orderBy ks := by
  apply Steps.exists_between
  refine h.orderBy.imp fun o text ho => ?_
  obtain ⟨expression, hexpression, rfl⟩ := Order.key_eq_ok.mp ho
  obtain ⟨x, hx, hread⟩ := hd.expression hexpression
  have hkey := writes_key (k := ⟨x, o.direction⟩) hread.writes
  exact ⟨⟨x, o.direction⟩, ⟨hx, rfl⟩, hkey⟩

/-- The clauses of a query are read as the selection that it is meant to be. -/
theorem exists_selects {rewrite : String → String} {value : ExprText}
    (hvalue : d.ReadWith dialect rewrite value) :
    ∃ s, q.Selects d dialect r value s ∧ (c.rewritten rewrite).Spelled s := by
  obtain ⟨groupBy, hgroups, hgroupTexts⟩ := h.exists_groups hd
  obtain ⟨measures, hmeasures, hitems⟩ := h.items
  obtain ⟨calls, hcalls, hcallTexts⟩ := hd.exists_calls hmeasures
  obtain ⟨further, hfilters, hfilterTexts⟩ := h.exists_conditions hd hvalue
  obtain ⟨orderBy, hkeys, hkeyTexts⟩ := h.exists_keys hd
  have hitemTexts : List.Forall₂ (fun text x => Writes text (ExprText.tokens x)) c.items
      (groupBy ++ calls) := by
    rw [hitems]
    exact List.rel_append hgroupTexts hcallTexts
  have hselected : groupBy ++ calls ≠ [] := by
    intro hnil
    rw [hnil] at hitemTexts
    exact h.selected (List.forall₂_nil_right_iff.mp hitemTexts)
  have hjoins : List.Forall₂ (fun text k => Writes text (LeftJoin.tokens k)) c.joins
      (if d.needsJoin q.usedFields then r.joins else []) := by
    rw [h.joins]
    split
    · exact List.forall₂_map_left_iff.mpr hd.joins
    · exact .nil
  refine ⟨⟨groupBy ++ calls, r.table, r.name, if d.needsJoin q.usedFields then r.joins else [],
    ⟨r.condition, further⟩, groupBy, orderBy, toString q.limit⟩, ?_, ?_⟩
  · exact {
      groupBy := hgroups
      items := ⟨calls, rfl, hcalls⟩
      selected := hselected
      table := rfl
      name := rfl
      joins := rfl
      softDelete := rfl
      filters := hfilters
      orderBy := hkeys
      limit := rfl }
  · exact {
      items := hitemTexts
      source := h.source ▸ hd.source
      joins := hjoins
      softDelete := h.softDelete ▸ hd.softDelete
      conditions := List.forall₂_map_left_iff.mpr hfilterTexts
      groupBy := hgroupTexts
      orderBy := hkeyTexts
      limit := by rw [← h.limit]; rfl }

end Query.Written

/-- All expressions of the selection are read as they are meant. -/
theorem Query.Selects.sound {q : Query} {d : Dataset} {dialect : Dialect} {r : DatasetText}
    {value : ExprText} {s : SelectText} (h : q.Selects d dialect r value s) (hd : d.Read dialect r)
    (hvalue : Operand 2 value.tokens value.tree) : s.Sound 3 := by
  have hgroups : ∀ x ∈ s.groupBy, Operand 3 x.tokens x.tree := by
    intro x hx
    obtain ⟨dim, -, hdim⟩ := Steps.exists_origin h.groupBy hx
    exact FieldText.operand hdim
  obtain ⟨calls, hitems, hcalls⟩ := h.items
  refine ⟨?_, h.selected, ?_, ⟨?_, ?_⟩, hgroups, ?_⟩
  · intro x hx
    rw [hitems, List.mem_append] at hx
    rcases hx with hx | hx
    · exact hgroups x hx
    · obtain ⟨m, -, y, hy, rfl⟩ := Steps.exists_origin hcalls hx
      obtain ⟨_, -, -, hread⟩ := hy
      exact Aggregation.operand_call hread m.agg
  · intro j hj
    rw [h.joins] at hj
    split at hj
    · exact hd.sound j hj
    · cases hj
  · rw [h.softDelete]
    exact hd.condition
  · intro y hy
    obtain ⟨f, -, x, hx, hne, rfl⟩ := Steps.exists_origin h.filters hy
    exact Predicate.operation_condition (FieldText.operand hx) hvalue hne
  · intro key hkey
    obtain ⟨o, -, ho, -⟩ := Steps.exists_origin h.orderBy hkey
    exact FieldText.operand ho

/-- The text of a bound query is read as the selection that the query is meant to be. -/
theorem Query.Written.statements? {q : Query} {d : Dataset} {dialect : Dialect} {c : Clauses}
    {r : DatasetText} (h : q.Written d dialect c) (hd : d.Read dialect r) :
    ∃ s, q.Selects d dialect r .hole s ∧ Sql.statements? c.sql = some [.query s.query] := by
  obtain ⟨s, hs, hspelled⟩ := h.exists_selects hd (d.readWith_hole dialect)
  have hsame : c.rewritten id = c := by simp [Clauses.rewritten]
  rw [hsame] at hspelled
  exact ⟨s, hs, (hs.sound hd (ExprText.operand_hole 2)).statements? hspelled.writes⟩

end ScopedQuery
