import ScopedQuery.Proofs.Bound.Selected
import ScopedQuery.Proofs.Schema.Tasks
import ScopedQuery.Proofs.Store.Selecting
/-!
# Rows that a query may select

* `DatasetText.Unnumbered`: what a dataset is read as has no placeholder in it.
* `Query.Selects.hasCell_deleted` and `Query.Selects.hasCell_assignee`: the tasks that a bound query selects are
  not deleted, and have the assignee that a filter names.
-/

namespace ScopedQuery

open Sql Store Steps

/-! ### Datasets without placeholders -/

/-- The expressions and the joins of a dataset have no placeholder in them. -/
structure DatasetText.Unnumbered (r : DatasetText) : Prop where
  fields : ∀ x ∈ r.fields, x.tree.holes? = some 0
  joins : ∀ j ∈ r.joins, j.condition.tree.holes? = some 0
  condition : r.condition.tree.holes? = some 0

theorem Dataset.tasks_unnumbered : taskText.Unnumbered where
  fields := by decide
  joins := by decide
  condition := by decide

/-- A condition has as many placeholders as there are operands. -/
theorem Predicate.holes?_condition {x : ExprText} (h : x.tree.holes? = some 0) (p : Predicate) :
    (p.condition x ExprText.hole).tree.holes? = some p.operands.length := by
  have hhole : ExprText.hole.tree.holes? = some 1 := rfl
  cases p with
  | compare op value => exact Expr.holes?_binary.mpr ⟨0, 1, h, hhole, rfl⟩
  | oneOf values =>
    have hall : Expr.allHoles? (values.map fun _ => ExprText.hole.tree) = some values.length := by
      induction values with
      | nil => rfl
      | cons value values ih =>
        exact Expr.allHoles?_cons.mpr ⟨1, values.length, hhole, ih, Nat.add_comm _ _⟩
    simp only [Predicate.condition, Expr.holes?, h, hall]
    exact congrArg some (Nat.zero_add values.length)
  | between low high =>
    simp [Predicate.condition, Expr.holes?, h, hhole, Predicate.operands]

/-! ### Conditions of selections -/

section

variable {q : Query} {d : Dataset} {dialect : Dialect} {r : DatasetText} {x : SelectText}
  (h : q.Selects d dialect r .hole x) (hr : r.Unnumbered)

include h hr

/-- Operands are bound in the condition only. -/
theorem Query.Selects.bindsInCondition : x.BindsInCondition where
  items := by
    intro item hitem
    obtain ⟨calls, hitems, hcalls⟩ := h.items
    rw [hitems, List.mem_append] at hitem
    rcases hitem with hitem | hitem
    · obtain ⟨_, -, _, -, hmem, -⟩ := exists_origin h.groupBy hitem
      exact hr.fields item hmem
    · obtain ⟨m, -, y, ⟨_, -, hmem, -⟩, rfl⟩ := exists_origin hcalls hitem
      rw [Aggregation.call, Expr.holes?_call, Item.allHoles?_cons]
      exact ⟨0, 0, hr.fields y hmem, rfl, rfl⟩
  joins := by
    intro j hj
    rw [h.joins] at hj
    split at hj
    · exact hr.joins j hj
    · cases hj

/-- The filters have as many placeholders as their operands. -/
theorem Query.Selects.holes?_filters :
    List.Forall₂ (fun f y => (ExprText.tree y).holes? =
      some (Query.Filter.predicate f).operands.length) q.filters x.condition.further := by
  refine h.filters.imp fun f y hy => ?_
  obtain ⟨z, ⟨_, -, hmem, -⟩, -, rfl⟩ := hy
  exact Predicate.holes?_condition (hr.fields z hmem) f.predicate

end

/-! ### Rows of tasks -/

/-- The field that a task's assignee is asked for by is read as a column. -/
theorem FieldText.assignee : FieldText .tasks .sqlite Dataset.taskText "ASSIGNEE_ID"
    (.column "t" "assignee_id") :=
  ⟨.plain "ASSIGNEE_ID" "t.assignee_id" .integer, rfl, by simp [Dataset.taskText, Dataset.taskTexts],
    ExprText.read_column 2 (by decide) (by decide) rfl⟩

section

variable {ε : Type} {engine : Store → Calendar.Moment → SqlEngine ε} {truth : Truth}
  (hengine : SelectsFirst engine truth) {q : Query} {x : SelectText}
  (h : q.Selects .tasks .sqlite Dataset.taskText .hole x) {t : Table} {others : Sources}
  {occasion : Occasion} {row : Joined} {r : Row}
  (htrue : truth ((x.name, t) :: others) x.condition.tree 0 occasion (r :: row) = true)

include hengine h htrue

/-- The condition on tasks is true where the whole condition is, and so are all filters. -/
theorem Query.Selects.parts :
    truth ((x.name, t) :: others) Dataset.taskText.condition.tree 0 occasion (r :: row) = true ∧
      ∀ k y, x.condition.further[k]? = some y → truth ((x.name, t) :: others) y.tree
        ((q.filters.take k).map (·.predicate.operands.length)).sum occasion (r :: row) = true := by
  have hfirst : x.condition.first.tree.holes? = some 0 := by
    rw [h.softDelete]
    exact Dataset.tasks_unnumbered.condition
  obtain ⟨hdeleted, hfilters⟩ := hengine.parts hfirst (h.holes?_filters Dataset.tasks_unnumbered) htrue
  rw [h.softDelete] at hdeleted
  refine ⟨hdeleted, fun k y hy => ?_⟩
  have htrue' := hfilters k y hy
  rwa [Nat.zero_add] at htrue'

/-- Tasks that are selected are not deleted. -/
theorem Query.Selects.hasCell_deleted : t.hasCell "deleted" (.integer 0) r = true := by
  obtain ⟨hdeleted, -⟩ := h.parts hengine htrue
  rw [h.name] at hdeleted
  exact hengine.equation "t" t others "deleted" ExprText.zero.tree (.integer 0) 0 occasion r row
    rfl hdeleted

/-- Tasks that are selected have the assignee that a filter names. -/
theorem Query.Selects.hasCell_assignee {k : Nat} {value : String} {cell : Cell}
    (hfilter : q.filters[k]? = some ⟨"ASSIGNEE_ID", .compare .eq value⟩)
    (hparam : occasion.params[((q.filters.take k).map (·.predicate.operands.length)).sum]? =
      some cell) : t.hasCell "assignee_id" cell r = true := by
  obtain ⟨-, hfilters⟩ := h.parts hengine htrue
  obtain ⟨y, hy, z, hz, -, rfl⟩ := exists_partner h.filters hfilter
  obtain rfl := hz.unique FieldText.assignee
  have hassignee := hfilters k _ hy
  rw [h.name] at hassignee
  exact hengine.equation "t" t others "assignee_id" ExprText.hole.tree cell _ occasion r row hparam
    hassignee

end

end ScopedQuery
