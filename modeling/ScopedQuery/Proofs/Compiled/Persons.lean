import ScopedQuery.Proofs.Caller.Persons
import ScopedQuery.Proofs.Compiled.Accepted
import ScopedQuery.Proofs.Query.Denoted
/-!
# No plain user learns of other persons

* `Query.SparesPersons`: a query neither groups by a field that tells persons apart nor counts persons.
* `Caller.compile_persons`: the queries of plain users are such queries, and plans that ask for more are
  answered by a question back.
-/

namespace ScopedQuery

open Text

/-- The query has no dimension on a field that tells persons apart, and it does not count the values of the
scoped field. -/
structure Query.SparesPersons (q : Query) (d : Dataset) : Prop where
  dimensions : ∀ dim ∈ q.dimensions, dim.field ∉ d.crossPersonFields
  measures : ∀ m ∈ q.measures, ¬(m.agg = .countDistinct ∧ m.field = d.scopedField)

/-- A plan denotes such a query if it does not ask for several persons itself. -/
theorem Plan.Denotes.sparesPersons {d : Dataset} {limits : Limits} {p : Plan} {q : Query}
    (h : p.Denotes d limits q) {question : String} (hp : ¬Scope.AsksAcross d question p) :
    q.SparesPersons d := by
  constructor
  · intro dim hdim hcross
    obtain ⟨x, hx, hdenotes⟩ := Steps.exists_origin h.dimensions hdim
    exact hp (.inl ⟨x, hx, dim.field, hcross, hdenotes.field.tells.1⟩)
  · rintro m hm ⟨hagg, hfield⟩
    obtain ⟨x, hx, hdenotes⟩ := Steps.exists_origin h.measures hm
    have hspells := hdenotes.agg
    have htells := hdenotes.field.tells.1
    rw [hagg] at hspells
    rw [hfield] at htells
    exact hp (.inr (.inl ⟨x, hx, hspells, htells⟩))

/-- A plan that asks a question back is compiled to this question. -/
theorem ScopedPlan.compile_clarification (dataset : Option String) {question : String}
    (hquestion : trim question = question) (hne : question ≠ "") (registry : Registry)
    (limits : Limits) (dialect : Dialect) :
    ScopedPlan.compile ⟨false, .clarification dataset question⟩ registry limits dialect =
      .ok (.clarify (.clarification dataset question) question) := by
  refine ScopedPlan.compile_eq_clarify.mpr ⟨.inl rfl, rfl, ?_⟩
  have hfilled : filled? (some question) = some question :=
    filled?_eq_some.mpr ⟨question, rfl, hquestion, hne⟩
  rw [Plan.question, Plan.clarification, hfilled, Option.getD_some]

/-- For a plain user whose plan does not name the user in its first equation on the scoped field: what is
run neither tells persons apart nor counts them, and its question has no cue; and a plan or question that
concerns several persons is answered by a question back, whatever else the plan holds. -/
theorem Caller.compile_persons (registry : Registry) (limits : Limits) (dialect : Dialect)
    {caller : Caller} (question : String) {p : Plan}
    (hscoped : registry.dataset.scopedField ≠ "") (hrole : caller.role ≠ .admin)
    (hfirst : ¬Scope.NamesFirst registry.dataset caller.idText p) :
    (∀ plan b, caller.compile registry limits dialect question p = .ok (.ready plan b) →
      ∃ q, plan.check registry limits = .ok (.query q) ∧ q.compile registry dialect = .ok b ∧
        q.SparesPersons registry.dataset ∧ ¬Scope.HasCue question) ∧
    (1 ≤ caller.id.toInt → Scope.AsksAcross registry.dataset question p →
      caller.compile registry limits dialect question p =
        .ok (.clarify
          { dataset := p.dataset
            needClarification := some true
            clarifyingQuestion := some Scope.clarification }
          Scope.clarification)) := by
  have hid : caller.idText ≠ "" := toString_ne_empty _
  have hpinned : ¬Scope.isPinned registry.dataset p caller.idText = true :=
    (Scope.isPinned_iff_namesFirst hscoped hid).not.mpr hfirst
  constructor
  · intro plan b h
    obtain ⟨hscope, q, hcheck, hq⟩ := Caller.compile_eq_ready.mp h
    rw [Caller.scope_eq hrole (Caller.one_le_of_scope hrole hscope), if_neg hpinned] at hscope
    split at hscope
    · cases hscope
    · next hcross =>
      rw [Scope.isCrossPerson_iff_asksAcross hscoped] at hcross
      -- pinning leaves dimensions and measures as they are
      have hsame : ¬Scope.AsksAcross registry.dataset question
          (Scope.pin registry.dataset p caller.idText) := hcross
      obtain ⟨-, rfl⟩ := ScopedPlan.mk.inj (Except.ok.inj hscope)
      have hdenotes := Plan.checked_iff_denotes.mp (Plan.check_eq_query.mp hcheck).2.2
      exact ⟨q, hcheck, hq, hdenotes.sparesPersons hsame, fun hcue => hcross (.inr (.inr hcue))⟩
  · intro hpositive hacross
    have hcross := (Scope.isCrossPerson_iff_asksAcross hscoped).mpr hacross
    rw [Caller.compile, Caller.scope_eq hrole hpositive, if_neg hpinned, if_pos hcross]
    exact ScopedPlan.compile_clarification p.dataset (by decide +kernel) (by decide) registry limits
      dialect

/-- User 42 may have the tasks of user 7 counted, which become the user's own, but not the tasks of each
assignee, although the plan is invalid in other ways. -/
theorem Caller.compile_persons_for_42 :
    let amy : Caller := ⟨42, "amy", .user⟩
    let other : Plan.Filter := { field := some " ASSIGNEE_ID", op := some "eq", value := some "7" }
    let counted : Plan := {
      dataset := some "TASK"
      measures := [{ agg := some "COUNT", field := some "TASK_ID" }]
      filters := [other] }
    let each : Plan := {
      dataset := some "task"
      measures := [{ agg := some "MEDIAN", field := some "TASK_ID" }]
      dimensions := [{ field := some "STATUS" }, { field := some " ASSIGNEE_NAME\t" }]
      filters := [other] }
    (∃ plan b q, amy.compile .builtin .standard .mysql "How many?" counted = .ok (.ready plan b) ∧
      plan.check .builtin .standard = .ok (.query q) ∧ q.SparesPersons .tasks) ∧
      amy.compile .builtin .standard .mysql "How many?" each =
        .ok (.clarify
          { dataset := some "task"
            needClarification := some true
            clarifyingQuestion := some Scope.clarification }
          Scope.clarification) := by
  intro amy other counted each
  have hscoped : Dataset.tasks.scopedField ≠ "" := by decide
  have hid : amy.idText ≠ "" := by decide
  have hcounted : ¬Scope.NamesFirst .tasks amy.idText counted := by
    rw [← Scope.isPinned_iff_namesFirst hscoped hid]
    decide
  have heach : ¬Scope.NamesFirst .tasks amy.idText each := by
    rw [← Scope.isPinned_iff_namesFirst hscoped hid]
    decide
  have hbound : (Scope.pin .tasks counted amy.idText).bound? .builtin .standard .mysql |>.isSome := by
    decide
  constructor
  · obtain ⟨b, hb⟩ := Option.isSome_iff_exists.mp hbound
    have hscope : amy.scope .builtin "How many?" counted =
        .ok ⟨true, Scope.pin .tasks counted amy.idText⟩ := by decide
    have hready := Caller.compile_builtin_eq_ready.mpr ⟨hscope, hb⟩
    obtain ⟨q, hcheck, -, hspares, -⟩ := (Caller.compile_persons .builtin .standard .mysql "How many?"
      hscoped (by decide) hcounted).1 _ b hready
    exact ⟨_, b, q, hready, hcheck, hspares⟩
  · refine (Caller.compile_persons .builtin .standard .mysql "How many?" hscoped (by decide)
      heach).2 (by decide) (.inl ?_)
    exact ⟨_, List.mem_cons_of_mem _ List.mem_cons_self, "ASSIGNEE_NAME", by decide, by decide⟩

end ScopedQuery
