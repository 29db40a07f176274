import ScopedQuery.Compiled
import ScopedQuery.Proofs.Attempts
import ScopedQuery.Proofs.Bound.Clauses
/-!
# Plans that are compiled

* `Caller.compile_eq_ready`: a plan whose query may be run was scoped, checked, bound, and found safe.
* `Caller.compile_eq_clarify`: a plan that asks a question back may not be run, or calls for it itself.
-/

namespace ScopedQuery

open Attempt

theorem Query.compile_eq_ok {q : Query} {registry : Registry} {dialect : Dialect}
    {b : BoundQuery} :
    q.compile registry dialect = .ok b ↔
      q.bind registry dialect = .ok b ∧ Sql.checkSafe registry.dataset.tables b.sql = .ok () := by
  simp only [Query.compile, Attempt.bind_eq_ok, ofExcept_eq_ok]
  constructor
  · rintro ⟨b', hb', h⟩
    split at h
    · simp at h
    · next d hfind =>
      obtain ⟨rfl, -⟩ := Registry.find?_eq_some.mp hfind
      simp only [Attempt.bind_eq_ok, mapError_eq_ok, pure_eq_ok] at h
      obtain ⟨_, hsafe, rfl⟩ := h
      exact ⟨hb', hsafe⟩
  · rintro ⟨hb, hsafe⟩
    have hfind := (Query.bind_eq_ok.mp hb).1
    obtain ⟨d, hd⟩ := Option.isSome_iff_exists.mp hfind
    obtain ⟨rfl, -⟩ := Registry.find?_eq_some.mp hd
    refine ⟨b, hb, ?_⟩
    simp only [hd, hsafe]
    rfl

theorem ScopedPlan.compile_eq_ready {s : ScopedPlan} {registry : Registry} {limits : Limits}
    {dialect : Dialect} {p : Plan} {b : BoundQuery} :
    s.compile registry limits dialect = .ok (.ready p b) ↔
      s.mayRun = true ∧ s.plan = p ∧
        ∃ q, p.check registry limits = .ok (.query q) ∧ q.compile registry dialect = .ok b := by
  simp only [ScopedPlan.compile]
  by_cases hask : (!s.mayRun || s.plan.isClarification) = true
  · rw [if_pos hask]
    simp only [pure_eq_ok, reduceCtorEq, false_iff]
    rintro ⟨hrun, rfl, q, hq, -⟩
    obtain ⟨-, hplain, -⟩ := Plan.check_eq_query.mp hq
    simp [hrun, hplain] at hask
  · rw [if_neg hask]
    simp only [Bool.or_eq_true, not_or, Bool.not_eq_true, Bool.not_eq_false'] at hask
    simp only [Attempt.bind_eq_ok, ofExcept_eq_ok, Steps.mapError_eq_ok]
    constructor
    · rintro ⟨checked, hchecked, h⟩
      cases checked with
      | clarification code question => simp at h
      | query q =>
        simp only [Attempt.bind_eq_ok, pure_eq_ok, Compiled.ready.injEq] at h
        obtain ⟨b', hb', rfl, rfl⟩ := h
        exact ⟨hask.1, rfl, q, hchecked, hb'⟩
    · rintro ⟨-, rfl, q, hq, hb⟩
      refine ⟨_, hq, ?_⟩
      simp [hb]

/-- What is run for a caller is the query of the plan that scoping has left. -/
theorem Caller.compile_eq_ready {caller : Caller} {registry : Registry} {limits : Limits}
    {dialect : Dialect} {question : String} {p plan : Plan} {b : BoundQuery} :
    caller.compile registry limits dialect question p = .ok (.ready plan b) ↔
      caller.scope registry question p = .ok ⟨true, plan⟩ ∧
        ∃ q, plan.check registry limits = .ok (.query q) ∧
          q.compile registry dialect = .ok b := by
  simp only [Caller.compile, Attempt.bind_eq_ok, ofExcept_eq_ok, Steps.mapError_eq_ok,
    ScopedPlan.compile_eq_ready]
  constructor
  · rintro ⟨⟨run, plan⟩, hs, hrun, rfl, hq⟩
    exact ⟨hrun ▸ hs, hq⟩
  · rintro ⟨hs, hq⟩
    exact ⟨_, hs, rfl, rfl, hq⟩

/-! ### Questions back -/

/-- The question that a plan asks back is trimmed and not empty. -/
theorem Plan.question_filled (p : Plan) : Text.trim p.question = p.question ∧ p.question ≠ "" := by
  rw [Plan.question]
  cases hfilled : Text.filled? p.clarifyingQuestion with
  | none => decide
  | some question =>
    obtain ⟨raw, -, htrim, hne⟩ := Text.filled?_eq_some.mp hfilled
    rw [Option.getD_some, ← htrim, Text.trim_trim]
    exact ⟨rfl, htrim ▸ hne⟩

theorem ScopedPlan.compile_eq_clarify {s : ScopedPlan} {registry : Registry} {limits : Limits}
    {dialect : Dialect} {p : Plan} {question : String} :
    s.compile registry limits dialect = .ok (.clarify p question) ↔
      (s.mayRun = false ∨ s.plan.isClarification = true) ∧ s.plan = p ∧ s.plan.question = question := by
  simp only [ScopedPlan.compile]
  by_cases hask : (!s.mayRun || s.plan.isClarification) = true
  · rw [if_pos hask]
    simp only [Bool.or_eq_true, Bool.not_eq_true'] at hask
    simp only [pure_eq_ok, Compiled.clarify.injEq, hask, true_and]
  · rw [if_neg hask]
    simp only [Bool.or_eq_true, Bool.not_eq_true'] at hask
    simp only [hask, false_and, iff_false, Attempt.bind_eq_ok, ofExcept_eq_ok, Steps.mapError_eq_ok]
    rintro ⟨checked, hchecked, h⟩
    cases checked with
    | clarification code asked => exact hask (.inr (Plan.isClarification_of_check hchecked))
    | query q => simp at h

/-- What is asked back is the question of the plan that scoping has left. -/
theorem Caller.compile_eq_clarify {caller : Caller} {registry : Registry} {limits : Limits}
    {dialect : Dialect} {question text : String} {p plan : Plan} :
    caller.compile registry limits dialect question p = .ok (.clarify plan text) ↔
      ∃ run, caller.scope registry question p = .ok ⟨run, plan⟩ ∧
        (run = false ∨ plan.isClarification = true) ∧ plan.question = text := by
  simp only [Caller.compile, Attempt.bind_eq_ok, ofExcept_eq_ok, Steps.mapError_eq_ok,
    ScopedPlan.compile_eq_clarify]
  constructor
  · rintro ⟨⟨run, plan⟩, hs, hask, rfl, hquestion⟩
    exact ⟨run, hs, hask, hquestion⟩
  · rintro ⟨run, hs, hask, hquestion⟩
    exact ⟨_, hs, hask, rfl, hquestion⟩

/-- A compiled plan stands for the plan that scoping has left. -/
theorem ScopedPlan.compile_plan {s : ScopedPlan} {registry : Registry} {limits : Limits}
    {dialect : Dialect} {compiled : Compiled}
    (h : s.compile registry limits dialect = .ok compiled) : compiled.plan = s.plan := by
  cases compiled with
  | clarify p question =>
    obtain ⟨-, hplan, -⟩ := ScopedPlan.compile_eq_clarify.mp h
    exact hplan.symm
  | ready p b =>
    obtain ⟨-, hplan, -⟩ := ScopedPlan.compile_eq_ready.mp h
    exact hplan.symm

end ScopedQuery
