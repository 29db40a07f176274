import ScopedQuery.Proofs.Bound.Failing
import ScopedQuery.Proofs.Compiled.Ready
import ScopedQuery.Proofs.Query.Faults
import ScopedQuery.Schema.Tasks
/-!
# Plans that are not compiled

* `Query.compile_eq_error` and `Caller.compile_eq_error` say at which stage a plan fails.
* `Caller.isRejection_of_compile`: a plan fails without any service being to blame.
* `Caller.compile_failures`: binding a checked query fails for its operands only, and a plan is turned
  down because of the caller, because of the plan, or because its text is not safe.
-/

namespace ScopedQuery

open Attempt

/-- A query fails to be compiled if it cannot be bound, or if its text is refused. -/
theorem Query.compile_eq_error {q : Query} {registry : Registry} {dialect : Dialect} {e : Failure}
    (h : q.compile registry dialect = .error e) :
    q.bind registry dialect = .error e ∨
      ∃ b refusal, q.bind registry dialect = .ok b ∧
        Sql.checkSafe registry.dataset.tables b.sql = .error refusal ∧ e = .refused refusal := by
  obtain hbind | ⟨b, hbind, h⟩ := Attempt.bind_eq_error.mp h
  · exact .inl (ofExcept_eq_error.mp hbind)
  · rw [ofExcept_eq_ok] at hbind
    obtain ⟨hfind, -⟩ := Query.bind_eq_ok.mp hbind
    obtain ⟨d, hd⟩ := Option.isSome_iff_exists.mp hfind
    obtain ⟨rfl, -⟩ := Registry.find?_eq_some.mp hd
    simp only [hd] at h
    obtain hrefused | ⟨_, -, hpure⟩ := Attempt.bind_eq_error.mp h
    · obtain ⟨refusal, hrefusal, rfl⟩ := mapError_eq_error.mp hrefused
      exact .inr ⟨b, refusal, hbind, hrefusal, rfl⟩
    · cases hpure

/-- A plan fails when it is scoped, when what scoping leaves of it is checked, or when the query that
this gives is compiled. -/
theorem Caller.compile_eq_error {caller : Caller} {registry : Registry} {limits : Limits}
    {dialect : Dialect} {question : String} {p : Plan} {e : Failure}
    (h : caller.compile registry limits dialect question p = .error e) :
    (∃ fault, caller.scope registry question p = .error fault ∧ e = .unauthorized fault) ∨
      ∃ plan : Plan, (∃ fault, plan.check registry limits = .error fault ∧ e = .invalidPlan fault) ∨
        ∃ q : Query, plan.check registry limits = .ok (.query q) ∧
          q.compile registry dialect = .error e := by
  obtain hscope | ⟨s, -, h⟩ := Attempt.bind_eq_error.mp h
  · obtain ⟨fault, hfault, rfl⟩ := Steps.mapError_eq_error.mp (ofExcept_eq_error.mp hscope)
    exact .inl ⟨fault, hfault, rfl⟩
  · refine .inr ⟨s.plan, ?_⟩
    unfold ScopedPlan.compile at h
    split at h
    · cases h
    · obtain hcheck | ⟨checked, hcheck, h⟩ := Attempt.bind_eq_error.mp h
      · obtain ⟨fault, hfault, rfl⟩ := Steps.mapError_eq_error.mp (ofExcept_eq_error.mp hcheck)
        exact .inl ⟨fault, hfault, rfl⟩
      · rw [ofExcept_eq_ok, Steps.mapError_eq_ok] at hcheck
        cases checked with
        | clarification code asked => cases h
        | query q =>
          obtain hq | ⟨_, -, hpure⟩ := Attempt.bind_eq_error.mp h
          · exact .inr ⟨q, hcheck, hq⟩
          · cases hpure

/-- Compiling a query crashes only where the safety check of its text does. -/
theorem Query.compile_eq_crashed {q : Query} {registry : Registry} {dialect : Dialect}
    (h : q.compile registry dialect = .crashed) :
    ∃ b, q.bind registry dialect = .ok b ∧
      Sql.checkSafe registry.dataset.tables b.sql = .crashed := by
  obtain hbind | ⟨b, hbind, h⟩ := Attempt.bind_eq_crashed.mp h
  · exact absurd hbind ofExcept_ne_crashed
  · rw [ofExcept_eq_ok] at hbind
    obtain ⟨hfind, -⟩ := Query.bind_eq_ok.mp hbind
    obtain ⟨d, hd⟩ := Option.isSome_iff_exists.mp hfind
    obtain ⟨rfl, -⟩ := Registry.find?_eq_some.mp hd
    simp only [hd] at h
    obtain hcheck | ⟨_, -, hpure⟩ := Attempt.bind_eq_crashed.mp h
    · exact ⟨b, hbind, mapError_eq_crashed.mp hcheck⟩
    · cases hpure

/-- Compiling a plan crashes only after it was scoped and checked, and its query bound. -/
theorem Caller.compile_eq_crashed {caller : Caller} {registry : Registry} {limits : Limits}
    {dialect : Dialect} {question : String} {p : Plan}
    (h : caller.compile registry limits dialect question p = .crashed) :
    ∃ (plan : Plan) (q : Query), plan.check registry limits = .ok (.query q) ∧
      q.compile registry dialect = .crashed := by
  obtain hscope | ⟨s, -, h⟩ := Attempt.bind_eq_crashed.mp h
  · exact absurd hscope ofExcept_ne_crashed
  · unfold ScopedPlan.compile at h
    split at h
    · cases h
    · obtain hcheck | ⟨checked, hcheck, h⟩ := Attempt.bind_eq_crashed.mp h
      · exact absurd hcheck ofExcept_ne_crashed
      · rw [ofExcept_eq_ok, Steps.mapError_eq_ok] at hcheck
        cases checked with
        | clarification code asked => cases h
        | query q =>
          obtain hq | ⟨_, -, hpure⟩ := Attempt.bind_eq_crashed.mp h
          · exact ⟨s.plan, q, hcheck, hq⟩
          · cases hpure

/-- A checked query is bound, unless operands of it cannot be read. -/
theorem Plan.bind_cases {registry : Registry} {limits : Limits} {p : Plan} {q : Query}
    (h : p.check registry limits = .ok (.query q)) (dialect : Dialect) :
    (∃ b, q.bind registry dialect = .ok b ∧ ∀ f ∈ q.filters, ¬f.Misreads registry.dataset) ∨
      ∃ fault, q.bind registry dialect = .error (.invalidPlan fault) ∧
        (∃ f ∈ q.filters, f.Misreads registry.dataset) ∧ fault.OfOperand := by
  obtain ⟨hfind, -, hchecked⟩ := Plan.check_eq_query.mp h
  apply hchecked.fits.bind_cases
  rw [hchecked.dataset]
  exact Registry.find?_code hfind

/-- A plan that is not compiled is turned down, while every service works. -/
theorem Caller.isRejection_of_compile {caller : Caller} {registry : Registry} {limits : Limits}
    {dialect : Dialect} {question : String} {p : Plan} {e : Failure}
    (h : caller.compile registry limits dialect question p = .error e) : e.isRejection = true := by
  obtain ⟨fault, -, rfl⟩ | ⟨plan, ⟨fault, -, rfl⟩ | ⟨q, hcheck, hq⟩⟩ := Caller.compile_eq_error h
  · rfl
  · rfl
  · obtain hbind | ⟨_, refusal, -, -, rfl⟩ := Query.compile_eq_error hq
    · obtain ⟨b, hb, -⟩ | ⟨fault, hfails, -⟩ := Plan.bind_cases hcheck dialect
      · rw [hb] at hbind
        cases hbind
      · rw [hbind, Except.error.injEq] at hfails
        rw [hfails]
        rfl
    · rfl

/-- Binding a checked query fails just if an operand of a filter does not stand for a value of its
field, and it is this that is said then. So a plan is turned down because of its caller, or because the
plan is invalid, for a reason that does not concern what only binding looks for, or because its text
is not safe. -/
theorem Caller.compile_failures (registry : Registry) (limits : Limits) (dialect : Dialect) :
    (∀ (p : Plan) (q : Query), p.check registry limits = .ok (.query q) →
      ((∃ b, q.bind registry dialect = .ok b) ∨
        ∃ fault, q.bind registry dialect = .error (.invalidPlan fault) ∧ fault.OfOperand) ∧
      ((∃ e, q.bind registry dialect = .error e) ↔
        ∃ f ∈ q.filters, f.Misreads registry.dataset)) ∧
    ∀ (caller : Caller) (question : String) (p : Plan) (e : Failure),
      caller.compile registry limits dialect question p = .error e →
        (∃ fault, e = .unauthorized fault) ∨
          (∃ fault, e = .invalidPlan fault ∧ fault.isOfBinding = false) ∨
            ∃ refusal, e = .refused refusal := by
  constructor
  · intro p q hcheck
    obtain ⟨b, hb, hreads⟩ | ⟨fault, hbind, hmisreads, hfault⟩ := Plan.bind_cases hcheck dialect
    · refine ⟨.inl ⟨b, hb⟩, ?_, ?_⟩
      · rintro ⟨e, he⟩
        rw [hb] at he
        cases he
      · rintro ⟨f, hf, hmisreads⟩
        exact absurd hmisreads (hreads f hf)
    · exact ⟨.inr ⟨fault, hbind, hfault⟩, fun _ => hmisreads, fun _ => ⟨_, hbind⟩⟩
  · intro caller question p e h
    obtain ⟨fault, -, rfl⟩ | ⟨plan, ⟨fault, hfault, rfl⟩ | ⟨q, hcheck, hq⟩⟩ :=
      Caller.compile_eq_error h
    · exact .inl ⟨fault, rfl⟩
    · exact .inr (.inl ⟨fault, rfl, Plan.check_failsOnly registry limits plan fault hfault⟩)
    · obtain hbind | ⟨_, refusal, -, -, rfl⟩ := Query.compile_eq_error hq
      · obtain ⟨b, hb, -⟩ | ⟨fault, hfails, -, hfault⟩ := Plan.bind_cases hcheck dialect
        · rw [hb] at hbind
          cases hbind
        · rw [hbind, Except.error.injEq] at hfails
          refine .inr (.inl ⟨fault, hfails, ?_⟩)
          rcases hfault with ⟨_, rfl⟩ | ⟨_, rfl⟩
          · rfl
          · rfl
      · exact .inr (.inr ⟨refusal, rfl⟩)

/-- A plan that looks for the task with number `seven` is checked, but its query cannot be bound; and it
is not compiled for a caller with the id 0. -/
theorem Caller.compile_failures_for_seven :
    let p : Plan := {
      dataset := some "TASK"
      measures := [{ agg := some "COUNT", field := some "TASK_ID" }]
      filters := [.eq "TASK_ID" "seven"] }
    let nobody : Caller := ⟨0, "nobody", .user⟩
    (∃ q fault, p.check .builtin .standard = .ok (.query q) ∧
      q.bind .builtin .sqlite = .error (.invalidPlan fault) ∧ fault.OfOperand ∧
        ∃ f ∈ q.filters, f.Misreads Dataset.tasks) ∧
      ∃ e, nobody.compile .builtin .standard .sqlite "Which?" p = .error e ∧
        ((∃ fault, e = .unauthorized fault) ∨
          (∃ fault, e = .invalidPlan fault ∧ fault.isOfBinding = false) ∨
            ∃ refusal, e = .refused refusal) := by
  intro p nobody
  obtain ⟨hbinds, hcompiles⟩ := Caller.compile_failures .builtin .standard .sqlite
  have hfails : (p.check .builtin .standard).toOption.any (fun checked =>
      match checked with
      | .query q => (q.bind .builtin .sqlite).toOption.isNone
      | .clarification _ _ => false) = true := by decide
  have hturned : nobody.compile .builtin .standard .sqlite "Which?" p =
      .error (.unauthorized (.invalidId 0)) := rfl
  constructor
  · cases hcheck : p.check .builtin .standard with
    | error e => rw [hcheck] at hfails; cases hfails
    | ok checked =>
      rw [hcheck] at hfails
      cases checked with
      | clarification code asked => cases hfails
      | query q =>
        obtain ⟨⟨b, hb⟩ | ⟨fault, hfault, hoperand⟩, hiff⟩ := hbinds p q hcheck
        · simp [hb, Except.toOption] at hfails
        · exact ⟨q, fault, rfl, hfault, hoperand, hiff.mp ⟨_, hfault⟩⟩
  · exact ⟨_, hturned, hcompiles nobody "Which?" p _ hturned⟩

end ScopedQuery
