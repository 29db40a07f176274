import ScopedQuery.Proofs.Bound.Clear
import ScopedQuery.Proofs.Bound.Zeroed
import ScopedQuery.Proofs.Compiled.Failing
/-!
# Bound queries pass the safety check

`Dataset.tasks` is read as tables and expressions that nothing forbids. `Caller.compile_not_refused`
concludes from this what the safety check reads of a bound query of the registry of tasks, that it
accepts it, and that no plan is refused as unsafe or makes it crash. So a plan that can be bound is
ready to run (`Caller.compile_builtin_eq_ready`).
-/

namespace ScopedQuery

open Sql

/-! ### The dataset of project tasks -/

namespace Dataset

theorem tasks_clear (dialect : Dialect) : (taskTextIn dialect).Clear tasks.tables where
  fields := by
    have hall : ∀ dialect, ∀ x ∈ taskTextsIn dialect, x.tree.faults tasks.tables = [] := by
      intro dialect
      cases dialect with
      | mysql => decide
      | sqlite => decide
    exact fun x hx => (Expr.faults_eq_nil _).mp (hall dialect x hx)
  table := by
    have hmem : ObjectName.key [⟨"project_task", none⟩] ∈ tasks.tables := by decide +kernel
    exact hmem
  joins := by
    have hall : Join.allFaults tasks.tables (taskJoins.map LeftJoin.join) = [] := by decide +kernel
    exact fun j hj => (Join.allFaults_eq_nil _).mp hall j.join (List.mem_map_of_mem hj)
  condition := by
    have hnone : taskText.condition.tree.faults tasks.tables = [] := by decide
    exact (Expr.faults_eq_nil _).mp hnone

end Dataset

/-! ### Accepted queries -/

/-- What the safety check reads of a bound query of the dataset of tasks, which it accepts. -/
theorem Query.Written.accepted {q : Query} {dialect : Dialect} {c : Clauses}
    (h : q.Written .tasks dialect c) :
    ∃ s, q.Selects .tasks dialect (Dataset.taskTextIn dialect) .zero s ∧
      Sql.statements? (normalised c.sql) = some [.query s.query] ∧
        checkSafe Dataset.tasks.tables c.sql = .ok () := by
  obtain ⟨s, hs, hread⟩ := h.normalised_statements? Dataset.tasks_neat (Dataset.tasks_readIn dialect)
    Dataset.tasks_unmarked
  have hzero : ExprText.zero.Clear Dataset.tasks.tables := clear_expr.mpr (List.forall_mem_nil _)
  have hclear := (hs.clear (Dataset.tasks_clear dialect) hzero).query
  have hblank : Text.trim c.sql ≠ "" := by
    obtain ⟨t, ts, hts⟩ : ∃ t ts, c.texts =
        ("SELECT " ++ String.intercalate ", " (Clauses.namedItems c.items)) :: t :: ts := ⟨_, _, rfl⟩
    refine Text.trim_ne_empty (c := 'S') ?_ (by decide)
    rw [Clauses.sql, hts, String.intercalate_cons_cons]
    simp
  exact ⟨s, hs, hread, checkSafe_eq_ok_iff.mpr ⟨hblank, _, hread, s.query, rfl, hclear⟩⟩

/-- On the registry of tasks, what may be run of a plan is ready just if it can be bound. -/
theorem Caller.compile_builtin_eq_ready {caller : Caller} {limits : Limits} {dialect : Dialect}
    {question : String} {p plan : Plan} {b : BoundQuery} :
    caller.compile .builtin limits dialect question p = .ok (.ready plan b) ↔
      caller.scope .builtin question p = .ok ⟨true, plan⟩ ∧
        plan.bound? .builtin limits dialect = some b := by
  rw [Caller.compile_eq_ready, Plan.bound?_eq_some]
  refine and_congr_right fun _ => exists_congr fun q => and_congr_right fun _ => ?_
  rw [Query.compile_eq_ok, and_iff_left_iff_imp]
  intro hbind
  obtain ⟨-, c, hwritten, rfl⟩ := Query.bind_eq_ok.mp hbind
  obtain ⟨_, -, -, hsafe⟩ := hwritten.accepted
  exact hsafe

/-- The safety check reads the text of a bound query as the one selection that the query is meant to be,
and it accepts it. So no plan is refused as unsafe or makes the check crash, whoever asks for it. -/
theorem Caller.compile_not_refused (limits : Limits) (dialect : Dialect) :
    (∀ (p : Plan) (q : Query) (b : BoundQuery), p.check .builtin limits = .ok (.query q) →
      q.bind .builtin dialect = .ok b →
        ∃ s, q.Selects .tasks dialect (Dataset.taskTextIn dialect) .zero s ∧
          statements? (normalised b.sql) = some [.query s.query] ∧
            checkSafe Dataset.tasks.tables b.sql = .ok ()) ∧
    (∀ (caller : Caller) (question : String) (p : Plan) (refusal : Refusal),
      caller.compile .builtin limits dialect question p ≠ .error (.refused refusal)) ∧
    ∀ (caller : Caller) (question : String) (p : Plan),
      caller.compile .builtin limits dialect question p ≠ .crashed := by
  refine ⟨?_, ?_, ?_⟩
  · intro p q b _ hb
    obtain ⟨-, c, hwritten, rfl⟩ := Query.bind_eq_ok.mp hb
    exact hwritten.accepted
  · intro caller question p refusal h
    obtain ⟨_, -, hfault⟩ | ⟨plan, ⟨_, -, hfault⟩ | ⟨q, hcheck, hq⟩⟩ := Caller.compile_eq_error h
    · cases hfault
    · cases hfault
    · obtain hbind | ⟨b, _, hb, hrefused, -⟩ := Query.compile_eq_error hq
      · obtain ⟨b, hb, -⟩ | ⟨fault, hfails, -⟩ := Plan.bind_cases hcheck dialect
        · rw [hb] at hbind
          cases hbind
        · rw [hbind] at hfails
          cases hfails
      · obtain ⟨-, c, hwritten, rfl⟩ := Query.bind_eq_ok.mp hb
        obtain ⟨_, -, -, hsafe⟩ := Query.Written.accepted hwritten
        cases hsafe.symm.trans hrefused
  · intro caller question p h
    obtain ⟨plan, q, -, hq⟩ := Caller.compile_eq_crashed h
    obtain ⟨b, hb, hcrash⟩ := Query.compile_eq_crashed hq
    obtain ⟨-, c, hwritten, rfl⟩ := Query.bind_eq_ok.mp hb
    obtain ⟨_, -, -, hsafe⟩ := Query.Written.accepted hwritten
    cases hsafe.symm.trans hcrash

/-- Finished and open tasks of January by status, which MySQL is asked for. -/
theorem Caller.compile_not_refused_in_january :
    let p : Plan := {
      dataset := some "TASK"
      measures := [{ agg := some "COUNT_DISTINCT", field := some "TASK_ID" },
        { agg := some "MAX", field := some "PUBLISHED_AGE_DAYS" }]
      dimensions := [{ field := some "STATUS" }]
      filters := [
        { field := some "STATUS", op := some "IN", values := ["DONE", "OPEN"] },
        { field := some "PUBLISHED_TIME", op := some "BETWEEN", low := some "2024-01-01",
          high := some "2024-01-31 23:59" },
        .compare "BATCH_TITLE" "NE" "?"]
      orderBy := [{ field := some "STATUS", direction := some "desc" }] }
    (∃ q b s, p.check .builtin .standard = .ok (.query q) ∧ q.bind .builtin .mysql = .ok b ∧
      q.Selects .tasks .mysql (Dataset.taskTextIn .mysql) .zero s ∧
      statements? (normalised b.sql) = some [.query s.query] ∧
        checkSafe Dataset.tasks.tables b.sql = .ok ()) ∧
      (∀ refusal, Caller.compile ⟨42, "amy", .user⟩ .builtin .standard .mysql "How many?" p ≠
        .error (.refused refusal)) ∧
      Caller.compile ⟨42, "amy", .user⟩ .builtin .standard .mysql "How many?" p ≠ .crashed := by
  intro p
  obtain ⟨haccepted, hcompiles, hcrashes⟩ := Caller.compile_not_refused .standard .mysql
  refine ⟨?_, hcompiles _ _ p, hcrashes _ _ p⟩
  have hbound : (p.bound? .builtin .standard .mysql).isSome = true := by decide +kernel
  obtain ⟨b, hb⟩ := Option.isSome_iff_exists.mp hbound
  obtain ⟨q, hcheck, hbind⟩ := Plan.bound?_eq_some.mp hb
  obtain ⟨s, hs, hread, hsafe⟩ := haccepted p q b hcheck hbind
  exact ⟨q, b, s, hcheck, hbind, hs, hread, hsafe⟩

end ScopedQuery
