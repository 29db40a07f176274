import ScopedQuery.Engine
import ScopedQuery.Proofs.Caller.Persons
import ScopedQuery.Proofs.Compiled.Accepted
import ScopedQuery.Proofs.ResultSet.Rectangular
/-!
# What becomes of a question

* `Engine.answerPlan_eq`: what becomes of a plan is what compiling it comes to, put into a response.
* `Engine.recorded`: the engine whose services note each of their calls.
* `Engine.ask_recorded`: what an engine answers, and which calls it makes for that.
-/

namespace ScopedQuery

open Text

namespace Engine

variable {m : Type → Type}

/-! ### Plans -/

/-- The response to a plan that is turned down, which tells no reason. -/
theorem reject_eq (e : Engine m) (caller : Caller) {failure : Failure} (h : failure.isRejection = true)
    (plan : Option String) :
    e.reject caller failure plan =
      .ok (Response.withDebug { answer := Failure.genericMessage } (e.showsDebug caller) none plan) := by
  have hkind : failure.kind ≠ .collaborator := by simpa [Failure.isRejection] using h
  rw [reject, if_pos h, Response.rejected, Failure.userMessage, if_neg hkind]

/-- What compiling a plan comes to for a caller, with what the engine is set up with. -/
def compile (e : Engine m) (caller : Caller) (question : String) (p : Plan) :
    Attempt Failure Compiled :=
  caller.compile e.registry e.settings.limits e.dialect question p

/-- Compiling a plan does not depend on blanks around the question. -/
theorem compile_trim (e : Engine m) (caller : Caller) (question : String) (p : Plan) :
    e.compile caller (trim question) p = e.compile caller question p := by
  rw [compile, compile, Caller.compile, Caller.compile, Caller.scope_trim]

variable [Monad m]

/-- What becomes of a plan is what compiling it comes to, put into a response. -/
theorem answerPlan_eq (e : Engine m) (caller : Caller) (question : String) (p : Plan) :
    e.answerPlan caller question p =
      match e.compile caller question p with
      | .error _ =>
        return .ok (Response.withDebug { answer := Failure.genericMessage } (e.showsDebug caller) none
          ((caller.scope e.registry question p).toOption.map (·.plan.json)))
      | .ok compiled => e.respond caller compiled.plan.json compiled
      | .crashed => return .crashed := by
  rw [answerPlan]
  cases hscope : caller.scope e.registry question p with
  | error fault =>
    have hcompile : e.compile caller question p = .error (.unauthorized fault) := by
      rw [compile, Caller.compile, hscope]
      rfl
    rw [hcompile]
    exact congrArg pure (e.reject_eq caller rfl none)
  | ok scoping =>
    have hcompile : e.compile caller question p =
        scoping.compile e.registry e.settings.limits e.dialect := by
      rw [compile, Caller.compile, hscope]
      rfl
    rw [hcompile]
    dsimp only
    cases h : scoping.compile e.registry e.settings.limits e.dialect with
    | error failure =>
      have hrejection := Caller.isRejection_of_compile (hcompile.trans h)
      exact congrArg pure (e.reject_eq caller hrejection _)
    | ok compiled =>
      dsimp only
      rw [ScopedPlan.compile_plan h]
    | crashed => rfl

/-- What becomes of a question that is not blank. -/
theorem ask_eq (e : Engine m) (caller : Caller) {question : String} (h : trim question ≠ "") :
    e.ask caller question = (do
      match ← e.plan caller (trim question) with
      | .error failure => return .error failure
      | .ok p => e.answerPlan caller (trim question) p) := by
  have hquestion : nonBlank? question = some (trim question) := by rw [nonBlank?, if_neg h]
  unfold ask
  split
  · next hnone =>
    rw [hquestion] at hnone
    cases hnone
  · next text htext =>
    obtain rfl : trim question = text := Option.some.inj (hquestion.symm.trans htext)
    rfl

/-! ### Calls of the services -/

/-- A call of one of the services. -/
inductive Call
  | plan (caller : Caller) (question : String)
  | execute (query : BoundQuery)

/-- The engine whose services note each call and then do their work. -/
def recorded (e : Engine m) : Engine (StateT (List Call) m) where
  registry := e.registry
  settings := e.settings
  dialect := e.dialect
  plan caller question := do
    modify (· ++ [.plan caller question])
    e.plan caller question
  execute b := do
    modify (· ++ [.execute b])
    e.execute b

section

variable [LawfulMonad m] (e : Engine m) (caller : Caller) (question : String)

theorem run_recorded_plan (log : List Call) :
    (e.recorded.plan caller question).run log =
      (·, log ++ [.plan caller question]) <$> e.plan caller question := by
  simp [recorded]

theorem run_recorded_execute (b : BoundQuery) (log : List Call) :
    (e.recorded.execute b).run log = (·, log ++ [.execute b]) <$> e.execute b := by
  simp [recorded]

/-- A query is run once, and nothing else is called. -/
theorem run_recorded_respond (plan : String) (compiled : Compiled) (log : List Call) :
    (e.recorded.respond caller plan compiled).run log =
      (·, log ++ compiled.query?.toList.map .execute) <$> e.respond caller plan compiled := by
  cases compiled with
  | clarify plan' asked => simp [respond, recorded, showsDebug, Compiled.query?]
  | ready plan' b =>
    simp only [respond, StateT.run_bind, run_recorded_execute, map_bind, bind_map_left]
    refine bind_congr fun ran => ?_
    cases ran with
    | error failure => simp [Compiled.query?]
    | ok result => simp [recorded, showsDebug, Compiled.query?]

/-- What is called for a plan. -/
theorem run_recorded_answerPlan (p : Plan) (log : List Call) :
    (e.recorded.answerPlan caller question p).run log =
      (·, log ++ ((e.compile caller question p).toOption.bind Compiled.query?).toList.map .execute) <$>
        e.answerPlan caller question p := by
  have hcompile : e.recorded.compile caller question p = e.compile caller question p := rfl
  rw [answerPlan_eq, answerPlan_eq, hcompile]
  cases e.compile caller question p with
  | error failure => simp [recorded, showsDebug, Attempt.toOption]
  | ok compiled => exact run_recorded_respond e caller compiled.plan.json compiled log
  | crashed => simp [Attempt.toOption]

/-- Recording the calls changes no answer. -/
theorem map_fst_ask_recorded (log : List Call) :
    Prod.fst <$> (e.recorded.ask caller question).run log = e.ask caller question := by
  unfold ask
  cases nonBlank? question with
  | none => simp
  | some question =>
    simp only [StateT.run_bind, run_recorded_plan, map_bind, bind_map_left]
    refine bind_congr fun planned => ?_
    cases planned with
    | error failure => simp
    | ok p => simp [run_recorded_answerPlan]

/-- What an engine answers and which calls it makes for that: none for a blank question; for any other one
it asks for a plan once, and it runs a query once, if this is what compiling the plan comes to. A failure of
a service is returned as it is; a plan that is not compiled is turned down without a reason, unless
compiling it crashes, after which there is no response; a question back is a text that is trimmed and
not empty; and of a result, which is summed up in full, the first rows are kept. Recording the calls
changes no answer. -/
theorem ask_recorded :
    Prod.fst <$> (e.recorded.ask caller question).run [] = e.ask caller question ∧
    (trim question = "" →
      (e.recorded.ask caller question).run [] = pure (.error (.invalidPlan .blankQuestion), [])) ∧
    (trim question ≠ "" → ∃ answer : Plan → m (Attempt Failure Response × List Call),
      (e.recorded.ask caller question).run [] = (do
        match ← e.plan caller (trim question) with
        | .error failure => return (.error failure, [.plan caller (trim question)])
        | .ok p => answer p) ∧
      ∀ p : Plan,
        (∀ failure, e.compile caller question p = .error failure →
          answer p =
            let response : Response := {
              needClarification := false
              clarifyingQuestion := none
              answer := Failure.genericMessage
              result := none }
            let plan := (caller.scope e.registry question p).toOption.map (·.plan.json)
            return (.ok (response.withDebug (e.showsDebug caller) none plan),
              [.plan caller (trim question)])) ∧
        (e.compile caller question p = .crashed →
          answer p = return (.crashed, [.plan caller (trim question)])) ∧
        (∀ plan text, e.compile caller question p = .ok (.clarify plan text) →
          trim text = text ∧ text ≠ "" ∧
          answer p =
            let response : Response := {
              needClarification := true
              clarifyingQuestion := some text
              answer := text
              result := none }
            return (.ok (response.withDebug (e.showsDebug caller) none (some plan.json)),
              [.plan caller (trim question)])) ∧
        (∀ plan b, e.compile caller question p = .ok (.ready plan b) →
          answer p = do
            let calls : List Call := [.plan caller (trim question), .execute b]
            match ← e.execute b with
            | .error failure => return (.error failure, calls)
            | .ok result =>
              let kept := e.settings.maxRows.toNat
              let response : Response := {
                needClarification := false
                clarifyingQuestion := none
                answer := result.answer
                result := some { result with
                  rows := result.rows.take kept
                  truncated := result.truncated || decide (kept < result.rows.length) } }
              return (.ok (response.withDebug (e.showsDebug caller) (some b.sql) (some plan.json)),
                calls))) := by
  refine ⟨map_fst_ask_recorded e caller question [], fun hblank => ?_, fun hfilled => ?_⟩
  · rw [ask, nonBlank?, if_pos hblank]
    rfl
  · refine ⟨fun p => (e.recorded.answerPlan caller (trim question) p).run [.plan caller (trim question)],
      ?_, fun p => ?_⟩
    · rw [ask_eq e.recorded caller hfilled, StateT.run_bind, run_recorded_plan, bind_map_left]
      refine bind_congr fun planned => ?_
      cases planned with
      | error failure => rfl
      | ok p => rfl
    · dsimp only
      rw [run_recorded_answerPlan, answerPlan_eq, compile_trim, Caller.scope_trim]
      refine ⟨fun failure h => ?_, fun h => ?_, fun plan text h => ?_, fun plan b h => ?_⟩
      · simp [h, Attempt.toOption]
      · simp [h, Attempt.toOption]
      · obtain ⟨_, -, -, rfl⟩ := Caller.compile_eq_clarify.mp h
        obtain ⟨htrim, hne⟩ := plan.question_filled
        exact ⟨htrim, hne, by simp [h, Attempt.toOption, Compiled.query?, Compiled.plan, respond,
          Response.clarify]⟩
      · simp only [h, respond, map_bind]
        refine bind_congr fun ran => ?_
        cases ran with
        | error failure => simp [Attempt.toOption, Compiled.query?]
        | ok result =>
          simp [Attempt.toOption, Compiled.query?, Compiled.plan, Response.ofResult,
            ResultSet.truncate_eq]

end

/-- User 42 is given the first of two rows, for which one query is run; a plan for no dataset is turned
down before that. -/
theorem ask_recorded_for_42 :
    let amy : Caller := ⟨42, "amy", .user⟩
    let counted : Plan := {
      dataset := some "TASK"
      dimensions := [{ field := some "STATUS" }]
      measures := [{ agg := some "COUNT", field := some "TASK_ID" }] }
    let columns := ["STATUS", "COUNT_TASK_ID"]
    let rows : List (List Json.Value) := [[.string "DONE", .int 3], [.string "OPEN", .int 1]]
    let engine (p : Plan) : Engine Id := {
      registry := .builtin
      settings := { maxRows := 1 }
      dialect := .sqlite
      plan := fun _ _ => return .ok p
      execute := fun _ => return .ok (.ofRows "sqlite" columns rows 5) }
    (∃ plan b, (engine counted).compile amy " How many?\t" counted = .ok (.ready plan b) ∧
      ((engine counted).recorded.ask amy " How many?\t").run [] =
        pure (.ok {
          answer := "Returned 2 rows."
          result := some ⟨columns, rows.take 1, 2, true, 5, "sqlite"⟩ },
          [.plan amy "How many?", .execute b])) ∧
      ((engine {}).recorded.ask amy " How many?\t").run [] =
        pure (.ok { answer := Failure.genericMessage }, [.plan amy "How many?"]) := by
  intro amy counted columns rows engine
  have hfilled : trim " How many?\t" ≠ "" := by decide
  have htrim : trim " How many?\t" = "How many?" := by decide
  constructor
  · have hscope : amy.scope .builtin " How many?\t" counted =
        .ok ⟨true, Scope.pin .tasks counted amy.idText⟩ := by decide +kernel
    have hbound : ((Scope.pin .tasks counted amy.idText).bound? .builtin .standard .sqlite).isSome := by
      decide +kernel
    obtain ⟨b, hb⟩ := Option.isSome_iff_exists.mp hbound
    have hready : (engine counted).compile amy " How many?\t" counted = .ok (.ready _ b) :=
      Caller.compile_builtin_eq_ready.mpr ⟨hscope, hb⟩
    refine ⟨_, b, hready, ?_⟩
    obtain ⟨-, -, hanswered⟩ := ask_recorded (engine counted) amy " How many?\t"
    obtain ⟨answer, hrun, hanswer⟩ := hanswered hfilled
    obtain ⟨-, -, -, hran⟩ := hanswer counted
    have hplan : (engine counted).plan amy (trim " How many?\t") = pure (.ok counted) := rfl
    rw [hrun, hplan, pure_bind]
    dsimp only
    rw [hran _ b hready, htrim]
    rfl
  · have hfails : ((engine {}).compile amy " How many?\t" {}).fault?.isSome := by decide +kernel
    obtain ⟨failure, hcompile⟩ := Attempt.exists_eq_error hfails
    obtain ⟨-, -, hanswered⟩ := ask_recorded (engine {}) amy " How many?\t"
    obtain ⟨answer, hrun, hanswer⟩ := hanswered hfilled
    obtain ⟨hrejected, -⟩ := hanswer {}
    have hplan : (engine {}).plan amy (trim " How many?\t") = pure (.ok {}) := rfl
    rw [hrun, hplan, pure_bind]
    dsimp only
    rw [hrejected failure hcompile, htrim]
    rfl

end Engine

end ScopedQuery
