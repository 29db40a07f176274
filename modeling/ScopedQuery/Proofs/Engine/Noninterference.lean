import ScopedQuery.Engine
import ScopedQuery.Proofs.Store.Agreeing
import ScopedQuery.Proofs.Store.Rows
/-!
# What callers learn of tasks

* `Engine.overStore`: the engine that answers questions about the tasks of a store by way of an engine that
  answers texts.
* `Engine.ask_untimed_eq`: what a caller is told does not depend on tasks that the caller may not learn of, if
  the engine selects rows before it does anything else with them.
-/

namespace ScopedQuery

open Store

/-- The response without the time that its query took. -/
def Response.untimed (r : Response) : Response :=
  { r with result := r.result.map fun result => { result with elapsed := 0 } }

/-- The time is all that a response tells of how long its query took. -/
theorem Response.untimed_ofResult (result : ResultSet) (maxRows n n' : Nat) (shown : Bool)
    (sql plan : Option String) :
    ((ofResult { result with elapsed := n } maxRows).withDebug shown sql plan).untimed =
      ((ofResult { result with elapsed := n' } maxRows).withDebug shown sql plan).untimed := by
  have htruncate : ∀ k, ({ result with elapsed := k }.truncate maxRows) =
      { result.truncate maxRows with elapsed := k } := by
    intro k
    simp only [ResultSet.truncate]
    split
    · rfl
    · rfl
  rw [ofResult, ofResult, htruncate n, htruncate n']
  cases shown with
  | true => rfl
  | false => rfl

namespace Engine

variable {m : Type → Type} [Monad m]

/-- The engine that answers questions about the tasks of a store. A query is run at the moment that the clocks
show; `report` says which failure a fault is, and `time` how long a query takes. -/
def overStore {ε : Type} (engine : Store → Calendar.Moment → SqlEngine ε) (report : ε → Failure)
    (settings : Settings) (plan : Caller → String → m (Except Failure Plan)) (clock : m Calendar.Moment)
    (s : Store) (time : Calendar.Moment → BoundQuery → Nat) : Engine m where
  registry := .builtin
  settings
  dialect := .sqlite
  plan
  execute := fun b => do
    let now ← clock
    return (((engine s now).execute b).mapError report).map fun result =>
      { result with elapsed := time now b }

section

variable [LawfulMonad m] {ε : Type} {engine : Store → Calendar.Moment → SqlEngine ε} {truth : Truth}
  (hengine : SelectsFirst engine truth) {report : ε → Failure} {settings : Settings}
  {plan : Caller → String → m (Except Failure Plan)} {clock : m Calendar.Moment} {s u : Store}
  {time time' : Calendar.Moment → BoundQuery → Nat} {caller : Caller} (hagree : AgreeFor caller s u)

include hengine hagree

/-- What becomes of a compiled plan is the same in stores that agree. -/
theorem respond_untimed_eq {question : String} {p : Plan} {compiled : Compiled}
    (h : caller.compile .builtin settings.limits .sqlite question p = .ok compiled) (text : String) :
    (·.map Response.untimed) <$>
        (overStore engine report settings plan clock s time).respond caller text compiled =
      (·.map Response.untimed) <$>
        (overStore engine report settings plan clock u time').respond caller text compiled := by
  cases compiled with
  | clarify plan' asked => simp only [respond, showsDebug, overStore]
  | ready plan' b =>
    simp only [respond, showsDebug, overStore, bind_assoc, pure_bind, map_bind]
    congr 1
    funext now
    rw [Caller.execute_eq hengine hagree h now]
    cases (engine u now).execute b with
    | error fault => rfl
    | ok result =>
      have htimed := Response.untimed_ofResult result settings.maxRows.toNat (time now b) (time' now b)
      simp only [Except.mapError, Except.map, map_pure, Attempt.map, htimed]

/-- What becomes of a plan is the same in stores that agree. -/
theorem answerPlan_untimed_eq (question : String) (p : Plan) :
    (·.map Response.untimed) <$>
        (overStore engine report settings plan clock s time).answerPlan caller question p =
      (·.map Response.untimed) <$>
        (overStore engine report settings plan clock u time').answerPlan caller question p := by
  simp only [answerPlan, reject, showsDebug, overStore]
  cases hscope : caller.scope .builtin question p with
  | error fault => rfl
  | ok scoping =>
    dsimp only
    cases hcompile : scoping.compile .builtin settings.limits .sqlite with
    | error failure => rfl
    | crashed => rfl
    | ok compiled =>
      apply respond_untimed_eq hengine hagree
      rw [Caller.compile, hscope]
      exact hcompile

/-- What a caller is told by way of an engine that selects rows first. -/
theorem ask_untimed_eq_of_selectsFirst (question : String) :
    (·.map Response.untimed) <$> (overStore engine report settings plan clock s time).ask caller question =
      (·.map Response.untimed) <$>
        (overStore engine report settings plan clock u time').ask caller question := by
  unfold ask
  cases Text.nonBlank? question with
  | none => rfl
  | some question =>
    simp only [map_bind]
    refine congrArg _ (funext fun planned => ?_)
    cases planned with
    | error failure => rfl
    | ok p => exact answerPlan_untimed_eq hengine hagree question p

end

/-- What a caller is told is the same in stores that differ at most in tasks that the caller may not learn of.
This is so for each engine that selects rows before it does anything else with them, whatever it computes of
them, and stores run queries as such an engine does. -/
theorem ask_untimed_eq [LawfulMonad m] {caller : Caller} {s u : Store} (hagree : AgreeFor caller s u)
    (settings : Settings) (plan : Caller → String → m (Except Failure Plan)) (clock : m Calendar.Moment)
    (time time' : Calendar.Moment → BoundQuery → Nat) (question : String) :
    (SelectsFirst Store.engine Store.truth ∧
      ∀ (s : Store) (now : Calendar.Moment) (b : BoundQuery), s.execute now b = (s.engine now).execute b) ∧
    ∀ {ε : Type} (engine : Store → Calendar.Moment → SqlEngine ε) (truth : Truth) (report : ε → Failure),
      SelectsFirst engine truth →
        (·.map Response.untimed) <$>
            (overStore engine report settings plan clock s time).ask caller question =
          (·.map Response.untimed) <$>
            (overStore engine report settings plan clock u time').ask caller question :=
  ⟨⟨Store.selectsFirst, Store.execute_eq⟩, fun _ _ _ hengine =>
    ask_untimed_eq_of_selectsFirst hengine hagree question⟩

/-- User 42, who has one task, is told the same whether or not there are a task of user 7 and a deleted one. -/
theorem ask_untimed_eq_for_42 :
    let caller : Caller := ⟨42, "amy", .user⟩
    let p : Plan := {
      dataset := some "TASK"
      dimensions := [{ field := some "STATUS" }]
      measures := [{ agg := some "count", field := some "TASK_ID" }] }
    let row (id assignee deleted : Int64) : Row :=
      [.integer id, .null, .text "Report", .text "DONE", .integer assignee, .null, .null, .null,
       .integer deleted]
    let storeOf (rows : List Row) : Store := ⟨[.users, .batches, { Table.tasks with rows }]⟩
    let s := storeOf [row 1 42 0]
    let u := storeOf [row 1 42 0, row 2 7 0, row 3 42 1]
    let engine (w : Store) (n : Nat) : Engine Id :=
      overStore Store.engine .store {} (fun _ _ => return .ok p)
        (return .of ⟨⟨2024, 5, 1⟩, 12, 0, 0, 0⟩) w fun _ _ => n
    AgreeFor caller s u ∧
      (((engine s 3).ask caller "How many?").map Response.untimed) =
        (((engine u 5).ask caller "How many?").map Response.untimed) := by
  intro caller p row storeOf s u engine
  have hheaders : ∀ name, (s.table? name).map (·.header) = (u.table? name).map (·.header) := by
    intro name
    simp only [s, u, storeOf, Store.table?, List.find?_cons]
    cases Text.sameFold Table.users.name name with
    | true => rfl
    | false =>
      cases Text.sameFold Table.batches.name name with
      | true => rfl
      | false =>
        cases Text.sameFold Table.tasks.name name with
        | true => rfl
        | false => rfl
  have husers : Text.sameFold Table.users.name "project_task" = false := by decide
  have hbatches : Text.sameFold Table.batches.name "project_task" = false := by decide +kernel
  have hvisible : ∀ rows, (storeOf rows).visibleTasks caller =
      .ok (rows.filter (Table.tasks.isVisible caller)) := by
    intro rows
    simp only [storeOf, visibleTasks, Store.table?, List.find?_cons, husers, hbatches]
    rfl
  have hown : Table.tasks.isVisible caller (row 1 42 0) = true := by decide
  have hother : Table.tasks.isVisible caller (row 2 7 0) = false := by decide
  have hdeleted : Table.tasks.isVisible caller (row 3 42 1) = false := by decide
  have hagree : AgreeFor caller s u := {
    headers := hheaders
    users := rfl
    batches := rfl
    tasks := by simp [s, u, hvisible, hown, hother, hdeleted] }
  obtain ⟨⟨hfirst, -⟩, hasked⟩ := ask_untimed_eq (m := Id) hagree {} (fun _ _ => return .ok p)
    (return .of ⟨⟨2024, 5, 1⟩, 12, 0, 0, 0⟩) (fun _ _ => 3) (fun _ _ => 5) "How many?"
  exact ⟨hagree, hasked Store.engine Store.truth .store hfirst⟩

end Engine

end ScopedQuery
