import ScopedQuery.Proofs.Engine.Answered
/-!
# What callers learn of plans

* `Engine.planning`: the engine that makes the same plan of each question.
* `Engine.ask_discloses`: plain users learn neither plan nor SQL nor the reason why a plan was turned
  down; administrators are shown the plan as it was made and the SQL that was run, if the settings allow it.
-/

namespace ScopedQuery

open Text

/-- A plan of an administrator is left as it is. -/
theorem Caller.scope_admin {caller : Caller} (hrole : caller.role = .admin) (registry : Registry)
    (question : String) (p : Plan) : caller.scope registry question p = .ok ⟨true, p⟩ := by
  have hadmin : caller.isAdmin = true := by rw [isAdmin, hrole, Role.isPrivileged]
  rw [scope, if_pos hadmin]

namespace Engine

variable {m : Type → Type} [Monad m]

/-- The engine whose plan for each question is the given one. -/
def planning (e : Engine m) (p : Plan) : Engine m := { e with plan := fun _ _ => return .ok p }

section

variable [LawfulMonad m] (e : Engine m) {caller : Caller}

/-- What a caller is told when the plan is given. -/
theorem ask_planning (caller : Caller) (p : Plan) {question : String} (h : trim question ≠ "") :
    (e.planning p).ask caller question =
      match e.compile caller question p with
      | .error _ =>
        return .ok (Response.withDebug { answer := Failure.genericMessage } (e.showsDebug caller) none
          ((caller.scope e.registry question p).toOption.map (·.plan.json)))
      | .ok (.clarify plan text) =>
        return .ok ((Response.clarify text).withDebug (e.showsDebug caller) none (some plan.json))
      | .ok (.ready plan b) =>
        (fun ran => .ofExcept (ran.map fun result =>
          (Response.ofResult result e.settings.maxRows.toNat).withDebug (e.showsDebug caller)
            (some b.sql) (some plan.json))) <$> e.execute b
      | .crashed => return .crashed := by
  have hplan : (e.planning p).plan caller (trim question) = pure (.ok p) := rfl
  have hanswer : (e.planning p).answerPlan caller (trim question) p =
      e.answerPlan caller (trim question) p := rfl
  rw [ask_eq _ caller h, hplan, pure_bind]
  dsimp only
  rw [hanswer, answerPlan_eq, compile_trim, Caller.scope_trim]
  cases e.compile caller question p with
  | error failure => rfl
  | ok compiled =>
    cases compiled with
    | clarify plan text => rfl
    | ready plan b =>
      dsimp only
      rw [respond, map_eq_pure_bind]
      refine bind_congr fun ran => ?_
      cases ran with
      | error failure => rfl
      | ok result => rfl
  | crashed => rfl

/-- Plan, SQL and the reason for a rejection are no part of what a caller is told who is not shown them. -/
theorem ask_planning_hidden (hshown : e.showsDebug caller = false) (p : Plan) {question : String}
    (h : trim question ≠ "") :
    (e.planning p).ask caller question =
      match e.compile caller question p with
      | .error _ => return .ok { answer := Failure.genericMessage }
      | .ok (.clarify _ text) => return .ok (.clarify text)
      | .ok (.ready _ b) =>
        (fun ran => .ofExcept (ran.map fun result => .ofResult result e.settings.maxRows.toNat)) <$>
          e.execute b
      | .crashed => return .crashed := by
  rw [e.ask_planning caller p h, hshown]
  cases e.compile caller question p with
  | error failure => rfl
  | ok compiled =>
    cases compiled with
    | clarify plan text => rfl
    | ready plan b => rfl
  | crashed => rfl

/-- What an administrator is told who is shown SQL and plan. -/
theorem ask_planning_shown (hrole : caller.role = .admin) (hsettings : e.settings.showDebug = true)
    (p : Plan) {question : String} (h : trim question ≠ "") :
    (e.planning p).ask caller question =
      match e.compile caller question p with
      | .error _ =>
        return .ok { answer := Failure.genericMessage, debugPlan := some p.json }
      | .ok (.clarify _ text) =>
        return .ok { Response.clarify text with debugPlan := some p.json }
      | .ok (.ready _ b) =>
        (fun ran => .ofExcept (ran.map fun result =>
          { Response.ofResult result e.settings.maxRows.toNat with
            debugSql := some b.sql
            debugPlan := some p.json })) <$> e.execute b
      | .crashed => return .crashed := by
  have hshown : e.showsDebug caller = true := by
    rw [showsDebug, Caller.isAdmin, hrole, hsettings]
    rfl
  have hscope := Caller.scope_admin hrole e.registry question p
  have hcompile : e.compile caller question p =
      ScopedPlan.compile ⟨true, p⟩ e.registry e.settings.limits e.dialect := by
    rw [compile, Caller.compile, hscope]
    rfl
  rw [e.ask_planning caller p h, hshown, hscope, hcompile]
  cases h : ScopedPlan.compile ⟨true, p⟩ e.registry e.settings.limits e.dialect with
  | error failure => rfl
  | ok compiled =>
    have hplan : compiled.plan = p := ScopedPlan.compile_plan h
    cases compiled with
    | clarify plan text => cases hplan; rfl
    | ready plan b => cases hplan; rfl
  | crashed => rfl

end

/-- A caller who is not shown SQL and plan is told the same whenever two plans are turned down, whatever
the reasons are, and whenever two plans ask the same question back; and if both are run, the response is
the same function of the result. An administrator who is shown them is always told the plan as it was
made, and the SQL just if a query was run, which is the SQL of this query. If compiling a plan crashes,
no caller is told anything. -/
theorem ask_discloses [LawfulMonad m] (e : Engine m) (caller : Caller) :
    let told (question : String) (p : Plan) := (e.planning p).ask caller question
    (caller.role ≠ .admin ∨ e.settings.showDebug = false →
      ∀ question₁ question₂ p₁ p₂, trim question₁ ≠ "" → trim question₂ ≠ "" →
        (∀ failure₁ failure₂, e.compile caller question₁ p₁ = .error failure₁ →
          e.compile caller question₂ p₂ = .error failure₂ →
            ∃ r, told question₁ p₁ = pure (.ok r) ∧ told question₂ p₂ = pure (.ok r)) ∧
        (∀ plan₁ plan₂ text, e.compile caller question₁ p₁ = .ok (.clarify plan₁ text) →
          e.compile caller question₂ p₂ = .ok (.clarify plan₂ text) →
            ∃ r, told question₁ p₁ = pure (.ok r) ∧ told question₂ p₂ = pure (.ok r)) ∧
        (e.compile caller question₁ p₁ = .crashed → told question₁ p₁ = pure .crashed) ∧
        ∀ plan₁ plan₂ b₁ b₂, e.compile caller question₁ p₁ = .ok (.ready plan₁ b₁) →
          e.compile caller question₂ p₂ = .ok (.ready plan₂ b₂) →
            ∃ respond : ResultSet → Response,
              told question₁ p₁ = (fun ran => .ofExcept (ran.map respond)) <$> e.execute b₁ ∧
                told question₂ p₂ = (fun ran => .ofExcept (ran.map respond)) <$> e.execute b₂) ∧
    (caller.role = .admin → e.settings.showDebug = true →
      ∀ question p, trim question ≠ "" →
        (e.compile caller question p = .crashed → told question p = pure .crashed) ∧
        (e.compile caller question p ≠ .crashed →
          (∀ plan b, e.compile caller question p ≠ .ok (.ready plan b)) →
          ∃ r, told question p = pure (.ok r) ∧ r.debugPlan = some p.json ∧ r.debugSql = none) ∧
        ∀ plan b, e.compile caller question p = .ok (.ready plan b) →
          ∃ respond : ResultSet → Response,
            told question p = (fun ran => .ofExcept (ran.map respond)) <$> e.execute b ∧
            ∀ result, (respond result).debugPlan = some p.json ∧
              (respond result).debugSql = some b.sql) := by
  intro told
  constructor
  · intro hhidden question₁ question₂ p₁ p₂ h₁ h₂
    have hshown : e.showsDebug caller = false := by
      obtain hrole | hsettings := hhidden
      · rw [showsDebug, Caller.isAdmin_eq_false hrole, Bool.false_and]
      · rw [showsDebug, hsettings, Bool.and_false]
    have htold₁ := e.ask_planning_hidden hshown p₁ h₁
    have htold₂ := e.ask_planning_hidden hshown p₂ h₂
    refine ⟨?_, ?_, ?_, ?_⟩
    · intro failure₁ failure₂ hc₁ hc₂
      rw [hc₁] at htold₁
      rw [hc₂] at htold₂
      exact ⟨_, htold₁, htold₂⟩
    · intro plan₁ plan₂ text hc₁ hc₂
      rw [hc₁] at htold₁
      rw [hc₂] at htold₂
      exact ⟨_, htold₁, htold₂⟩
    · intro hc₁
      rw [hc₁] at htold₁
      exact htold₁
    · intro plan₁ plan₂ b₁ b₂ hc₁ hc₂
      rw [hc₁] at htold₁
      rw [hc₂] at htold₂
      exact ⟨_, htold₁, htold₂⟩
  · intro hrole hsettings question p h
    have htold := e.ask_planning_shown hrole hsettings p h
    refine ⟨?_, ?_, ?_⟩
    · intro hc
      rw [hc] at htold
      exact htold
    · intro hruns hnone
      cases hc : e.compile caller question p with
      | error failure =>
        rw [hc] at htold
        exact ⟨_, htold, rfl, rfl⟩
      | ok compiled =>
        rw [hc] at htold
        cases compiled with
        | clarify plan text => exact ⟨_, htold, rfl, rfl⟩
        | ready plan b => exact absurd hc (hnone plan b)
      | crashed => exact absurd hc hruns
    · intro plan b hc
      rw [hc] at htold
      exact ⟨_, htold, fun result => ⟨rfl, rfl⟩⟩

/-- User 42 is told the same of a plan for no dataset and of one with an unknown field, whereas an
administrator is shown the plan and the SQL of a query that was run. -/
theorem ask_discloses_to_root :
    let amy : Caller := ⟨42, "amy", .user⟩
    let root : Caller := ⟨1, "root", .admin⟩
    let counted : Plan := {
      dataset := some "TASK"
      measures := [{ agg := some "COUNT", field := some "TASK_ID" }] }
    let engine : Engine Id := {
      registry := .builtin
      settings := {}
      dialect := .sqlite
      plan := fun _ _ => return .ok {}
      execute := fun _ => return .ok (.ofRows "sqlite" ["COUNT_TASK_ID"] [[.int 3]] 5) }
    (∃ r, (engine.planning {}).ask amy "How many?" = pure (.ok r) ∧
      (engine.planning (counted.withDimension { field := some "SALARY" })).ask amy "How many?" =
        pure (.ok r)) ∧
      ∃ b r, engine.compile root "How many?" counted = .ok (.ready counted b) ∧
        (engine.planning counted).ask root "How many?" = pure (.ok r) ∧
        r.debugPlan = some counted.json ∧ r.debugSql = some b.sql := by
  intro amy root counted engine
  have hfilled : trim "How many?" ≠ "" := by decide
  obtain ⟨hhidden, -⟩ := ask_discloses engine amy
  obtain ⟨-, hshown⟩ := ask_discloses engine root
  constructor
  · have hempty : (engine.compile amy "How many?" {}).fault?.isSome := by decide
    have hunknown : (engine.compile amy "How many?"
        (counted.withDimension { field := some "SALARY" })).fault?.isSome := by decide
    obtain ⟨failure₁, h₁⟩ := Attempt.exists_eq_error hempty
    obtain ⟨failure₂, h₂⟩ := Attempt.exists_eq_error hunknown
    obtain ⟨hrejected, -⟩ := hhidden (.inl (by decide)) "How many?" "How many?" {}
      (counted.withDimension { field := some "SALARY" }) hfilled hfilled
    exact hrejected failure₁ failure₂ h₁ h₂
  · have hbound : (counted.bound? .builtin .standard .sqlite).isSome := by decide +kernel
    obtain ⟨b, hb⟩ := Option.isSome_iff_exists.mp hbound
    have hready : engine.compile root "How many?" counted = .ok (.ready counted b) :=
      Caller.compile_builtin_eq_ready.mpr ⟨rfl, hb⟩
    obtain ⟨respond, htold, hdebug⟩ := (hshown rfl rfl "How many?" counted hfilled).2.2 counted b hready
    exact ⟨b, _, hready, htold, hdebug _⟩

end Engine

end ScopedQuery
