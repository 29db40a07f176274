import ScopedQuery.Attempt
import ScopedQuery.Bound.Basic
import ScopedQuery.Caller.Scope
import ScopedQuery.Query.Checking
import ScopedQuery.Sql.Safety
/-!
# Compiled plans

A `Compiled` plan is either a question to ask back or a query that may be run, together with the
plan that it stands for. `ScopedPlan.compile` compiles a plan that is already scoped, and
`Caller.compile` scopes it first. A query that does not pass the safety check is never the result; if
this check crashes, there is no result at all.
-/

namespace ScopedQuery

inductive Compiled
  | clarify (plan : Plan) (question : String)
  | ready (plan : Plan) (query : BoundQuery)

namespace Compiled

/-- The scoped plan. -/
def plan : Compiled → Plan
  | clarify p _ => p
  | ready p _ => p

/-- The query to run, if there is one. -/
def query? : Compiled → Option BoundQuery
  | clarify _ _ => none
  | ready _ query => some query

end Compiled

/-- What is asked back when a plan has no question of its own. -/
def defaultClarification : String := "Please clarify your question."

/-- The question that a plan asks back. -/
def Plan.question (p : Plan) : String :=
  (Text.filled? p.clarifyingQuestion).getD defaultClarification

/-- The bound query of a checked query, once it has passed the safety check. -/
def Query.compile (q : Query) (registry : Registry) (dialect : Dialect) :
    Attempt Failure BoundQuery := do
  let bound ← .ofExcept (q.bind registry dialect)
  match registry.find? q.dataset with
  | none => throw (.unsupportedDataset q.dataset)
  | some d =>
    (Sql.checkSafe d.tables bound.sql).mapError .refused
    return bound

/-- Compiles a scoped plan; one that may not be run asks its question back. -/
def ScopedPlan.compile (s : ScopedPlan) (registry : Registry) (limits : Limits)
    (dialect : Dialect) : Attempt Failure Compiled := do
  if !s.mayRun || s.plan.isClarification then return .clarify s.plan s.plan.question
  match ← .ofExcept ((s.plan.check registry limits).mapError .invalidPlan) with
  | .clarification _ question => return .clarify s.plan question
  | .query q => return .ready s.plan (← q.compile registry dialect)

/-- Compiles what a caller may run of a plan. -/
def Caller.compile (caller : Caller) (registry : Registry) (limits : Limits) (dialect : Dialect)
    (question : String) (p : Plan) : Attempt Failure Compiled := do
  let scoping ← .ofExcept ((caller.scope registry question p).mapError .unauthorized)
  scoping.compile registry limits dialect

end ScopedQuery
