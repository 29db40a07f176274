import ScopedQuery.Compiled
import ScopedQuery.Plan.Json
import ScopedQuery.Response
import ScopedQuery.Settings
/-!
# Asking questions

An `Engine` answers questions with the help of two services: one that makes plans of questions, and
one that runs queries. `Engine.ask` is what happens to a question in between. The services work in
any monad, so that nothing is assumed of them but what they return.

* A plan that is turned down becomes a response that does not say why.
* A failure of a service is returned as it is.
* If compiling a plan crashes, there is no response.
* SQL and plan are part of a response only for administrators, and only if the settings allow it.
-/

namespace ScopedQuery

structure Engine (m : Type → Type) where
  registry : Registry
  settings : Settings
  /-- The dialect of the service that runs queries. -/
  dialect : Dialect
  /-- Makes a plan of a question. -/
  plan : Caller → String → m (Except Failure Plan)
  /-- Runs a query. -/
  execute : BoundQuery → m (Except Failure ResultSet)

namespace Engine

variable {m : Type → Type} [Monad m]

/-- Whether a caller is shown SQL and plans. -/
def showsDebug (e : Engine m) (caller : Caller) : Bool := caller.isAdmin && e.settings.showDebug

/-- A failure before a query is run: a rejection becomes a response, any other one stays. -/
def reject (e : Engine m) (caller : Caller) (failure : Failure) (plan : Option String) :
    Attempt Failure Response :=
  if failure.isRejection then
    .ok ((Response.rejected failure).withDebug (e.showsDebug caller) none plan)
  else .error failure

/-- What becomes of a compiled plan: a question back, or the result of the query. -/
def respond (e : Engine m) (caller : Caller) (plan : String) :
    Compiled → m (Attempt Failure Response)
  | .clarify _ question =>
    return .ok ((Response.clarify question).withDebug (e.showsDebug caller) none (some plan))
  | .ready _ query => do
    match ← e.execute query with
    | .error failure => return .error failure
    | .ok result =>
      return .ok ((Response.ofResult result e.settings.maxRows.toNat).withDebug
        (e.showsDebug caller) (some query.sql) (some plan))

/-- What becomes of a plan. -/
def answerPlan (e : Engine m) (caller : Caller) (question : String) (p : Plan) :
    m (Attempt Failure Response) :=
  match caller.scope e.registry question p with
  | .error fault => return e.reject caller (.unauthorized fault) none
  | .ok scoping =>
    match scoping.compile e.registry e.settings.limits e.dialect with
    | .error failure => return e.reject caller failure (some scoping.plan.json)
    | .ok compiled => e.respond caller scoping.plan.json compiled
    | .crashed => return .crashed

/-- Answers a caller's question. -/
def ask (e : Engine m) (caller : Caller) (question : String) : m (Attempt Failure Response) := do
  match Text.nonBlank? question with
  | none => return .error (.invalidPlan .blankQuestion)
  | some question =>
    match ← e.plan caller question with
    | .error failure => return .error failure
    | .ok p => e.answerPlan caller question p

end Engine

end ScopedQuery
