import ScopedQuery.Failure
import ScopedQuery.ResultSet.Json
/-!
# Responses

A `Response` is what a caller is told. It comes of a plan that was turned down, of one that asks a
question back, or of a result; SQL and plan are added to it by `Response.withDebug` alone.
-/

namespace ScopedQuery

/-- The response to a question. -/
structure Response where
  needClarification : Bool := false
  clarifyingQuestion : Option String := none
  answer : String := ""
  result : Option ResultSet := none
  /-- The SQL that was run. -/
  debugSql : Option String := none
  /-- The scoped plan as JSON. -/
  debugPlan : Option String := none

namespace Response

/-- The response to a plan that is turned down. -/
def rejected (failure : Failure) : Response := { answer := failure.userMessage }

/-- The response that asks a question back. -/
def clarify (question : String) : Response :=
  { needClarification := true, clarifyingQuestion := some question, answer := question }

/-- The response with a result, of which at most `maxRows` rows are kept. -/
def ofResult (result : ResultSet) (maxRows : Nat) : Response :=
  { answer := result.answer, result := some (result.truncate maxRows) }

/-- The response with SQL and plan, if these may be shown. -/
def withDebug (r : Response) (shown : Bool) (sql plan : Option String) : Response :=
  if shown then { r with debugSql := sql, debugPlan := plan }
  else { r with debugSql := none, debugPlan := none }

/-! ### As JSON -/

open Json (Value)

/-- A member that is left out if it has no value. -/
def member (name : String) : Option Value → List (String × Value)
  | some v => [(name, v)]
  | none => []

/-- The response as JSON, with the id of the request that it answers. -/
def toJson (r : Response) (requestId : String) : Value :=
  .object ([("requestId", .string requestId), ("needClarification", .bool r.needClarification)] ++
    member "clarifyingQuestion" (r.clarifyingQuestion.map .string) ++
    [("answer", .string r.answer)] ++ member "result" (r.result.map ResultSet.toJson) ++
    member "debugSql" (r.debugSql.map .string) ++ member "debugPlan" (r.debugPlan.map .string))

end Response

end ScopedQuery
