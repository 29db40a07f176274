import ScopedQuery.Json.Fault
import ScopedQuery.Plan.Fault
import ScopedQuery.Sql.Refusal
/-!
# Failures

A `Failure` is the reason why a question gets no answer. `Failure.message` is its full wording, and
`Failure.kind` tells a turned-down request from a service that does not work. Of the former, the
caller learns no more than `Failure.userMessage`.
-/

namespace ScopedQuery

/-- The reason why a caller is not served. -/
inductive CallerFault
  | invalidId (id : Int64)
  | stated (text : String)
deriving DecidableEq, Repr

def CallerFault.message : CallerFault → String
  | invalidId id => "invalid user id " ++ toString id.toInt
  | stated text => text

/-- The reason why there is no plan for a question. -/
inductive PlannerFault
  | unreadable (fault : Json.Fault)
  | stated (text : String)

def PlannerFault.message : PlannerFault → String
  | unreadable fault => "model returned an unreadable plan: " ++ fault.message
  | stated text => text

/-- The reason why settings are not accepted. -/
inductive SettingsFault
  | notNumber (key raw : String)
  | notBool (key raw : String)
  | noCap
  /-- The default limit lies outside of its range, which ends with `cap`. -/
  | badDefault (cap limit : UInt32)
  | stated (text : String)
deriving DecidableEq, Repr

def SettingsFault.message : SettingsFault → String
  | notNumber key raw => key ++ " is not a valid number: " ++ inQuotes raw
  | notBool key raw => key ++ " is not a valid boolean: " ++ inQuotes raw
  | noCap => "CHATBI_MAX_LIMIT must be positive"
  | badDefault cap limit =>
    "CHATBI_DEFAULT_LIMIT must be between 1 and CHATBI_MAX_LIMIT (" ++ toString cap ++
      "), got " ++ toString limit
  | stated text => text

/-- The reason why a store does not run a query or take a row. -/
inductive StoreFault
  | noSuchTable (name : String)
  | noSuchColumn (name : String)
  | ambiguousColumn (name : String)
  | duplicateKey (table : String)
  /-- A key is not an integer. -/
  | wrongType
  | notReadOnly
  | parameterCount (given needed : Nat)
  /-- A sum of integers does not fit an integer. -/
  | overflow
  | cannotOpen (path : String)
  /-- A file is not one of a store. -/
  | notStore
  /-- The SQL holds no statement to run. -/
  | noStatement
  /-- The store does not know this form of SQL. -/
  | unsupported
deriving DecidableEq, Repr

def StoreFault.message : StoreFault → String
  | noSuchTable name => "no such table: " ++ name
  | noSuchColumn name => "no such column: " ++ name
  | ambiguousColumn name => "ambiguous column name: " ++ name
  | duplicateKey table => "UNIQUE constraint failed: " ++ table ++ ".id"
  | wrongType => "datatype mismatch"
  | notReadOnly => "Query is not read-only"
  | parameterCount given needed =>
    "Wrong number of parameters passed to query. Got " ++ toString given ++ ", needed " ++
      toString needed
  | overflow => "integer overflow"
  | cannotOpen path => "unable to open database file: " ++ path
  | notStore => "file is not a database"
  | noStatement => "not an error"
  | unsupported => "syntax error"

/-- The reason why a result cannot be written. -/
inductive OutputFault
  /-- A record of `length` fields follows one of `previous` fields. -/
  | unequalLengths (length previous : Nat)
  | stated (text : String)
deriving DecidableEq, Repr

def OutputFault.message : OutputFault → String
  | unequalLengths length previous =>
    "CSV error: found record with " ++ toString length ++
      " fields, but the previous record has " ++ toString previous ++ " fields"
  | stated text => text

inductive Failure
  | invalidPlan (fault : PlanFault)
  | refused (refusal : Sql.Refusal)
  | unsupportedField (name : String)
  /-- The aggregation and the field that do not go together. -/
  | unsupportedAggregation (pair : String)
  | unsupportedDataset (code : String)
  | unauthorized (fault : CallerFault)
  | planner (fault : PlannerFault)
  | execution (text : String)
  | settings (fault : SettingsFault)
  | store (fault : StoreFault)
  | output (fault : OutputFault)
  | json (fault : Json.Fault)

/-- How callers have to react to a failure. -/
inductive FailureKind
  /-- The plan or question was turned down; another wording may help. -/
  | userInput
  /-- The SQL did not pass the safety check. -/
  | unsafeSql
  /-- A query was built that no check lets through. -/
  | internalBug
  /-- Something that the library relies on does not work. -/
  | collaborator
deriving DecidableEq, Repr

namespace Failure

def message : Failure → String
  | invalidPlan fault => "Invalid plan: " ++ fault.message
  | refused refusal => "Unsafe SQL: " ++ refusal.message
  | unsupportedField name => "Unsupported field: " ++ name
  | unsupportedAggregation pair => "Unsupported aggregation: " ++ pair
  | unsupportedDataset code => "Unsupported dataset: " ++ code
  | unauthorized fault => "Unauthorized: " ++ fault.message
  | planner fault => "Model client error: " ++ fault.message
  | execution text => "Execution error: " ++ text
  | settings fault => "Configuration error: " ++ fault.message
  | store fault => "Database error: " ++ fault.message
  | output fault => "IO error: " ++ fault.message
  | json fault => "JSON error: " ++ fault.message

def kind : Failure → FailureKind
  | invalidPlan _ => .userInput
  | unauthorized _ => .userInput
  | refused _ => .unsafeSql
  | unsupportedField _ => .internalBug
  | unsupportedAggregation _ => .internalBug
  | unsupportedDataset _ => .internalBug
  | planner _ => .collaborator
  | execution _ => .collaborator
  | settings _ => .collaborator
  | store _ => .collaborator
  | output _ => .collaborator
  | json _ => .collaborator

/-- What a caller is told when a request is turned down. -/
def genericMessage : String :=
  "Sorry, I could not understand or safely answer that question."

/-- What a caller is told; the reason is not part of it. -/
def userMessage (f : Failure) : String :=
  if f.kind = .collaborator then "The service is busy, please try again later."
  else genericMessage

/-- Whether a single request was turned down, while the service works. -/
def isRejection (f : Failure) : Bool := f.kind != .collaborator

/-- The deeper reasons for a failure, outermost first. -/
def causes : Failure → List String
  | store fault =>
    match fault with
    | .notReadOnly => [fault.message]
    | .parameterCount _ _ => [fault.message]
    | .duplicateKey _ =>
      [fault.message, "Error code 1555: A PRIMARY KEY constraint failed"]
    | .wrongType => [fault.message, "Error code 20: Data type mismatch"]
    | .cannotOpen _ => [fault.message, "Error code 14: Unable to open the database file"]
    | .notStore => [fault.message, "Error code 26: File opened that is not a database file"]
    | .noStatement => [fault.message, "Error code 21: Library used incorrectly"]
    | _ => [fault.message, "Error code 1: SQL error or missing database"]
  | output fault => [fault.message]
  | _ => []

end Failure

end ScopedQuery
