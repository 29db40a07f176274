import ScopedQuery.Bound.Json
import ScopedQuery.CommandLine.Help
import ScopedQuery.CommandLine.Variables
import ScopedQuery.Engine
import ScopedQuery.ResultSet.Csv
import ScopedQuery.Schema.Tasks
/-!
# Running the command line

`CommandLine.run` does what the arguments ask for and says what is to be printed. All that it needs
from outside comes from `Surroundings`, in any monad.

* Settings are read before the plan, and the plan before the database is opened.
* `Stopped` is a failure as the command line reports it, with the reasons behind it, or a crash.
-/

namespace ScopedQuery.CommandLine

/-- Why a file cannot be read as text. -/
inductive FileFault
  | missing | directory | notText
  | stated (text : String)
deriving DecidableEq, Repr

def FileFault.message : FileFault → String
  | missing => "No such file or directory (os error 2)"
  | directory => "Is a directory (os error 21)"
  | notText => "stream did not contain valid UTF-8"
  | stated text => text

/-- What runs the queries of one database. -/
abbrev Runner (m : Type → Type) := BoundQuery → m (Except StoreFault ResultSet)

structure Surroundings (m : Type → Type) where
  arguments : List String
  environment : Variables m
  /-- The text of the file that can set variables, if there is one. -/
  variableFile : m (Option String)
  fileText : String → m (Except FileFault String)
  inputText : m (Except FileFault String)
  openDatabase : String → m (Except StoreFault (Runner m))
  /-- A new id for a request. -/
  requestId : m String

/-- What the program leaves behind. -/
structure Outcome where
  code : UInt32
  output : String
  error : String
deriving DecidableEq, Repr

/-- Why the program does not come to its end. -/
inductive Stopped
  /-- There is a failure with reasons behind it, outermost first. -/
  | failed (message : String) (causes : List String)
  | crashed

namespace Stopped

def ofFailure (f : Failure) : Stopped := .failed f.message f.causes

def code : Stopped → UInt32
  | failed _ _ => 1
  | crashed => 101

/-- The line of a cause among several. -/
def causeLine (cause : String × Nat) : String :=
  "    " ++ toString cause.2 ++ ": " ++ cause.1 ++ "\n"

/-- What is printed; the words of a crash are not part of it. -/
def report : Stopped → String
  | failed message causes =>
    "Error: " ++ message ++ "\n" ++
      match causes with
      | [] => ""
      | [cause] => "\nCaused by:\n    " ++ cause ++ "\n"
      | causes => "\nCaused by:\n" ++ String.join (causes.zipIdx.map causeLine)
  | crashed => ""

end Stopped

def versionText : String := "chatbi 0.1.0\n"

variable {m : Type → Type} [Monad m]

/-- Steps that can be stopped. -/
abbrev Steps (m : Type → Type) := ExceptT Stopped m

/-- Goes on unless there is a failure. -/
def orStop {α : Type} (result : Except Failure α) : Steps m α :=
  match result with
  | .ok x => return x
  | .error f => throw (.ofFailure f)

/-- Goes on unless there is a failure or a crash. -/
def attempted {α : Type} : Attempt Failure α → Steps m α
  | .ok x => return x
  | .error f => throw (.ofFailure f)
  | .crashed => throw .crashed

def readSettings (vs : Variables m) : Steps m Settings := do
  let values ← Settings.keys.mapM fun key => do return (key, ← vs key)
  let lookup (key : String) : Option String := (values.find? (·.1 == key)).bind (·.2)
  orStop ((Settings.ofLookup lookup).mapError .settings)

/-- The text of a plan, from a file or else from the standard input. -/
def readPlanText (s : Surroundings m) (path : Option String) : Steps m String := do
  match path with
  | some path =>
    match ← s.fileText path with
    | .ok text => return text
    | .error fault => throw (.failed ("failed to read plan file " ++ path) [fault.message])
  | none =>
    match ← s.inputText with
    | .ok text => return text
    | .error fault => throw (.failed "failed to read plan from stdin" [fault.message])

def readPlan (s : Surroundings m) (path : Option String) : Steps m Plan := do
  let text ← readPlanText s path
  orStop ((Plan.ofModelOutput text).mapError fun fault => .planner (.unreadable fault))

/-! ### Commands -/

open Json (Value)

/-- What is printed of a compiled plan. -/
def compiledJson : Compiled → Value
  | .clarify _ question =>
    .ofMembers [("needClarification", .bool true), ("clarifyingQuestion", .string question)]
  | .ready _ query =>
    match query.toJson with
    | .object members => .ofMembers members
    | v => v

def line (text : String) : String := text ++ "\n"

def compile (s : Surroundings m) (vs : Variables m) (path : Option String) (caller : Caller)
    (question : String) : Steps m String := do
  let settings ← readSettings vs
  let p ← readPlan s path
  let compiled ← attempted (caller.compile .builtin settings.limits .mysql question p)
  return line (compiledJson compiled).pretty

/-- What is printed of a response. -/
def responseText (format : Format) (requestId : String) (r : Response) :
    Except Failure String :=
  match format, r.result with
  | .json, _ => .ok (line (r.toJson requestId).pretty)
  | .csv, some result => result.csv?.mapError .output
  | .csv, none => .ok (line r.answer)

/-- The engine that has one plan for every question. -/
def engineOf (settings : Settings) (p : Plan) (runner : Runner m) : Engine m where
  registry := .builtin
  settings
  dialect := .sqlite
  plan := fun _ _ => return .ok p
  execute := fun query => do return (← runner query).mapError .store

def runPlan (s : Surroundings m) (vs : Variables m) (path : Option String) (database : String)
    (caller : Caller) (question : String) (format : Format) : Steps m String := do
  let settings ← readSettings vs
  let p ← readPlan s path
  let runner ← orStop ((← s.openDatabase database).mapError .store)
  let requestId ← s.requestId
  let response ← attempted (← (engineOf settings p runner).ask caller question)
  orStop (responseText format requestId response)

def perform (s : Surroundings m) (vs : Variables m) : Command → Steps m String
  | .compile plan caller question => compile s vs plan caller question
  | .run plan database caller question format =>
    runPlan s vs plan database caller question format

/-! ### The program -/

/-- The variables of the environment with those of the file added. -/
def allVariables (s : Surroundings m) : m (Variables m) := do
  match ← s.variableFile with
  | some text => s.environment.load text
  | none => return s.environment

def run (s : Surroundings m) : m Outcome := do
  match Invocation.ofArguments s.arguments with
  | .version => return ⟨0, versionText, ""⟩
  | .help topic => return ⟨0, topic.text, ""⟩
  | .misuse => return ⟨2, "", Topic.hint⟩
  | .command c =>
    match ← (perform s (← allVariables s) c).run with
    | .ok text => return ⟨0, text, ""⟩
    | .error stopped => return ⟨stopped.code, "", stopped.report⟩

end ScopedQuery.CommandLine
