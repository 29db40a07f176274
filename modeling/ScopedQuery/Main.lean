import ScopedQuery.CommandLine.Execution
import ScopedQuery.CommandLine.RequestId
import ScopedQuery.Store.Execution
import ScopedQuery.Store.File
import Std.Time.Zoned
/-!
# The program

`main` gives the command line its surroundings: arguments, environment, files, time, and the ids
of requests.
-/

namespace ScopedQuery.CommandLine

/-- The bytes of a file, or why there are none. -/
def fileBytes (path : String) : IO (Except FileFault ByteArray) := do
  try
    return .ok (← IO.FS.readBinFile path)
  catch
    | .noFileOrDirectory .. => return .error .missing
    | .inappropriateType .. => return .error .directory
    | e => return .error (.stated (toString e))

def textOfBytes (bytes : ByteArray) : Except FileFault String :=
  (String.fromUTF8? bytes).elim (.error .notText) .ok

def fileText (path : String) : IO (Except FileFault String) := do
  return (← fileBytes path).bind textOfBytes

/-- All of the standard input. -/
def inputText : IO (Except FileFault String) := do
  return textOfBytes (← (← IO.getStdin).readBinToEnd)

/-! ### Variables -/

/-- A path and the paths above it, nearest first. The path is given by its parts, last first. -/
def ancestors : List String → List String
  | [] => ["/"]
  | part :: parts => ("/" ++ "/".intercalate (part :: parts).reverse) :: ancestors parts

/-- The text of the nearest file of variables, at or above the present directory. -/
def variableFile : IO (Option String) := do
  let here := (← IO.currentDir).toString
  let parts := ((here.splitOn "/").filter (· != "")).reverse
  let texts ← (ancestors parts).mapM fun directory => fileText (directory ++ "/.env")
  return texts.findSome? Except.toOption

/-! ### Databases -/

/-- The date and the time of day of a clock. -/
def instantOf (t : Std.Time.PlainDateTime) : Calendar.Instant :=
  ⟨⟨t.date.year.toInt, t.date.month.toNat, t.date.day.toNat⟩,
    t.time.hour.toNat, t.time.minute.toNat, t.time.second.toNat, t.time.nanosecond.toNat⟩

/-- What a clock shows where the time is the common one. -/
def commonTime : IO Calendar.Instant := do
  let moment ← Std.Time.Timestamp.now
  return instantOf (.ofWallTime (.ofTimestamp moment Std.Time.TimeZone.UTC.offset))

/-- The present moment; without a known time zone, the time here is the common one. -/
def now : IO Calendar.Moment := do
  let common ← commonTime
  try
    return ⟨common, instantOf (← Std.Time.PlainDateTime.now)⟩
  catch _ => return .of common

/-- Runs the queries of a store, and tells how long they take. -/
def runnerOf (store : Except StoreFault Store) : Runner IO := fun query => do
  let moment ← now
  let start ← IO.monoMsNow
  match store.bind fun s => s.execute moment query with
  | .error fault => return .error fault
  | .ok result => return .ok { result with elapsed := (← IO.monoMsNow) - start }

/-- Makes an empty file. -/
def createFile (path : String) : IO (Except StoreFault Unit) := do
  try
    IO.FS.writeBinFile path .empty
    return .ok ()
  catch _ => return .error (.cannotOpen path)

/-- Opens the database of a file, which is made if there is none yet. -/
def openDatabase (path : String) : IO (Except StoreFault (Runner IO)) := do
  if path = ":memory:" then return .ok (runnerOf (.ok .empty))
  match ← fileBytes path with
  | .ok bytes => return .ok (runnerOf (Store.ofFile bytes))
  | .error .missing => return (← createFile path).map fun _ => runnerOf (.ok .empty)
  | .error _ => return .error (.cannotOpen path)

/-! ### Surroundings -/

def surroundings (arguments : List String) : Surroundings IO where
  arguments
  environment := fun name => IO.getEnv name
  variableFile
  fileText
  inputText
  openDatabase
  requestId := do return requestIdOf (← IO.getRandomBytes 16).toList

end ScopedQuery.CommandLine

open ScopedQuery.CommandLine in
def main (arguments : List String) : IO UInt32 := do
  let outcome ← run (surroundings arguments)
  IO.print outcome.output
  IO.eprint outcome.error
  return outcome.code
