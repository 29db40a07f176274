import ScopedQuery.Caller.Basic
import ScopedQuery.Decimal.Numeral
/-!
# Arguments of the command line

`Invocation.ofArguments` reads what the program is asked to do: a `Command`, or one of the things
that are done without a command. Options and plain arguments can stand in any order; what stands
behind `--` is no option.

* `Options` says which options a command has.
* `Given` holds the options and the plain arguments as they were given.
-/

namespace ScopedQuery.CommandLine

/-- The form in which an answer is printed. -/
inductive Format
  | json | csv
deriving DecidableEq, Repr

inductive Command
  /-- Compiles the plan of a file, or of the standard input, and prints what came out. -/
  | compile (plan : Option String) (caller : Caller) (question : String)
  /-- Runs a plan against the database of a file and prints the answer. -/
  | run (plan : Option String) (database : String) (caller : Caller) (question : String)
      (format : Format)
deriving DecidableEq, Repr

/-- What can be explained: the program or one of its commands. -/
inductive Topic
  | program | compile | run | help
deriving DecidableEq, Repr

inductive Invocation
  | command (command : Command)
  | version
  | help (topic : Topic)
  /-- The arguments make no sense. -/
  | misuse
deriving DecidableEq, Repr

/-! ### Options -/

/-- An option of a command, which takes a value: its name, its letter if it has one, what it is
for, and the values that it accepts. -/
structure OptionSpec where
  name : String
  letter : Option Char
  purpose : String
  accepts : String → Bool

/-- What was given, in order. -/
structure Given where
  /-- The options with their values. -/
  options : List (String × String)
  plain : List String

namespace Given

def value? (g : Given) (name : String) : Option String :=
  (g.options.find? (·.1 == name)).map (·.2)

end Given

/-- Why the reading of arguments ends early. -/
inductive Stop
  | help | misuse
deriving DecidableEq, Repr

/-- Whether an argument can be the value of an option that stands before it. -/
def isValue (argument : String) : Bool :=
  match argument.toList with
  | '-' :: _ :: _ => false
  | _ => true

/-- An option with a value, unless it was given before or does not accept the value. -/
def addOption (g : Given) (spec : OptionSpec) (value : String) : Except Stop Given :=
  if (g.value? spec.name).isSome || !spec.accepts value then .error .misuse
  else .ok { g with options := g.options ++ [(spec.name, value)] }

/-- A plain argument, of which there can be one. -/
def addPlain (g : Given) (argument : String) : Except Stop Given :=
  if argument = "" || !g.plain.isEmpty then .error .misuse
  else .ok { g with plain := g.plain ++ [argument] }

/-- What an argument is. -/
inductive Argument
  | separator
  /-- An option, with its value if that is attached. -/
  | option (spec : OptionSpec) (value : Option String)
  | plain (text : String)

/-- The name of an option and the value behind an equals sign. -/
def splitValue (cs : List Char) : List Char × Option String :=
  match cs.dropWhile (· != '=') with
  | [] => (cs, none)
  | _ :: value => (cs.takeWhile (· != '='), some (String.ofList value))

/-- The value that is attached to the letter of an option. -/
def attached : List Char → Option String
  | [] => none
  | '=' :: cs => some (String.ofList cs)
  | cs => some (String.ofList cs)

def Argument.read (specs : List OptionSpec) (argument : String) : Except Stop Argument :=
  match argument.toList with
  | ['-', '-'] => .ok .separator
  | '-' :: '-' :: cs =>
    let (name, value) := splitValue cs
    if String.ofList name = "help" && value.isNone then .error .help
    else
      match specs.find? (·.name.toList == name) with
      | some spec => .ok (.option spec value)
      | none => .error .misuse
  | '-' :: letter :: cs =>
    if letter = 'h' then .error .help
    else
      match specs.find? (·.letter == some letter) with
      | some spec => .ok (.option spec (attached cs))
      | none => .error .misuse
  | _ => .ok (.plain argument)

/-- Reads the arguments behind a command. -/
def Given.read (specs : List OptionSpec) (g : Given) : List String → Except Stop Given
  | [] => .ok g
  | argument :: rest => do
    match ← Argument.read specs argument with
    | .separator => rest.foldlM addPlain g
    | .plain text => Given.read specs (← addPlain g text) rest
    | .option spec (some value) => Given.read specs (← addOption g spec value) rest
    | .option spec none =>
      match rest with
      | [] => .error .misuse
      | value :: rest =>
        if isValue value then Given.read specs (← addOption g spec value) rest
        else .error .misuse

/-! ### Commands -/

def anyText : String → Bool := fun _ => true

def isWord (text : String) : Bool := (Decimal.integer? text).isSome

/-- The options that say who asks. -/
def callerOptions : List OptionSpec :=
  [⟨"user-id", none, "Id of the calling user [default: 1]", isWord⟩,
   ⟨"username", none, "Username of the calling user [default: cli]", anyText⟩,
   ⟨"role", none, "Role of the calling user (ADMIN or USER) [default: USER]", anyText⟩]

def questionOption (purpose : String) : OptionSpec := ⟨"question", some 'q', purpose, anyText⟩

def Format.ofName? : String → Option Format
  | "json" => some json
  | "csv" => some csv
  | _ => none

/-- The caller that was given; without any options it is a plain user. -/
def Given.caller (g : Given) : Caller where
  id := ((g.value? "user-id").bind Decimal.integer?).getD 1
  name := (g.value? "username").getD "cli"
  role := .read ((g.value? "role").getD "USER")

def compileOptions : List OptionSpec :=
  callerOptions ++
    [questionOption "The user question, used for permission heuristics [default: ]"]

def runOptions : List OptionSpec :=
  [⟨"db", some 'd', "Path to the SQLite database", fun path => path != ""⟩] ++ callerOptions ++
    [questionOption "The user question",
     ⟨"format", some 'f', "Output format [default: json] [possible values: json, csv]",
      fun name => (Format.ofName? name).isSome⟩]

def Given.compile (g : Given) : Command :=
  .compile g.plain.head? g.caller ((g.value? "question").getD "")

/-- The command to run a plan, for which database and question must be given. -/
def Given.run? (g : Given) : Option Command := do
  let database ← g.value? "db"
  let question ← g.value? "question"
  let format := ((g.value? "format").bind Format.ofName?).getD .json
  return .run g.plain.head? database g.caller question format

/-- The invocation that the arguments behind a command amount to. -/
def Invocation.ofGiven (topic : Topic) (specs : List OptionSpec) (arguments : List String)
    (command? : Given → Option Command) : Invocation :=
  match Given.read specs ⟨[], []⟩ arguments with
  | .error .help => .help topic
  | .error .misuse => .misuse
  | .ok g =>
    match command? g with
    | some c => .command c
    | none => .misuse

/-- Whether an argument is made of letters and starts with the given one. -/
def startsWithLetter (letter : Char) (argument : String) : Bool :=
  match argument.toList with
  | '-' :: c :: _ => c == letter
  | _ => false

/-- What is to be explained, by the arguments behind the word "help". -/
def Topic.ofArguments? : List String → Option Topic
  | [] => some program
  | ["compile"] => some compile
  | ["run"] => some run
  | ["help"] => some help
  | _ => none

/-- Reads the arguments of the program. -/
def Invocation.ofArguments : List String → Invocation
  | [] => .misuse
  | "compile" :: rest => .ofGiven .compile compileOptions rest fun g => some g.compile
  | "run" :: rest => .ofGiven .run runOptions rest Given.run?
  | "help" :: rest => (Topic.ofArguments? rest).elim .misuse .help
  | first :: _ =>
    if first = "--version" || startsWithLetter 'V' first then .version
    else if first = "--help" || startsWithLetter 'h' first then .help .program
    else .misuse

end ScopedQuery.CommandLine
