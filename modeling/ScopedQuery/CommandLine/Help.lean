import ScopedQuery.CommandLine.Arguments
import ScopedQuery.Text.Case
/-!
# Explanations

`Topic.text` explains the program or one of its commands. The options are those that
`Invocation.ofArguments` reads, each with the name of its value and its purpose, in columns.
-/

namespace ScopedQuery.CommandLine

/-- Lines of two columns, of which the second starts at one place. -/
def columns (entries : List (String × String)) : String :=
  let width := (entries.map (·.1.length)).foldl max 0
  String.join (entries.map fun entry =>
    "  " ++ entry.1 ++ String.ofList (List.replicate (width + 2 - entry.1.length) ' ') ++
      entry.2 ++ "\n")

/-- A heading over lines of two columns. -/
def part (title : String) (entries : List (String × String)) : String :=
  "\n" ++ title ++ ":\n" ++ columns entries

namespace OptionSpec

/-- The name of an option's value. -/
def valueName (o : OptionSpec) : String :=
  String.ofList ((Text.upper o.name).toList.map fun c => if c = '-' then '_' else c)

/-- An option as it is given, behind its letter if it has one. -/
def form (o : OptionSpec) : String :=
  (match o.letter with
    | some letter => String.ofList ['-', letter, ',', ' ']
    | none => "    ") ++ "--" ++ o.name ++ " <" ++ o.valueName ++ ">"

end OptionSpec

namespace Topic

def purpose : Topic → String
  | program => "Compile natural-language query plans into safe, parameterized SQL"
  | compile => "Compile a plan and print the clarification or the built query"
  | run => "Compile a plan and execute it against a SQLite database"
  | help => "Print this message or the help of the given subcommand(s)"

/-- How something is called up. -/
def usage : Topic → String
  | program => "chatbi <COMMAND>"
  | compile => "chatbi compile [OPTIONS] [PLAN]"
  | run => "chatbi run [OPTIONS] --db <DB> --question <QUESTION> [PLAN]"
  | help => "chatbi help [COMMAND]..."

def helpEntry : String × String := ("-h, --help", "Print help")

/-- The arguments and options of a command. -/
def optionParts (options : List OptionSpec) : String :=
  part "Arguments" [("[PLAN]", "Plan JSON file (reads stdin when omitted)")] ++
    part "Options" (options.map (fun o => (o.form, o.purpose)) ++ [helpEntry])

/-- What there is to give. -/
def parts : Topic → String
  | program =>
    part "Commands" [("compile", compile.purpose), ("run", run.purpose), ("help", help.purpose)] ++
      part "Options" [helpEntry, ("-V, --version", "Print version")]
  | compile => optionParts compileOptions
  | run => optionParts runOptions
  | help => part "Arguments" [("[COMMAND]...", "Print help for the subcommand(s)")]

def text (t : Topic) : String := t.purpose ++ "\n\nUsage: " ++ t.usage ++ "\n" ++ t.parts

/-- What is said of arguments that make no sense. -/
def hint : String := "Usage: " ++ program.usage ++ "\n\nFor more information, try '--help'.\n"

end Topic

end ScopedQuery.CommandLine
