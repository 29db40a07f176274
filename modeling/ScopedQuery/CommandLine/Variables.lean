import ScopedQuery.Text.Blank
import ScopedQuery.Text.Letter
/-!
# Variables from a file

A file can set variables that the environment does not set. Each of its lines is an assignment, a
comment or blank; the first line that is none of these ends the reading, and what stands before it
counts.

* `readLine?` reads a line, and `assignments` all lines of a file.
* `Variables.load` adds the assignments of a file to an environment.

In a value, single quotation marks keep everything as it is, double ones keep blanks, a backslash
keeps the next character, and a dollar sign stands before the name of a variable.
-/

namespace ScopedQuery.CommandLine

/-- A part of a value: a character, or a reference to a variable. -/
inductive ValuePart
  | char (c : Char)
  | reference (name : String)
deriving DecidableEq, Repr

structure Assignment where
  name : String
  parts : List ValuePart
deriving DecidableEq, Repr

/-! ### Values -/

/-- Where the reading of a value stands; `quoted` says that this is inside of double quotation
marks, and `read` holds the name so far, backwards. -/
inductive ValueMode
  | plain
  | single
  | double
  /-- Behind a backslash. -/
  | escaped (quoted : Bool)
  /-- Behind a dollar sign. -/
  | name (quoted : Bool) (read : List Char)
  /-- Behind a dollar sign and a brace. -/
  | braced (quoted : Bool) (read : List Char)
  /-- Behind the value. -/
  | ended
deriving DecidableEq, Repr

def ValueMode.outside (quoted : Bool) : ValueMode := if quoted then .double else .plain

/-- What a backslash and a character stand for. -/
def escapedChar? (c : Char) : Option Char :=
  if c = 'n' then some '\n'
  else if ['\\', '\'', '"', '$', ' '].contains c then some c
  else none

def referenceTo (read : List Char) : ValuePart := .reference (String.ofList read.reverse)

/-- The parts that are still to come where a value ends; `none` if it cannot end there. -/
def ValueMode.rest? : ValueMode → Option (List ValuePart)
  | .plain => some []
  | .ended => some []
  | .escaped quoted => if quoted then none else some []
  | .name quoted read => if quoted then none else some [referenceTo read]
  | .single => none
  | .double => none
  | .braced _ _ => none

/-- The parts of a value that is read from some point on. -/
def readValue : ValueMode → List Char → Option (List ValuePart)
  | mode, [] => mode.rest?
  | .ended, c :: cs =>
    if c = ' ' || c = '\t' then readValue .ended cs
    else if c = '#' then some []
    else none
  | .escaped quoted, c :: cs => do
    let e ← escapedChar? c
    return .char e :: (← readValue (.outside quoted) cs)
  | .single, c :: cs => do
    if c = '\'' then readValue .plain cs else return .char c :: (← readValue .single cs)
  | .name quoted read, c :: cs => do
    if Text.isAlphanumeric c then readValue (.name quoted (c :: read)) cs
    else if c = '\x7b' && read.isEmpty then readValue (.braced quoted []) cs
    else if c = '$' then return referenceTo read :: (← readValue (.name quoted []) cs)
    else return referenceTo read :: .char c :: (← readValue (.outside quoted) cs)
  | .braced quoted read, c :: cs => do
    if c = '\x7d' then return referenceTo read :: (← readValue (.outside quoted) cs)
    else readValue (.braced quoted (c :: read)) cs
  | .double, c :: cs => do
    if c = '$' then readValue (.name true []) cs
    else if c = '"' then readValue .plain cs
    else if c = '\\' then readValue (.escaped true) cs
    else return .char c :: (← readValue .double cs)
  | .plain, c :: cs => do
    if c = '$' then readValue (.name false []) cs
    else if c = '\'' then readValue .single cs
    else if c = '"' then readValue .double cs
    else if c = '\\' then readValue (.escaped false) cs
    else if c = ' ' || c = '\t' then readValue .ended cs
    else return .char c :: (← readValue .plain cs)

/-! ### Lines -/

def isNamePart (c : Char) : Bool := c.isAlphanum || c == '_' || c == '.'

/-- A name at the front of a line, with what follows behind blanks. -/
def readName? : List Char → Option (String × List Char)
  | [] => none
  | c :: cs =>
    if c.isAlpha || c = '_' then
      some (String.ofList (c :: cs.takeWhile isNamePart),
        Text.trimStart (cs.dropWhile isNamePart))
    else none

def readEquals? : List Char → Option (List Char)
  | '=' :: cs => some (Text.trimStart cs)
  | _ => none

/-- A name with the text behind its equals sign; `export` can stand before it. -/
def readLeft? (cs : List Char) : Option (String × List Char) := do
  let (name, rest) ← readName? cs
  match readEquals? rest with
  | some text => return (name, text)
  | none =>
    guard (name = "export")
    let (name, rest) ← readName? rest
    return (name, ← readEquals? rest)

/-- Reads a line: an assignment, or nothing; `none` if it is neither. -/
def readLine? (line : String) : Option (Option Assignment) :=
  match Text.trimStart (Text.trimEnd line.toList) with
  | [] => some none
  | '#' :: _ => some none
  | cs => do
    let (name, text) ← readLeft? cs
    match text with
    | '#' :: _ => return some ⟨name, []⟩
    | _ => return some ⟨name, ← readValue .plain text⟩

/-- The assignments of lines up to the first line that cannot be read. -/
def assignmentsOf : List String → List Assignment
  | [] => []
  | line :: lines =>
    match readLine? line with
    | none => []
    | some none => assignmentsOf lines
    | some (some assignment) => assignment :: assignmentsOf lines

def assignments (text : String) : List Assignment := assignmentsOf (text.splitOn "\n")

/-! ### Environments -/

/-- An environment, asked for a variable by its name. -/
abbrev Variables (m : Type → Type) := String → m (Option String)

namespace Variables

variable {m : Type → Type} [Monad m]

/-- An environment with more variables, which count only where it has none. -/
def extend (vs : Variables m) (more : List (String × String)) : Variables m := fun name => do
  match ← vs name with
  | some text => return some text
  | none => return (more.find? (·.1 == name)).map (·.2)

def part (vs : Variables m) : ValuePart → m (List Char)
  | .char c => return [c]
  | .reference name => do return ((← vs name).getD "").toList

/-- The value that an assignment gives. -/
def value (vs : Variables m) (a : Assignment) : m String := do
  return String.ofList (← a.parts.mapM vs.part).flatten

/-- The variables that assignments set beyond `set`; the first one of a name counts. -/
def loadFrom (vs : Variables m) (set : List (String × String)) :
    List Assignment → m (List (String × String))
  | [] => return set
  | a :: as => do
    let text ← (vs.extend set).value a
    loadFrom vs (set ++ [(a.name, text)]) as

/-- The environment with the assignments of a file added. -/
def load (vs : Variables m) (text : String) : m (Variables m) := do
  return vs.extend (← vs.loadFrom [] (assignments text))

end Variables

end ScopedQuery.CommandLine
