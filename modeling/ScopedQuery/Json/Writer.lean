import ScopedQuery.Json.Value
import ScopedQuery.Decimal.Layout
/-!
# Writing JSON

* `Value.compact` writes a value without any blank.
* `Value.pretty` writes every member and item on a line of its own, two spaces further in than
  what holds it; an empty object or list stays on its line.

In a text only the quotation mark, the backslash and control characters are escaped.
-/

namespace ScopedQuery.Json

/-- A lower-case hexadecimal digit. -/
def hexDigit (n : Nat) : Char := if n < 10 then Char.ofNat (48 + n) else Char.ofNat (87 + n)

/-- One character of a written text. -/
def escape (c : Char) : List Char :=
  if c = '"' then ['\\', '"']
  else if c = '\\' then ['\\', '\\']
  else if c.toNat = 0x8 then ['\\', 'b']
  else if c = '\t' then ['\\', 't']
  else if c = '\n' then ['\\', 'n']
  else if c.toNat = 0xC then ['\\', 'f']
  else if c = '\r' then ['\\', 'r']
  else if c.toNat < 0x20 then
    ['\\', 'u', '0', '0', hexDigit (c.toNat / 16), hexDigit (c.toNat % 16)]
  else [c]

/-- A text between quotation marks. -/
def writeText (s : String) : List Char := '"' :: s.toList.flatMap escape ++ ['"']

/-- Infinities and the like have no number in JSON. -/
def writeFloat (x : Float) : String := if x.isFinite then Decimal.render x else "null"

/-- Pieces with a separator between them. -/
def joined (separator : List Char) : List (List Char) → List Char
  | [] => []
  | [piece] => piece
  | piece :: pieces => piece ++ separator ++ joined separator pieces

mutual

def write : Value → List Char
  | .null => "null".toList
  | .bool b => (if b then "true" else "false").toList
  | .int n => (toString n).toList
  | .float x => (writeFloat x).toList
  | .string s => writeText s
  | .array items => '[' :: joined [','] (writeItems items) ++ [']']
  | .object members => '\x7b' :: joined [','] (writeMembers members) ++ ['\x7d']

def writeItems : List Value → List (List Char)
  | [] => []
  | v :: vs => write v :: writeItems vs

def writeMembers : List (String × Value) → List (List Char)
  | [] => []
  | (name, v) :: ms => (writeText name ++ ':' :: write v) :: writeMembers ms

end

/-- The text of a value without blanks. -/
def Value.compact (v : Value) : String := String.ofList (write v)

/-! ### With line breaks -/

/-- A line break and the indentation of a level. -/
def newLine (level : Nat) : List Char := '\n' :: List.replicate (2 * level) ' '

/-- Pieces between brackets, each on a line of its own. -/
def block (level : Nat) (opening closing : Char) (pieces : List (List Char)) : List Char :=
  if pieces.isEmpty then [opening, closing]
  else
    opening :: newLine (level + 1) ++ joined (',' :: newLine (level + 1)) pieces ++
      newLine level ++ [closing]

mutual

def writeLines (level : Nat) : Value → List Char
  | .array items => block level '[' ']' (itemLines (level + 1) items)
  | .object members => block level '\x7b' '\x7d' (memberLines (level + 1) members)
  | .null => write .null
  | .bool b => write (.bool b)
  | .int n => write (.int n)
  | .float x => write (.float x)
  | .string s => write (.string s)

def itemLines (level : Nat) : List Value → List (List Char)
  | [] => []
  | v :: vs => writeLines level v :: itemLines level vs

def memberLines (level : Nat) : List (String × Value) → List (List Char)
  | [] => []
  | (name, v) :: ms =>
    (writeText name ++ ':' :: ' ' :: writeLines level v) :: memberLines level ms

end

/-- The text of a value with line breaks. -/
def Value.pretty (v : Value) : String := String.ofList (writeLines 0 v)

end ScopedQuery.Json
