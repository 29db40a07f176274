import ScopedQuery.Calendar.Instant
import ScopedQuery.Decimal.Numeral
import ScopedQuery.Text.Blank
/-!
# Reading instants

* `Instant.ofText?` reads what people write: a date, a date with hour and minute, or a date with
  hour, minute and second; the length of the text tells which.
* `Instant.ofIso?` reads the text in which instants are exchanged.

Blanks may stand before every number.
-/

namespace ScopedQuery.Calendar

/-- Reads a part of a text and returns the rest. -/
abbrev Reading (α : Type) := StateT (List Char) Option α

def literal (c : Char) : Reading Unit := fun
  | [] => none
  | d :: cs => if c = d then some ((), cs) else none

def blanks : Reading Unit := fun cs => some ((), Text.trimStart cs)

/-- A number of one digit or more, up to a width. -/
def number (width : Nat) : Reading Nat := fun cs =>
  let ds := (cs.take width).takeWhile Char.isDigit
  if ds.isEmpty then none else some (Decimal.value ds, cs.drop ds.length)

/-- A number with blanks before it. -/
def part (width : Nat) : Reading Nat := do
  blanks
  number width

/-- A year of up to four digits, or of any number of digits after a sign. -/
def year : Reading Int := do
  blanks
  match ← get with
  | '-' :: cs => set cs; return -(← number cs.length)
  | '+' :: cs => set cs; return (← number cs.length)
  | _ => return (← number 4)

def date : Reading Date := do
  let y ← year
  literal '-'
  let m ← part 2
  literal '-'
  let d ← part 2
  return ⟨y, m, d⟩

/-- The result of reading a whole text. -/
def Reading.run (reading : Reading α) (cs : List Char) : Option α :=
  match StateT.run reading cs with
  | some (x, []) => some x
  | _ => none

/-- A date by itself, which stands for its first instant. -/
def dateOnly : Reading Instant := do
  let d ← date
  Instant.midnight? d

def dateAndMinute : Reading Instant := do
  let d ← date
  let h ← part 2
  literal ':'
  let m ← part 2
  Instant.ofParts? d h m 0 0

def dateAndSecond : Reading Instant := do
  let d ← date
  let h ← part 2
  literal ':'
  let m ← part 2
  literal ':'
  let s ← part 2
  Instant.ofParts? d h m s 0

/-- The form that a text of that many characters has. -/
def formOfLength : Nat → Reading Instant
  | 10 => dateOnly
  | 16 => dateAndMinute
  | _ => dateAndSecond

/-- Reads an instant, of which the blanks at both ends do not count. -/
def Instant.ofText? (s : String) : Option Instant :=
  let cs := (Text.trim s).toList
  (formOfLength cs.length).run cs

/-! ### The exchanged form -/

/-- The fraction of a second in units of `10 ^ -9`; digits beyond the ninth do not count. -/
def fraction : Reading Nat := do
  match ← get with
  | '.' :: cs =>
    let ds := (cs.takeWhile Char.isDigit).take 9
    if ds.isEmpty then failure
    set (cs.dropWhile Char.isDigit)
    return Decimal.value ds * Nat.pow 10 (9 - ds.length)
  | _ => return 0

def isoInstant : Reading Instant := do
  let y ← year
  blanks; literal '-'
  let m ← part 2
  blanks; literal '-'
  let d ← part 2
  blanks; literal 'T'
  let h ← part 2
  blanks; literal ':'
  let min ← part 2
  blanks; literal ':'
  let s ← part 2
  let nano ← fraction
  blanks
  Instant.ofParts? ⟨y, m, d⟩ h min s nano

/-- Reads an instant with a `T` between date and time and an optional fraction of the second. -/
def Instant.ofIso? (s : String) : Option Instant := isoInstant.run s.toList

end ScopedQuery.Calendar
