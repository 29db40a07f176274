import ScopedQuery.Calendar.Reading
import ScopedQuery.Text.Case
/-!
# Julian days

A Julian day counts days, with fractions, from noon of a day long past. Here it is counted in
thousandths of a second.

* `julianMillis` is the Julian day of a date and a time of day, and `julianMillisOf?` that of its number.
* `namedMillis?` reads it from a text: a date, a date and a time, a time of 1 January 2000, or a word
  for the present moment.
-/

namespace ScopedQuery.Calendar

/-- The thousandths of a second in a day. -/
def millisPerDay : Int := 86400000

/-- The days from the start of the count to the noon of a date, whose day may lie beyond the end
of its month. All divisions are towards zero, also before the year 0. -/
def dayNumber (d : Date) : Int :=
  let early := d.month ≤ 2
  let y := if early then d.year - 1 else d.year
  let m : Int := if early then d.month + 12 else d.month
  let centuries := y.tdiv 100
  (36525 * (y + 4716)).tdiv 100 + (306001 * (m + 1)).tdiv 10000 + d.day +
    (2 - centuries + centuries.tdiv 4) - 1524

/-- The Julian day of a moment of a date, in thousandths of a second. -/
def julianMillis (d : Date) (millisOfDay : Int) : Int :=
  dayNumber d * millisPerDay - millisPerDay / 2 + millisOfDay

def Instant.julianMillis (t : Instant) : Int :=
  Calendar.julianMillis t.date
    (((t.hour * 60 + t.minute) * 60 + t.second) * 1000 + t.nano / 1000000 : Nat)

/-! ### From texts -/

/-- A number of exactly `width` digits, within bounds. -/
def exactly (width low high : Nat) : Reading Nat := fun cs => do
  let n ← Decimal.digits? (cs.take width)
  if (cs.take width).length = width ∧ low ≤ n ∧ n ≤ high then some (n, cs.drop width) else none

/-- The years in which days are counted. -/
def countedYear (year : Int) : Bool := decide (-4713 ≤ year) && decide (year ≤ 9999)

/-- A date, which can have a sign. -/
def strictDate : Reading Date := do
  let negative ← minus
  let y ← exactly 4 0 9999
  literal '-'
  let m ← exactly 2 1 12
  literal '-'
  let d ← exactly 2 1 31
  let year : Int := if negative then -y else y
  if countedYear year then return ⟨year, m, d⟩ else failure
where
  minus : Reading Bool := fun cs =>
    match cs with
    | '-' :: rest => some (true, rest)
    | _ => some (false, cs)

def spaces : Reading Unit := fun cs => some ((), cs.dropWhile Text.isSpace)

/-- The fraction that some digits stand for, as floating-point numbers give it. -/
def fractionOf (ds : List Char) : Float :=
  let (digits, scale) := ds.foldl
    (fun (x : Float × Float) c => (x.1 * 10.0 + Float.ofNat c.toNat - 48.0, x.2 * 10.0)) (0.0, 1.0)
  digits / scale

/-- The fraction of a second. -/
def secondFraction : Reading Float := do
  match ← get with
  | '.' :: c :: cs =>
    if c.isDigit then
      set ((c :: cs).dropWhile Char.isDigit)
      return fractionOf ((c :: cs).takeWhile Char.isDigit)
    else return 0.0
  | _ => return 0.0

/-- Seconds in thousandths, if they are given. -/
def secondMillis : Reading Int := do
  match ← get with
  | ':' :: cs =>
    set cs
    let s ← exactly 2 0 59
    let x := (Float.ofNat s + (← secondFraction)) * 1000.0 + 0.5
    if x.isFinite then return x.toInt64.toInt else failure
  | _ => return 0

/-- A zone with its distance from the common time, in minutes, if it is given. -/
def zone : Reading Int := do
  spaces
  match ← get with
  | '+' :: cs =>
    set cs
    distance
  | '-' :: cs =>
    set cs
    return -(← distance)
  | 'Z' :: cs =>
    set cs
    return 0
  | 'z' :: cs =>
    set cs
    return 0
  | _ => return 0
where
  distance : Reading Int := do
    let h ← exactly 2 0 14
    literal ':'
    let m ← exactly 2 0 59
    return (h * 60 + m : Nat)

/-- A time of day in thousandths of a second. -/
def timeMillis : Reading Int := do
  let h ← exactly 2 0 24
  literal ':'
  let m ← exactly 2 0 59
  let s ← secondMillis
  let offset ← zone
  spaces
  return (h * 60 + m : Nat) * 60000 + s - offset * 60000

/-- What stands between a date and a time. -/
def dateGap : Reading Unit := fun cs => some ((), cs.dropWhile fun c => Text.isSpace c || c == 'T')

def dateMillis : Reading Int := do
  let d ← strictDate
  dateGap
  if (← get).isEmpty then return julianMillis d 0
  return julianMillis d (← timeMillis)

/-- The words for the present moment. -/
def nowWords : List String := ["now", "subsec", "subsecond"]

/-- The last Julian day that is counted, in thousandths of a second. -/
def lastMillis : Int := 464269060799999

/-- A Julian day, if it is counted. -/
def counted? (millis : Int) : Option Int :=
  if 0 ≤ millis ∧ millis ≤ lastMillis then some millis else none

/-- The Julian days that have numbers. -/
def julianBound : Float := 5373484.5

/-- The Julian day with that number. -/
def julianMillisOf? (x : Float) : Option Int :=
  if 0.0 ≤ x && x < julianBound then counted? (x * 86400000.0 + 0.5).toInt64.toInt else none

/-- The Julian day of a date or a time of day or the present moment, if a text names one. -/
def namedMillis? (now : Moment) (s : String) : Option Int :=
  if nowWords.any (Text.sameFold s) then some now.common.julianMillis
  else (dateMillis.run s.toList).or ((timeMillis.run s.toList).map (julianMillis ⟨2000, 1, 1⟩))

end ScopedQuery.Calendar
