/-!
# Numbers written by hand

* `integer?` reads an integer with an optional sign that fits 64 bits, `natural?` one without a
  minus sign below a bound.
* `float?` reads a decimal number, rounded to the nearest floating-point number; the words for
  infinity and for no number are read too.
-/

namespace ScopedQuery.Decimal

def digitValue (c : Char) : Nat := c.toNat - 48

/-- The value of a sequence of digits. -/
def value (ds : List Char) : Nat := ds.foldl (fun n c => 10 * n + digitValue c) 0

/-- The value of a text of one digit or more and of nothing else. -/
def digits? (cs : List Char) : Option Nat :=
  if cs.isEmpty || !cs.all Char.isDigit then none else some (value cs)

/-- The bounds of signed words of 64 bits. -/
def fitsWord (n : Int) : Bool :=
  decide (Int64.minValue.toInt ≤ n) && decide (n ≤ Int64.maxValue.toInt)

/-- An integer with an optional sign, of 64 bits. -/
def integer? (s : String) : Option Int64 :=
  let number := match s.toList with
    | '-' :: cs => (digits? cs).map fun n => -(n : Int)
    | '+' :: cs => (digits? cs).map Int.ofNat
    | cs => (digits? cs).map Int.ofNat
  match number with
  | some n => if fitsWord n then some (Int64.ofInt n) else none
  | none => none

/-- An integer with an optional plus sign, below `bound`. -/
def natural? (bound : Nat) (s : String) : Option Nat :=
  let number := match s.toList with
    | '+' :: cs => digits? cs
    | cs => digits? cs
  match number with
  | some n => if n < bound then some n else none
  | none => none

/-! ### Decimal numbers -/

/-- The floating-point number nearest to `n · 10 ^ e`. An exponent beyond all numbers is not
computed with. -/
def nearest (n : Nat) (e : Int) : Float :=
  let size : Int := (Nat.toDigits 10 n).length + e
  if n = 0 then 0.0
  else if size > 400 then 1.0 / 0.0
  else if size < -400 then 0.0
  else if e < 0 then Float.ofScientific n true e.natAbs
  else Float.ofScientific n false e.toNat

/-- The power of ten of a number, which may be left out. -/
def exponent? : List Char → Option Int
  | [] => some 0
  | e :: cs =>
    if e = 'e' ∨ e = 'E' then
      match cs with
      | '-' :: ds => (digits? ds).map fun n => -(n : Int)
      | '+' :: ds => (digits? ds).map Int.ofNat
      | ds => (digits? ds).map Int.ofNat
    else none

/-- A number without a sign: digits with an optional point among them or beside them, and an
optional exponent. -/
def magnitude? (cs : List Char) : Option Float :=
  let whole := cs.takeWhile Char.isDigit
  let rest := cs.dropWhile Char.isDigit
  let (fraction, rest) := match rest with
    | '.' :: more => (more.takeWhile Char.isDigit, more.dropWhile Char.isDigit)
    | more => ([], more)
  if whole.isEmpty && fraction.isEmpty then none
  else (exponent? rest).map fun e => nearest (value (whole ++ fraction)) (e - fraction.length)

/-- The numbers that are named by a word. -/
def word? (cs : List Char) : Option Float :=
  match String.ofList (cs.map Char.toLower) with
  | "inf" => some (1.0 / 0.0)
  | "infinity" => some (1.0 / 0.0)
  | "nan" => some (0.0 / 0.0)
  | _ => none

def unsigned? (cs : List Char) : Option Float := (word? cs).or (magnitude? cs)

/-- A decimal number with an optional sign. -/
def float? (s : String) : Option Float :=
  match s.toList with
  | '-' :: cs => (unsigned? cs).map fun x => -x
  | '+' :: cs => unsigned? cs
  | cs => unsigned? cs

end ScopedQuery.Decimal
