import ScopedQuery.Decimal.Shortest
/-!
# The text of a floating-point number

`Layout` holds the decisions of a number format. `Layout.render` writes a finite number by it, in
as few digits as read back, and `Layout.renderTo` in as many digits as are asked for at most.
`standard` is the format of this library: positional from `1e-5` below `1e+16`, otherwise with an
exponent, and never without a point or an exponent.
-/

namespace ScopedQuery.Decimal

structure Layout where
  /-- The least exponent of ten that is written positionally. -/
  least : Int
  /-- The least exponent of ten above those that are written positionally. -/
  bound : Int
  /-- What marks a whole number that is written positionally. -/
  whole : String
  /-- The sign of an exponent that is not negative. -/
  plus : String
  /-- What follows a single digit before an exponent. -/
  single : String
  /-- The least number of digits of an exponent. -/
  width : Nat

def standard : Layout := ⟨-5, 16, ".0", "+", "", 1⟩

def zeros (n : Nat) : List Char := List.replicate n '0'

/-- The digits without the zeros at their end, of which at least one digit is kept. -/
def significant (digits : List Char) : List Char :=
  match (digits.reverse.dropWhile (· == '0')).reverse with
  | [] => ['0']
  | ds => ds

/-- The digits with a point after the first `places` of them. -/
def withPoint (layout : Layout) (ds : List Char) (places : Nat) : List Char :=
  let whole := ds.take places ++ zeros (places - ds.length)
  match ds.drop places with
  | [] => whole ++ layout.whole.toList
  | fraction => whole ++ '.' :: fraction

/-- The text of the decimal with the significant digits `ds`, the first of which counts
`10 ^ magnitude`. -/
def Layout.write (layout : Layout) (ds : List Char) (magnitude : Int) : List Char :=
  if magnitude < layout.least ∨ layout.bound ≤ magnitude then
    let fraction := match ds.drop 1 with | [] => layout.single.toList | rest => '.' :: rest
    let sign := if magnitude < 0 then "-" else layout.plus
    let power := Nat.toDigits 10 magnitude.natAbs
    ds.take 1 ++ fraction ++ 'e' :: sign.toList ++ zeros (layout.width - power.length) ++ power
  else if magnitude < 0 then '0' :: '.' :: zeros (magnitude.natAbs - 1) ++ ds
  else withPoint layout ds (magnitude.toNat + 1)

/-- The text of a finite number whose magnitude is written as the decimal that `decimal` makes
of it. -/
def Layout.renderBy (layout : Layout) (decimal : Binary → Digits) (x : Float) : String :=
  let sign := if hasMinus x then ['-'] else []
  let b := Binary.ofFloat x
  if b.mantissa = 0 then String.ofList (sign ++ withPoint layout ['0'] 1)
  else
    let d := decimal b
    let ds := Nat.toDigits 10 d.digits
    String.ofList (sign ++ layout.write (significant ds) (d.exponent + ds.length - 1))

/-- The text of a finite number: the fewest digits that read back as it. -/
def Layout.render (layout : Layout) (x : Float) : String := layout.renderBy Binary.shortest x

/-- The text of a finite number, rounded to `count` significant digits. -/
def Layout.renderTo (layout : Layout) (count : Nat) (x : Float) : String :=
  layout.renderBy (Binary.rounded count) x

/-- The text of a finite number in the format of this library. -/
def render (x : Float) : String := standard.render x

end ScopedQuery.Decimal
