/-!
# The shortest decimal of a floating-point number

A finite number other than zero is `m · 2 ^ q`. Every real that rounds to it lies in an interval
around it, whose ends belong to the interval when `m` is even.

* `Binary.ofFloat` takes a number apart.
* `Binary.reaches` says whether a decimal lies in the interval.
* `Binary.rounded` is the nearest decimal of some number of digits.
* `Binary.shortest` is the decimal of fewest digits in the interval, and the nearest of those; a
  decimal half-way between two is avoided in favour of the even one.
-/

namespace ScopedQuery.Decimal

/-- The number `mantissa · 2 ^ exponent`. `narrow` says that the next smaller number is only half
as far away as the next larger one. -/
structure Binary where
  mantissa : Nat
  exponent : Int
  narrow : Bool
deriving DecidableEq, Repr

/-- The decimal `digits · 10 ^ exponent`. -/
structure Digits where
  digits : Nat
  exponent : Int
deriving DecidableEq, Repr

/-- Whether a number is written with a minus sign. -/
def hasMinus (x : Float) : Bool := decide (0x8000000000000000 ≤ x.toBits)

/-- The number of fractions that a mantissa can have. -/
def fractions : Nat := 0x10000000000000

/-- The parts of the magnitude of a finite number. -/
def Binary.ofFloat (x : Float) : Binary :=
  let bits : Nat := x.toBits.toNat
  let fraction : Nat := bits % fractions
  let biased : Nat := bits / fractions % 2048
  if biased = 0 then ⟨fraction, -1074, false⟩
  else ⟨fraction + fractions, (biased : Int) - 1075, fraction == 0 && biased > 1⟩

/-- `d · 10 ^ e` and `n · 2 ^ q` on one scale, so that they compare as natural numbers. -/
def aligned (d : Nat) (e : Int) (n : Nat) (q : Int) : Nat × Nat :=
  (d * Nat.pow 10 e.toNat * Nat.pow 2 (-q).toNat, n * Nat.pow 2 q.toNat * Nat.pow 10 (-e).toNat)

/-- Whether `d · 10 ^ e` rounds to the number. -/
def Binary.reaches (b : Binary) (d : Nat) (e : Int) : Bool :=
  let gap := if b.narrow then 1 else 2
  let below := aligned d e (4 * b.mantissa - gap) (b.exponent - 2)
  let above := aligned d e (4 * b.mantissa + 2) (b.exponent - 2)
  if b.mantissa % 2 == 0 then decide (below.2 ≤ below.1) && decide (above.1 ≤ above.2)
  else decide (below.2 < below.1) && decide (above.1 < above.2)

/-- The whole part of the number divided by `10 ^ e`. -/
def Binary.quotient (b : Binary) (e : Int) : Nat :=
  let (unit, value) := aligned 1 e b.mantissa b.exponent
  value / unit

/-- The exponent of ten of the leading digit. -/
def Binary.magnitude (b : Binary) : Int :=
  ((Nat.toDigits 10 (b.quotient (-400))).length : Int) - 401

/-- Which of `d` and `d + 1`, as multiples of `10 ^ e`, is nearer to the number. -/
def Binary.nearer (b : Binary) (d : Nat) (e : Int) : Nat :=
  let (middle, value) := aligned (2 * d + 1) e (2 * b.mantissa) b.exponent
  if value < middle then d
  else if middle < value then d + 1
  else if d % 2 == 0 then d else d + 1

/-- The decimal of `count` significant digits that is nearest to the number. -/
def Binary.rounded (count : Nat) (b : Binary) : Digits :=
  let e := b.magnitude + 1 - count
  ⟨b.nearer (b.quotient e) e, e⟩

/-- The decimal of `count` significant digits that rounds to the number and is nearest to it. -/
def Binary.ofCount? (b : Binary) (count : Nat) : Option Digits :=
  let e := b.magnitude + 1 - count
  let d := b.quotient e
  match b.reaches d e, b.reaches (d + 1) e with
  | true, true => some ⟨b.nearer d e, e⟩
  | true, false => some ⟨d, e⟩
  | false, true => some ⟨d + 1, e⟩
  | false, false => none

/-- Seventeen digits tell any two numbers apart. -/
def Binary.shortest (b : Binary) : Digits :=
  ((List.range 17).findSome? fun n => b.ofCount? (n + 1)).getD ⟨b.quotient 0, 0⟩

end ScopedQuery.Decimal
