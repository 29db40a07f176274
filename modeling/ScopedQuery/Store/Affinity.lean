import ScopedQuery.Bound.Param
import ScopedQuery.Decimal.Layout
import ScopedQuery.Store.Cell
import ScopedQuery.Text.Blank
/-!
# Affinities

The `Affinity` of a column is the kind of cell that it prefers. `Affinity.stored` is the cell that
a column keeps in place of one that it is given, `Affinity.compared` the one that is compared.

* `Cell.numeral?` reads a text that is a number, `Cell.leading` the number at the front of a text.
* `Cell.ofParam` is the cell of a parameter.
-/

namespace ScopedQuery

/-- The kind of cell that a column prefers; `any` is no preference. -/
inductive Affinity
  | integer | real | text | any
deriving DecidableEq, Repr

/-- Numbers are preferred in either form. -/
def Affinity.isNumeric : Affinity → Bool
  | integer => true
  | real => true
  | _ => false

namespace Cell

/-! ### Numbers in texts -/

/-- The characters between the spaces at the two ends. -/
def core (s : String) : List Char :=
  ((s.toList.dropWhile Text.isSpace).reverse.dropWhile Text.isSpace).reverse

/-- The number that characters without a sign stand for. -/
def unsigned? (negative : Bool) (cs : List Char) : Option Cell :=
  let sign (n : Nat) : Int := if negative then -(n : Int) else n
  match (Decimal.digits? cs).map sign with
  | some n =>
    if Decimal.fitsWord n then some (integer (.ofInt n)) else some (real (Float.ofInt n))
  | none => (Decimal.magnitude? cs).map fun x => real (if negative then -x else x)

/-- The number that a whole text stands for, spaces around it apart. -/
def numeral? (s : String) : Option Cell :=
  match core s with
  | '-' :: cs => unsigned? true cs
  | '+' :: cs => unsigned? false cs
  | cs => unsigned? false cs

/-- The longest number at the front of some characters. -/
def leadingOf (cs : List Char) : Option Cell :=
  ((List.range (cs.length + 1)).reverse.findSome? fun n => numeral? (String.ofList (cs.take n)))

/-- The number at the front of a text, zero if there is none. -/
def leading (s : String) : Cell := (leadingOf (s.toList.dropWhile Text.isSpace)).getD (integer 0)

/-- A number, of which the text at the front of anything else is read. -/
def toNumber : Cell → Cell
  | null => null
  | integer n => integer n
  | real x => real x
  | text s => leading s
  | blob bytes => leading (Text.ofBytes bytes)

/-- A number as a floating-point number. -/
def toFloat (c : Cell) : Float :=
  match c.toNumber with
  | integer n => n.toFloat
  | real x => x
  | _ => 0.0

/-- A whole number in place of a floating-point number without a fraction. -/
def wholeOf (x : Float) : Cell :=
  let n := x.toInt64
  if n.toFloat == x && Int64.minValue < n && n < Int64.maxValue then integer n else real x

/-- Zero without its sign, and any other number as it is. -/
def positiveZero (x : Float) : Float := if x == 0.0 then 0.0 else x

/-! ### Texts of numbers -/

/-- Numbers as texts have at most fifteen digits, are positional from `1e-4` below `1e+15`, and
never lack a fraction. -/
def realLayout : Decimal.Layout := ⟨-4, 15, ".0", "+", ".0", 2⟩

def realText (x : Float) : String :=
  if x.isFinite then realLayout.renderTo 15 (positiveZero x)
  else if x < 0.0 then "-Inf" else "Inf"

/-! ### Parameters -/

/-- The cell of a parameter; an instant is kept as its text. -/
def ofParam : Param → Cell
  | .integer n => integer n
  | .decimal x => if x.isNaN then null else real x
  | .timestamp t => text t.spaced
  | .text s => text s

end Cell

namespace Affinity

open Cell

/-- The cell that is compared in place of another one. -/
def compared (a : Affinity) (c : Cell) : Cell :=
  match a, c with
  | .text, .integer n => .text (toString n.toInt)
  | .text, .real x => .text (realText x)
  | .integer, .text s => (numeral? s).getD (.text s)
  | .real, .text s => (numeral? s).getD (.text s)
  | _, _ => c

/-- The cell that is kept in place of another one. -/
def stored (a : Affinity) (c : Cell) : Cell :=
  match a, a.compared c with
  | .integer, .real x => wholeOf x
  | .real, .integer n => .real n.toFloat
  | .real, .real x => .real (positiveZero x)
  | _, kept => kept

end Affinity

end ScopedQuery
