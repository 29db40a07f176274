import ScopedQuery.Decimal.Shortest
import ScopedQuery.Json.Value
import ScopedQuery.Text.Utf8
/-!
# Cells

A `Cell` is a value that a store keeps. Cells are ordered: null comes first, then numbers by their
value, texts by their characters, and blobs by their bytes.

* `Cell.lt` is this order, and `Cell.same` says that neither of two cells comes before the other.
* `Cell.toJson` is a cell as an answer shows it.
-/

namespace ScopedQuery

inductive Cell
  | null
  | integer (value : Int64)
  | real (value : Float)
  | text (value : String)
  | blob (bytes : List UInt8)
deriving Inhabited, BEq

namespace Cell

def isNull : Cell → Bool
  | null => true
  | _ => false

/-- The exact value of a floating-point number; infinity counts as the power of two next to all
numbers. -/
def exactValue (x : Float) : Dyadic :=
  let b := Decimal.Binary.ofFloat x
  let m : Int := if Decimal.hasMinus x then -(b.mantissa : Int) else b.mantissa
  .ofIntWithPrec m (-b.exponent)

/-- The exact value of a number. -/
def number? : Cell → Option Dyadic
  | integer n => some (.ofIntWithPrec n.toInt 0)
  | real x => some (exactValue x)
  | _ => none

/-- The place of a cell's kind among the kinds. -/
def rank : Cell → Nat
  | null => 0
  | integer _ => 1
  | real _ => 1
  | text _ => 2
  | blob _ => 3

/-- Whether a cell comes before another one. -/
def lt (a b : Cell) : Bool :=
  match a, b with
  | text s, text t => decide (s < t)
  | blob x, blob y => decide (x < y)
  | _, _ =>
    match a.number?, b.number? with
    | some x, some y => decide (x < y)
    | _, _ => decide (a.rank < b.rank)

/-- Whether the order does not tell two cells apart. -/
def same (a b : Cell) : Bool := !a.lt b && !b.lt a

/-! ### As JSON -/

open Json (Value)

/-- A cell as an answer shows it. A blob is shown as text, and what is no number as null. -/
def toJson : Cell → Value
  | null => .null
  | integer n => .int n.toInt
  | real x => if x.isFinite then .float x else .null
  | text s => .string s
  | blob bytes => .string (Text.ofBytes bytes)

end Cell

end ScopedQuery
