import ScopedQuery.Schema.Aggregation
import ScopedQuery.Store.Basic
/-!
# Totals

A `Total` is a sum under way. Integers are summed exactly for as long as there is nothing else and
the sum fits; from then on the sum is a floating-point number, beside which the part that rounding
lost is kept.

* `Total.of` sums some cells, and `Total.cell` and `Total.mean` say what came out.
* `aggregate` computes one cell from many; null has no part in it.
-/

namespace ScopedQuery.Store

inductive Total
  | exact (sum : Int64)
  /-- A rounded sum with what was lost. `overflowed` says that integers alone did not fit. -/
  | rounded (sum lost : Float) (overflowed : Bool)

namespace Total

/-- The sum of two numbers, and what it lacks of the exact one. -/
def twoSum (s r : Float) : Float × Float :=
  let t := s + r
  if s.abs > r.abs then (t, (s - t) + r) else (t, (r - t) + s)

/-- Adds a floating-point number to a rounded sum. -/
def addReal (sum lost x : Float) : Float × Float :=
  let (t, e) := twoSum sum x
  (t, lost + e)

/-- Integers from here on are not exact as floating-point numbers, with some room. -/
def largeWord : Int := 4503599627370496

/-- An integer as a sum of two that are exact as floating-point numbers. -/
def split (n : Int64) : Float × Float :=
  if n.toInt ≤ -largeWord ∨ largeWord ≤ n.toInt then
    let low := n.toInt.tmod 16384
    ((Int64.ofInt (n.toInt - low)).toFloat, (Int64.ofInt low).toFloat)
  else (n.toFloat, 0.0)

def addInteger (sum lost : Float) (n : Int64) : Float × Float :=
  let (high, low) := split n
  let (s, e) := addReal sum lost high
  if low == 0.0 then (s, e) else addReal s e low

/-- Adds a cell other than null. -/
def add (total : Total) (c : Cell) : Total :=
  match total, c with
  | exact s, .integer n =>
    if Decimal.fitsWord (s.toInt + n.toInt) then exact (s + n)
    else
      let (sum, lost) := split s
      let (sum, lost) := addInteger sum lost n
      rounded sum lost true
  | exact s, x =>
    let (sum, lost) := split s
    let (sum, lost) := addReal sum lost x.toFloat
    rounded sum lost false
  | rounded s l overflowed, .integer n =>
    let (sum, lost) := addInteger s l n
    rounded sum lost overflowed
  | rounded s l _, x =>
    let (sum, lost) := addReal s l x.toFloat
    rounded sum lost false

/-- A cell as it is summed up. -/
def summand : Cell → Cell
  | .text s => (Cell.numeral? s).getD (.real (Cell.leading s).toFloat)
  | .blob bytes => .real (Cell.blob bytes).toFloat
  | c => c

def of (cells : List Cell) : Total := cells.foldl (fun total c => total.add (summand c)) (exact 0)

/-- The sum as a floating-point number. -/
def toFloat : Total → Float
  | exact s => s.toFloat
  | rounded s l _ => if l.isNaN then s else s + l

/-- A floating-point number as a cell. -/
def realCell (x : Float) : Cell := if x.isNaN then .null else .real x

/-- The sum as a cell. -/
def cell : Total → Except StoreFault Cell
  | exact s => .ok (.integer s)
  | rounded _ _ true => .error .overflow
  | rounded s l false => .ok (realCell (toFloat (rounded s l false)))

def mean (total : Total) (count : Nat) : Cell := realCell (total.toFloat / Float.ofNat count)

end Total

/-! ### Aggregates -/

/-- The cells, each of which is kept only where it comes up first. -/
def distinct : List Cell → List Cell
  | [] => []
  | c :: cs => c :: (distinct cs).filter fun other => !c.same other

/-- The first of the cells that come before all others. -/
def least (first : Cell) (rest : List Cell) : Cell :=
  rest.foldl (fun best c => if c.lt best then c else best) first

/-- The first of the cells that come after all others. -/
def greatest (first : Cell) (rest : List Cell) : Cell :=
  rest.foldl (fun best c => if best.lt c then c else best) first

/-- A number of rows as a cell. -/
def countCell (n : Nat) : Cell := .integer (.ofNat n)

/-- An aggregate of cells none of which is null. -/
def aggregateOf (agg : Aggregation) (cells : List Cell) : Except StoreFault Cell :=
  match agg, cells with
  | .count, cs => .ok (countCell cs.length)
  | .countDistinct, cs => .ok (countCell (distinct cs).length)
  | _, [] => .ok .null
  | .sum, cs => (Total.of cs).cell
  | .avg, cs => .ok ((Total.of cs).mean cs.length)
  | .min, c :: cs => .ok (least c cs)
  | .max, c :: cs => .ok (greatest c cs)

def aggregate (agg : Aggregation) (cells : List Cell) : Except StoreFault Cell :=
  aggregateOf agg (cells.filter fun c => !c.isNull)

end ScopedQuery.Store
