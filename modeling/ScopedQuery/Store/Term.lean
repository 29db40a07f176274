import ScopedQuery.Calendar.JulianDay
import ScopedQuery.Schema.Operator
import ScopedQuery.Store.Basic
/-!
# Terms and tests

A `Term` computes a cell from a row, and a `Test` tells whether the row fulfils a condition. A row
of a query has one row of each of its sources. What null has a part in is neither true nor false.

* `Term.eval` and `Test.eval` compute in an `Occasion`, which gives the parameters and the time.
* `Test.holds` says that a test is true.
-/

namespace ScopedQuery.Store

/-- A row of each source. -/
abbrev Joined := List Row

/-- What the evaluation of a query depends on besides the rows. -/
structure Occasion where
  params : List Cell
  now : Calendar.Moment

inductive Term
  /-- The cell of a column, by the places of source and column. -/
  | cell (source place : Nat) (affinity : Affinity)
  | param (index : Nat)
  | constant (cell : Cell)
  | difference (left right : Term)
  /-- The integer next to a number, towards zero. -/
  | truncated (term : Term)
  /-- The Julian day that a text names. -/
  | julianDay (term : Term)
  /-- The Julian day of the occasion here. -/
  | today
deriving BEq

inductive Test
  | compare (op : CompareOp) (left right : Term)
  | between (value low high : Term)
  | oneOf (value : Term) (items : List Term)
  | isNull (value : Term)
  | not (test : Test)
  | and (left right : Test)
  | or (left right : Test)
  | always

namespace Term

/-- The sources, by their places, whose cells a term is computed from. -/
def sources : Term → List Nat
  | cell source _ _ => [source]
  | difference left right => left.sources ++ right.sources
  | truncated term => term.sources
  | julianDay term => term.sources
  | _ => []

/-- The affinity of the cells that a term computes. -/
def affinity : Term → Affinity
  | cell _ _ a => a
  | truncated _ => .integer
  | _ => .any

/-- The difference of two numbers. -/
def minus (a b : Cell) : Cell :=
  match a.toNumber, b.toNumber with
  | .null, _ => .null
  | _, .null => .null
  | .integer m, .integer n =>
    if Decimal.fitsWord (m.toInt - n.toInt) then .integer (m - n) else .real (m.toFloat - n.toFloat)
  | x, y => .real (x.toFloat - y.toFloat)

def truncate (c : Cell) : Cell :=
  match c.toNumber with
  | .real x => .integer x.toInt64
  | n => n

/-- A number of thousandths of a second in days. -/
def daysOfMillis (n : Int) : Cell := .real (Float.ofInt n / 86400000.0)

/-- The Julian day that a text names, up to its first null character, or that it is the number of. -/
def textMillis? (now : Calendar.Moment) (text : String) : Option Int :=
  let s := String.ofList (text.toList.takeWhile (· ≠ '\x00'))
  match Calendar.namedMillis? now s with
  | some millis => Calendar.counted? millis
  | none => (Cell.numeral? s).bind fun number => Calendar.julianMillisOf? number.toFloat

def julianMillis? (now : Calendar.Moment) : Cell → Option Int
  | .null => none
  | .text s => textMillis? now s
  | .blob bytes => textMillis? now (Text.ofBytes bytes)
  | number => Calendar.julianMillisOf? number.toFloat

def julianDayOf (now : Calendar.Moment) (c : Cell) : Cell :=
  ((julianMillis? now c).map daysOfMillis).getD .null

def eval (occasion : Occasion) (row : Joined) : Term → Cell
  | cell source place _ => Table.cellAt ((row[source]?).getD []) place
  | param index => (occasion.params[index]?).getD .null
  | constant c => c
  | difference left right => minus (left.eval occasion row) (right.eval occasion row)
  | truncated term => truncate (term.eval occasion row)
  | julianDay term => julianDayOf occasion.now (term.eval occasion row)
  | today => daysOfMillis occasion.now.here.julianMillis

end Term

namespace Test

/-- The affinity in which two terms are compared: numbers are preferred to texts, and any other
preference counts only beside a term that has none. -/
def sharedAffinity (left right : Affinity) : Affinity :=
  if left.isNumeric || right.isNumeric then .integer
  else if left = .any then right
  else if right = .any then left
  else .any

/-- Whether two cells other than null compare by an operator. -/
def relates (op : CompareOp) (a b : Cell) : Bool :=
  match op with
  | .eq => a.same b
  | .ne => !a.same b
  | .gt => b.lt a
  | .gte => !a.lt b
  | .lt => a.lt b
  | .lte => !b.lt a

/-- The truth of a comparison of two cells. -/
def compareCells (op : CompareOp) (a b : Cell) : Option Bool :=
  if a.isNull || b.isNull then none else some (relates op a b)

/-- The truth of a comparison of two terms. -/
def compareTerms (occasion : Occasion) (row : Joined) (op : CompareOp) (left right : Term) :
    Option Bool :=
  let affinity := sharedAffinity left.affinity right.affinity
  compareCells op (affinity.compared (left.eval occasion row))
    (affinity.compared (right.eval occasion row))

/-- Both are true; false wins over what is unknown. -/
def both : Option Bool → Option Bool → Option Bool
  | some false, _ => some false
  | _, some false => some false
  | some true, some true => some true
  | _, _ => none

/-- One of them is true; true wins over what is unknown. -/
def either : Option Bool → Option Bool → Option Bool
  | some true, _ => some true
  | _, some true => some true
  | some false, some false => some false
  | _, _ => none

/-- The truth of a term's being equal to one of some terms. -/
def memberOf (occasion : Occasion) (row : Joined) (value : Term) : List Term → Option Bool
  | [] => some false
  | item :: items =>
    let affinity := value.affinity
    either
      (compareCells .eq (affinity.compared (value.eval occasion row))
        (affinity.compared (item.eval occasion row)))
      (memberOf occasion row value items)

/-- The truth of a test, if it is known. -/
def eval (occasion : Occasion) (row : Joined) : Test → Option Bool
  | compare op left right => compareTerms occasion row op left right
  | between value low high =>
    both (compareTerms occasion row .gte value low) (compareTerms occasion row .lte value high)
  | oneOf value items => memberOf occasion row value items
  | isNull value => some (value.eval occasion row).isNull
  | not test => (test.eval occasion row).map (!·)
  | and left right => both (left.eval occasion row) (right.eval occasion row)
  | or left right => either (left.eval occasion row) (right.eval occasion row)
  | always => some true

/-- The conditions that all have to be true for a test to be true. -/
def conjuncts : Test → List Test
  | and left right => left.conjuncts ++ right.conjuncts
  | test => [test]

def holds (test : Test) (occasion : Occasion) (row : Joined) : Bool :=
  test.eval occasion row == some true

end Test

end ScopedQuery.Store
