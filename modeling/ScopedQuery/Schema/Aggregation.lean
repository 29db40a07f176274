import ScopedQuery.Text.Blank
import ScopedQuery.Text.Case
/-!
# Aggregations

An `Aggregation` sums up the values of a field over a group of rows. `code` is its word in a plan,
`read?` reads such a word, and `wrap` writes the aggregation of an SQL expression.
-/

namespace ScopedQuery

inductive Aggregation
  | count | countDistinct | sum | avg | min | max
deriving DecidableEq, Repr

namespace Aggregation

def all : List Aggregation := [count, countDistinct, sum, avg, min, max]

def code : Aggregation → String
  | count => "COUNT"
  | countDistinct => "COUNT_DISTINCT"
  | sum => "SUM"
  | avg => "AVG"
  | min => "MIN"
  | max => "MAX"

/-- The aggregation with exactly this code. -/
def ofCode? (code : String) : Option Aggregation := all.find? (·.code == code)

/-- Reads a code, whatever its case and the blanks around it. -/
def read? (raw : String) : Option Aggregation := ofCode? (Text.upper (Text.trim raw))

/-- Any field can be counted; the other aggregations are for numbers. -/
def needsNumber : Aggregation → Bool
  | count => false
  | countDistinct => false
  | _ => true

/-- The aggregation of an SQL expression. -/
def wrap : Aggregation → String → String
  | countDistinct, e => "COUNT(DISTINCT " ++ e ++ ")"
  | agg, e => agg.code ++ "(" ++ e ++ ")"

theorem mem_all (agg : Aggregation) : agg ∈ all := by cases agg <;> decide

@[simp] theorem ofCode?_code (agg : Aggregation) : ofCode? agg.code = some agg := by
  cases agg <;> decide

end Aggregation

end ScopedQuery
