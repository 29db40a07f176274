import ScopedQuery.Schema.Aggregation
/-!
# Fields of a dataset

A `Field` is a name for an SQL expression, which may differ between dialects, together with what
may be done with it.
-/

namespace ScopedQuery

/-- The type of a field's values, as which the operands of its filters are read. -/
inductive ValueType
  | integer | decimal | timestamp | text
deriving DecidableEq, Repr

namespace ValueType

def name : ValueType → String
  | integer => "Integer"
  | decimal => "Decimal"
  | timestamp => "Timestamp"
  | text => "Text"

def ofName? (name : String) : Option ValueType :=
  [integer, decimal, timestamp, text].find? (·.name == name)

end ValueType

/-- The dialect of SQL that a query is written in. -/
inductive Dialect
  | mysql | sqlite
deriving DecidableEq, Repr

namespace Dialect

def name : Dialect → String
  | mysql => "mysql"
  | sqlite => "sqlite"

def ofName? (name : String) : Option Dialect := [mysql, sqlite].find? (·.name == name)

end Dialect

structure Field where
  name : String
  expression : String
  /-- What replaces the expression in SQLite's dialect. -/
  sqliteExpression : Option String
  type : ValueType
  /-- The expression refers to a joined table. -/
  needsJoin : Bool
  /-- Sums, averages and extremes are allowed. -/
  numeric : Bool
deriving DecidableEq, Repr

namespace Field

def expressionIn (f : Field) : Dialect → String
  | .mysql => f.expression
  | .sqlite => f.sqliteExpression.getD f.expression

def supports (f : Field) (agg : Aggregation) : Bool := !agg.needsNumber || f.numeric

end Field

end ScopedQuery
