import ScopedQuery.Schema.Aggregation
import ScopedQuery.Schema.Operator
/-!
# Queries

A `Query` is a plan that has been checked against a dataset: fields exist, words have become values
of their own types, and each filter carries the operands that its operator takes.
-/

namespace ScopedQuery

/-- An operator with its operands. -/
inductive Predicate
  | compare (op : CompareOp) (value : String)
  | oneOf (values : List String)
  | between (low high : String)
deriving DecidableEq, Repr

namespace Predicate

def op : Predicate → FilterOp
  | compare op _ => op.filterOp
  | oneOf _ => .isIn
  | between _ _ => .between

/-- The operands, in the order in which they are bound. -/
def operands : Predicate → List String
  | compare _ value => [value]
  | oneOf values => values
  | between low high => [low, high]

end Predicate

namespace Query

structure Dimension where
  field : String
  label : String
deriving DecidableEq, Repr

structure Measure where
  agg : Aggregation
  field : String
  label : String
deriving DecidableEq, Repr

structure Filter where
  field : String
  predicate : Predicate
deriving DecidableEq, Repr

structure Order where
  field : String
  direction : SortDirection
deriving DecidableEq, Repr

end Query

structure Query where
  /-- The code of the dataset. -/
  dataset : String
  dimensions : List Query.Dimension
  measures : List Query.Measure
  filters : List Query.Filter
  orderBy : List Query.Order
  limit : UInt32
  /-- The fields that occur anywhere, sorted. -/
  usedFields : List String
deriving DecidableEq, Repr

/-- What becomes of a plan: a question to ask back, or a query. -/
inductive CheckedPlan
  | clarification (dataset question : String)
  | query (query : Query)
deriving DecidableEq, Repr

end ScopedQuery
