/-!
# Plans

A `Plan` is what a model made of a question: what to measure, by what to group, what to filter and
how to sort. Nothing about it can be relied on; every part may be missing, and its words may mean
nothing. A plan can be built up step by step with the functions named `with…`.
-/

namespace ScopedQuery

namespace Plan

structure Measure where
  agg : Option String := none
  field : Option String := none
  label : Option String := none
deriving DecidableEq, Repr

structure Dimension where
  field : Option String := none
  label : Option String := none
deriving DecidableEq, Repr

structure Filter where
  field : Option String := none
  op : Option String := none
  /-- The operand of a comparison. -/
  value : Option String := none
  /-- The operands of `IN`. -/
  values : List String := []
  /-- The bounds of `BETWEEN`. -/
  low : Option String := none
  high : Option String := none
deriving DecidableEq, Repr

structure Order where
  field : Option String := none
  direction : Option String := none
deriving DecidableEq, Repr

end Plan

structure Plan where
  dataset : Option String := none
  /-- Whether to ask a question back instead of running a query. -/
  needClarification : Option Bool := none
  clarifyingQuestion : Option String := none
  measures : List Plan.Measure := []
  dimensions : List Plan.Dimension := []
  filters : List Plan.Filter := []
  orderBy : List Plan.Order := []
  limit : Option Int64 := none
deriving DecidableEq, Repr

namespace Plan

/-- The plan that names a dataset and nothing else. -/
def ofDataset (dataset : String) : Plan := { dataset := some dataset }

/-- The plan that asks a question back. -/
def clarification (dataset : Option String) (question : String) : Plan :=
  { dataset, needClarification := some true, clarifyingQuestion := some question }

def isClarification (p : Plan) : Bool := p.needClarification == some true

def withMeasure (p : Plan) (m : Measure) : Plan := { p with measures := p.measures ++ [m] }

def withDimension (p : Plan) (d : Dimension) : Plan := { p with dimensions := p.dimensions ++ [d] }

def withFilter (p : Plan) (f : Filter) : Plan := { p with filters := p.filters ++ [f] }

def withOrder (p : Plan) (o : Order) : Plan := { p with orderBy := p.orderBy ++ [o] }

def withLimit (p : Plan) (n : Int64) : Plan := { p with limit := some n }

/-- The filter that compares a field with one operand. -/
def Filter.compare (field op value : String) : Filter :=
  { field := some field, op := some op, value := some value }

def Filter.eq (field value : String) : Filter := .compare field "EQ" value

def Filter.oneOf (field : String) (values : List String) : Filter :=
  { field := some field, op := some "IN", values }

def Filter.between (field low high : String) : Filter :=
  { field := some field, op := some "BETWEEN", low := some low, high := some high }

end Plan

end ScopedQuery
