import ScopedQuery.Plan.Basic
import ScopedQuery.Plan.Fault
import ScopedQuery.Query.Basic
import ScopedQuery.Query.Limits
import ScopedQuery.Schema.Dataset
import ScopedQuery.Text.DisplayName
/-!
# Checking a plan

`Plan.check` turns a plan into a query of a registry's dataset, or says what is wrong with it. The
dataset is looked at first, then whether a question is to be asked back, then measures are called
for; after that the dimensions, measures, filters and sort keys are checked in this order, each from
first to last, and the first fault is the answer.
-/

namespace ScopedQuery

namespace Plan

/-- The trimmed text of a part that must not be blank. -/
def requireText (path : PlanPath) (raw : Option String) : Except PlanFault String :=
  match Text.filled? raw with
  | some text => .ok text
  | none => .error (.blank path)

/-- The name of a field of the dataset. -/
def requireField (d : Dataset) (path : PlanPath) (raw : Option String) :
    Except PlanFault String := do
  let name ← requireText path raw
  if (d.field? name).isSome then return name else throw (.unsupportedField path name)

def Dimension.check (d : Dataset) (dim : Dimension) : Except PlanFault Query.Dimension := do
  let field ← requireField d .dimensionField dim.field
  return ⟨field, Text.displayName dim.label field⟩

/-- The display name of a measure that has no label. -/
def measureName (agg : Aggregation) (field : String) : String := agg.code ++ "_" ++ field

def Measure.check (d : Dataset) (m : Measure) : Except PlanFault Query.Measure := do
  let word ← requireText .measureAgg m.agg
  let name ← requireText .measureField m.field
  match Aggregation.read? word with
  | none => throw (.unsupportedAggregation word)
  | some agg =>
    let field ← requireField d .measureField (some name)
    if d.supports agg field then
      return ⟨agg, field, Text.displayName m.label (measureName agg field)⟩
    else throw (.notNumeric agg d.numericFields)

/-- The operator of a filter, which the dataset has to allow. -/
def requireOperator (d : Dataset) (raw : Option String) : Except PlanFault FilterOp := do
  let word ← requireText .filterOp raw
  match FilterOp.read? word with
  | none => throw (.unsupportedOperator word)
  | some op => if d.filterOps.contains op then return op else throw (.unsupportedOperator word)

/-- The operands of `IN` that are not blank. -/
def filledValues (values : List String) : List String := values.filterMap Text.nonBlank?

/-- The operator with the operands that it takes; other operands of the filter do not count. -/
def Filter.predicate (f : Filter) (op : FilterOp) : Except PlanFault Predicate :=
  match op with
  | .isIn =>
    if f.values.isEmpty then throw .noValues
    else if (filledValues f.values).isEmpty then throw .blankValues
    else return .oneOf (filledValues f.values)
  | .between =>
    match Text.filled? f.low, Text.filled? f.high with
    | some low, some high => return .between low high
    | _, _ => throw .noBounds
  | .eq => comparison .eq
  | .ne => comparison .ne
  | .gt => comparison .gt
  | .gte => comparison .gte
  | .lt => comparison .lt
  | .lte => comparison .lte
where
  comparison (op : CompareOp) : Except PlanFault Predicate :=
    match Text.filled? f.value with
    | some value => return .compare op value
    | none => throw (.noValue op)

def Filter.check (d : Dataset) (f : Filter) : Except PlanFault Query.Filter := do
  let field ← requireField d .filterField f.field
  let op ← requireOperator d f.op
  return ⟨field, ← f.predicate op⟩

def Order.check (d : Dataset) (o : Order) : Except PlanFault Query.Order := do
  let field ← requireField d .orderField o.field
  let word := o.direction.getD ""
  match SortDirection.read? word with
  | some direction => return ⟨field, direction⟩
  | none => throw (.unsupportedDirection word)

/-- The fields that occur in the parts of a query. -/
def fieldsOf (dimensions : List Query.Dimension) (measures : List Query.Measure)
    (filters : List Query.Filter) (orderBy : List Query.Order) : List String :=
  Text.sorted (dimensions.map (·.field) ++ measures.map (·.field) ++ filters.map (·.field) ++
    orderBy.map (·.field))

/-- The query that a plan without a question to ask back amounts to. -/
def checkParts (d : Dataset) (limits : Limits) (p : Plan) : Except PlanFault Query := do
  if p.measures.isEmpty then throw .noMeasures
  let dimensions ← p.dimensions.mapM (Dimension.check d)
  let measures ← p.measures.mapM (Measure.check d)
  let filters ← p.filters.mapM (Filter.check d)
  let orderBy ← p.orderBy.mapM (Order.check d)
  return {
    dataset := d.code
    dimensions, measures, filters, orderBy
    limit := limits.normalize p.limit
    usedFields := fieldsOf dimensions measures filters orderBy }

/-- Checks a plan against the dataset of a registry. -/
def check (registry : Registry) (limits : Limits) (p : Plan) : Except PlanFault CheckedPlan := do
  let code := p.dataset.getD ""
  match registry.find? code with
  | none => throw (.unsupportedDataset code)
  | some d =>
    if p.isClarification then
      match Text.filled? p.clarifyingQuestion with
      | some question => return .clarification d.code question
      | none => throw .noClarifyingQuestion
    else return .query (← p.checkParts d limits)

end Plan

end ScopedQuery
