import ScopedQuery.Schema.Operator
import ScopedQuery.Schema.Aggregation
/-!
# Faults of a plan

A `PlanFault` is the reason why a plan, or a question, is turned down; `PlanFault.message` is its
wording, which begins with the part of the plan that is at fault.
-/

namespace ScopedQuery

/-- The parts of a plan that have to name something. -/
inductive PlanPath
  | dimensionField | measureAgg | measureField | filterField | filterOp | orderField
deriving DecidableEq, Repr

def PlanPath.name : PlanPath → String
  | dimensionField => "dimensions.field"
  | measureAgg => "measures.agg"
  | measureField => "measures.field"
  | filterField => "filters.field"
  | filterOp => "filters.op"
  | orderField => "orderBy.field"

inductive PlanFault
  | blankQuestion
  | unsupportedDataset (raw : String)
  | noClarifyingQuestion
  | noMeasures
  | blank (path : PlanPath)
  | unsupportedField (path : PlanPath) (name : String)
  | unsupportedAggregation (raw : String)
  | notNumeric (agg : Aggregation) (numeric : List String)
  | unsupportedOperator (raw : String)
  | noValues
  | blankValues
  | noBounds
  | noValue (op : CompareOp)
  | unsupportedDirection (raw : String)
  | nothingToSelect
  | emptySet (field : String)
  | notNumber (field : String)
  | notInstant (text : String)
  /-- A reason in words of its own. -/
  | stated (text : String)
deriving DecidableEq, Repr

/-- A text between single quotation marks. -/
def inQuotes (s : String) : String := "'" ++ s ++ "'"

def PlanFault.message : PlanFault → String
  | blankQuestion => "question must not be blank"
  | unsupportedDataset raw => "dataset: unsupported dataset " ++ inQuotes raw
  | noClarifyingQuestion => "clarifyingQuestion: required when needClarification is true"
  | noMeasures => "measures: plan has no measures"
  | blank path => path.name ++ " must not be blank"
  | unsupportedField path name => path.name ++ ": unsupported field " ++ inQuotes name
  | unsupportedAggregation raw => "measures.agg: unsupported aggregation " ++ inQuotes raw
  | notNumeric agg numeric =>
    "measures: aggregation " ++ agg.code ++ " only applies to " ++
      String.intercalate " or " numeric
  | unsupportedOperator raw => "filters.op: unsupported filter operator " ++ inQuotes raw
  | noValues => "filters.values: IN requires values"
  | blankValues => "filters.values: IN requires non-blank values"
  | noBounds => "filters.from/to: BETWEEN requires both from and to"
  | noValue op => "filters.value: " ++ op.filterOp.code ++ " requires a value"
  | unsupportedDirection raw => "orderBy.direction: unsupported sort direction " ++ inQuotes raw
  | nothingToSelect => "plan has nothing to select"
  | emptySet field => "IN on " ++ field ++ " has no values"
  | notNumber field => field ++ " must be a number"
  | notInstant text => "cannot parse timestamp " ++ inQuotes text
  | stated text => text

end ScopedQuery
