import ScopedQuery.Schema.Field
import ScopedQuery.Schema.Operator
import ScopedQuery.Text.Lower
import ScopedQuery.Text.Sorted
/-!
# Datasets

A `Dataset` says what a plan may ask for: its fields, the tables behind them, the filter operators,
and which fields concern persons. A `Registry` knows one dataset by its code.
-/

namespace ScopedQuery

/-- A table that is joined to the base table, with the SQL that joins it. -/
structure JoinClause where
  table : String
  sql : String
deriving DecidableEq, Repr

structure Dataset where
  code : String
  table : String
  shortName : String
  /-- The condition that holds of rows that are not deleted. -/
  softDelete : String
  fields : List Field
  /-- The joins, all of which are made if a field in use needs them. -/
  joins : List JoinClause
  /-- The field that is pinned to the caller's id unless the caller is privileged. -/
  scopedField : String
  /-- The fields by which rows of several persons are told apart. -/
  crossPersonFields : List String
  filterOps : List FilterOp
deriving Repr

namespace Dataset

/-- The field of that name; blanks around the name do not count. -/
def field? (d : Dataset) (name : String) : Option Field :=
  d.fields.find? (·.name == Text.trim name)

def fieldNames (d : Dataset) : List String := Text.sorted (d.fields.map (·.name))

/-- The names of the numeric fields, in the order of the fields. -/
def numericFields (d : Dataset) : List String := (d.fields.filter (·.numeric)).map (·.name)

/-- Whether the field exists and supports the aggregation. -/
def supports (d : Dataset) (agg : Aggregation) (name : String) : Bool :=
  (d.field? name).any (·.supports agg)

/-- The names of the tables that a query may read, in lower case. -/
def tables (d : Dataset) : List String :=
  Text.sorted ((d.table :: d.joins.map (·.table)).map Text.toLower)

/-- The filter operators in the order of `FilterOp.all`. -/
def operators (d : Dataset) : List FilterOp := FilterOp.all.filter (d.filterOps.contains ·)

/-- Whether one of the fields needs the joins. -/
def needsJoin (d : Dataset) (names : List String) : Bool :=
  names.any fun name => (d.field? name).any (·.needsJoin)

/-- The base table with its short name. -/
def source (d : Dataset) : String := d.table ++ " " ++ d.shortName

def isCrossPerson (d : Dataset) (name : String) : Bool :=
  d.crossPersonFields.contains (Text.trim name)

end Dataset

/-- The datasets that questions can be asked about. -/
structure Registry where
  dataset : Dataset
deriving Repr

namespace Registry

/-- The dataset of that code, whatever its case and the blanks around it. -/
def find? (r : Registry) (code : String) : Option Dataset :=
  if Text.sameFold r.dataset.code (Text.trim code) then some r.dataset else none

/-- The dataset named by a plan, or the default one if none or an unknown one is named. -/
def findOrDefault (r : Registry) (code : Option String) : Dataset :=
  (code.bind r.find?).getD r.dataset

end Registry

end ScopedQuery
