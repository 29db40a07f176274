import ScopedQuery.Bound.Param
import ScopedQuery.Failure
import ScopedQuery.Query.Basic
import ScopedQuery.Schema.Dataset
import ScopedQuery.Text.DisplayName
/-!
# Bound queries

A `BoundQuery` is the text of a SELECT with its parameters and display names. `Query.clauses` makes
the clauses of the text out of a query, `Clauses.sql` writes them, and `Query.bind` does both.
Everything in the text comes from the dataset; operands only become parameters, and aliases only
become display names.
-/

namespace ScopedQuery

structure BoundQuery where
  /-- The text, with a question mark for each parameter. -/
  sql : String
  params : List Param
  /-- The display names of the select list. -/
  columns : List String

/-- The number of question marks in the text. -/
def BoundQuery.placeholders (b : BoundQuery) : Nat := b.sql.toList.count '?'

/-- A condition on a field with the parameters of its question marks. -/
structure Condition where
  sql : String
  params : List Param

/-- The clauses of a SELECT. -/
structure Clauses where
  /-- The expressions of the select list. -/
  items : List String
  source : String
  joins : List String
  /-- The condition that holds of rows that are not deleted. -/
  softDelete : String
  conditions : List Condition
  groupBy : List String
  orderBy : List String
  limit : UInt32

namespace Clauses

/-- The items with the names `c0`, `c1` and so on. -/
def namedItems (items : List String) : List String :=
  items.zipIdx.map fun item => item.1 ++ " AS c" ++ toString item.2

def conditionTexts (c : Clauses) : List String := c.softDelete :: c.conditions.map (·.sql)

/-- A clause that is left out if it has no parts. -/
def optionalClause (words : String) (parts : List String) : List String :=
  if parts.isEmpty then [] else [words ++ String.intercalate ", " parts]

/-- The clauses as texts, in order. -/
def texts (c : Clauses) : List String :=
  ["SELECT " ++ String.intercalate ", " (namedItems c.items), "FROM " ++ c.source] ++ c.joins ++
    ["WHERE " ++ String.intercalate " AND " c.conditionTexts] ++
    optionalClause "GROUP BY " c.groupBy ++ optionalClause "ORDER BY " c.orderBy ++
    ["LIMIT " ++ toString c.limit]

def sql (c : Clauses) : String := String.intercalate " " c.texts

def params (c : Clauses) : List Param := c.conditions.flatMap (·.params)

end Clauses

/-! ### From a query -/

/-- The expression of a field. -/
def Dataset.expression (d : Dataset) (dialect : Dialect) (name : String) :
    Except Failure String :=
  match d.field? name with
  | some f => .ok (f.expressionIn dialect)
  | none => .error (.unsupportedField name)

/-- Question marks with commas between them. -/
def marks (n : Nat) : String := String.intercalate "," (List.replicate n "?")

/-- The text of a predicate of an expression. -/
def Predicate.sql (expression : String) : Predicate → String
  | compare op _ => expression ++ " " ++ op.sql ++ " ?"
  | oneOf values => expression ++ " IN (" ++ marks values.length ++ ")"
  | between _ _ => expression ++ " BETWEEN ? AND ?"

namespace Query

def Filter.condition (f : Filter) (d : Dataset) (dialect : Dialect) :
    Except Failure Condition := do
  match d.field? f.field with
  | none => throw (.unsupportedField f.field)
  | some field =>
    if f.predicate = .oneOf [] then throw (.invalidPlan (.emptySet field.name))
    let params ← (f.predicate.operands.mapM (Param.ofOperand field)).mapError .invalidPlan
    return ⟨f.predicate.sql (field.expressionIn dialect), params⟩

/-- The aggregated expression of a measure. -/
def Measure.item (m : Measure) (d : Dataset) (dialect : Dialect) : Except Failure String := do
  let expression ← d.expression dialect m.field
  if d.supports m.agg m.field then return m.agg.wrap expression
  else throw (.unsupportedAggregation (m.agg.code ++ " on " ++ m.field))

def Order.key (o : Order) (d : Dataset) (dialect : Dialect) : Except Failure String := do
  return (← d.expression dialect o.field) ++ " " ++ o.direction.sql

def clauses (q : Query) (d : Dataset) (dialect : Dialect) : Except Failure Clauses := do
  let groups ← q.dimensions.mapM fun dim => d.expression dialect dim.field
  let measures ← q.measures.mapM fun m => m.item d dialect
  if (groups ++ measures).isEmpty then throw (.invalidPlan .nothingToSelect)
  let conditions ← q.filters.mapM fun f => f.condition d dialect
  let keys ← q.orderBy.mapM fun o => o.key d dialect
  return {
    items := groups ++ measures
    source := d.source
    joins := if d.needsJoin q.usedFields then d.joins.map (·.sql) else []
    softDelete := d.softDelete
    conditions
    groupBy := groups
    orderBy := keys
    limit := q.limit }

/-- The display names of the select list. -/
def columns (q : Query) : List String :=
  q.dimensions.map (fun dim => Text.displayName (some dim.label) dim.field) ++
    q.measures.map fun m =>
      Text.displayName (some m.label) (m.agg.code ++ "_" ++ m.field)

/-- The bound query of a query of the registry's dataset. -/
def bind (q : Query) (registry : Registry) (dialect : Dialect) : Except Failure BoundQuery := do
  match registry.find? q.dataset with
  | none => throw (.unsupportedDataset q.dataset)
  | some d =>
    let c ← q.clauses d dialect
    return ⟨c.sql, c.params, q.columns⟩

end Query

end ScopedQuery
