import ScopedQuery.Bound.Basic
import ScopedQuery.ResultSet.Basic
import ScopedQuery.Sql.Grammar.Statement
import ScopedQuery.Store.Resolution
/-!
# Running bound queries

`Store.execute` runs a bound query against a store at a moment. Its parameters are only ever bound
to placeholders. The result has the display names of the query, unless their number is not that of
the columns.
-/

namespace ScopedQuery

namespace Store

/-- The name of the engine that a store is. -/
def engineName : String := "sqlite"

/-- The selection of the first statement of a text, if there is one, with the number of its
placeholders. -/
def prepare (s : Store) (sql : String) : Except StoreFault (Option Selection × Nat) :=
  match Sql.statements? sql with
  | some [] => .ok (none, 0)
  | some (.query only :: _) => do
    let (selection, needed) ← Selection.ofQuery s only
    return (some selection, needed)
  | _ => .error .unsupported

/-- The cells of parameters, of which there have to be as many as placeholders. Of those that are
too many only the first is counted. -/
def bindParams (params : List Param) (needed : Nat) : Except StoreFault (List Cell) :=
  if params.length = needed then .ok (params.map Cell.ofParam)
  else .error (.parameterCount (min params.length (needed + 1)) needed)

/-- The names of the columns of a result. -/
def columnNames (selection : Selection) (names : List String) : List String :=
  if names.length = selection.items.length then names else selection.items.map (·.name)

/-- The records that answer a bound query, under the names of its columns. -/
def answer (s : Store) (now : Calendar.Moment) (b : BoundQuery) :
    Except StoreFault (List String × List Row) := do
  let (selection, needed) ← s.prepare b.sql
  let params ← bindParams b.params needed
  match selection with
  | none => throw .noStatement
  | some selection =>
    let rows ← selection.run ⟨params, now⟩
    return (columnNames selection b.columns, rows)

/-- The result of a bound query. -/
def execute (s : Store) (now : Calendar.Moment) (b : BoundQuery) :
    Except StoreFault ResultSet := do
  let (columns, rows) ← s.answer now b
  return .ofRows engineName columns (rows.map fun row => row.map Cell.toJson) 0

end Store

end ScopedQuery
