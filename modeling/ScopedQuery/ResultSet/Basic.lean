import ScopedQuery.Json.Writer
/-!
# Result sets

A `ResultSet` holds the rows that a query gave, or the first of them: `truncate` drops rows and
keeps the account of how many there were. `ResultSet.answer` sums a result up in one line.
-/

namespace ScopedQuery

open Json (Value)

structure ResultSet where
  columns : List String
  rows : List (List Value)
  /-- The number of rows that the query gave. -/
  rowCount : Nat
  /-- Whether rows were dropped. -/
  truncated : Bool
  /-- The milliseconds that the query took. -/
  elapsed : Nat
  /-- The name of the engine that ran the query. -/
  engine : String

/-- The text of a value; a string stands for itself. -/
def displayText : Value → String
  | .string s => s
  | v => v.compact

/-- The text of a value in a cell, which null leaves empty. -/
def cellText : Value → String
  | .null => ""
  | v => displayText v

namespace ResultSet

/-- All rows of a query. -/
def ofRows (engine : String) (columns : List String) (rows : List (List Value))
    (elapsed : Nat) : ResultSet :=
  { columns, rows, rowCount := rows.length, truncated := false, elapsed, engine }

def isEmpty (r : ResultSet) : Bool := r.rows.isEmpty

/-- Keeps at most `count` rows. -/
def truncate (r : ResultSet) (count : Nat) : ResultSet :=
  if count < r.rows.length then { r with rows := r.rows.take count, truncated := true } else r

/-- The name of the column at a place; one that has no name is called by its place. -/
def columnName (r : ResultSet) (index : Nat) : String :=
  (r.columns[index]?).getD ("col" ++ toString index)

/-- What a single row says. -/
def rowText (r : ResultSet) (row : List Value) : String :=
  String.intercalate ", " <|
    row.zipIdx.map fun cell => r.columnName cell.2 ++ "=" ++ displayText cell.1

/-- One line about the rows. -/
def answer (r : ResultSet) : String :=
  match r.rows with
  | [] => "No matching data."
  | [[]] => "No matching data."
  | [row] => "Result: " ++ r.rowText row
  | rows => "Returned " ++ toString rows.length ++ " rows."

end ResultSet

end ScopedQuery
