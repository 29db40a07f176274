import ScopedQuery.Sql.Grammar.Source
/-!
# Statements that change rows

The readers of `INSERT`, `UPDATE` and `DELETE`. Of the first two, which can stand in the place of
a query, the canonical text is kept; a `DELETE` is read only to tell it from a text that is none.
-/

namespace ScopedQuery.Sql

open Parsing

/-! ### Assignments and conditions -/

/-- The names in front of the next equals sign, whatever stands between them, and what remains from
that sign on. -/
def assignmentTarget : List Token → List Ident × List Token
  | [] => ([], [])
  | .symbol "=" :: rest => ([], .symbol "=" :: rest)
  | .word text quote _ :: rest =>
    let (names, rest) := assignmentTarget rest
    (⟨text, quote⟩ :: names, rest)
  | _ :: rest => assignmentTarget rest

/-- An assignment to a column, of which also a keyword can be the name. -/
def assignment (g : Grammar) : Parsing String := do
  let (names, rest) := assignmentTarget (← get)
  set rest
  symbol "="
  return ObjectName.written names ++ " = " ++ (← g.expr).written

/-- A condition on rows, if there is one. -/
def condition? (g : Grammar) : Parsing String := do
  return Expr.writtenAfter " WHERE " (← behind? "WHERE" g.expr)

/-- The columns that a statement gives back. -/
def returning? (g : Grammar) : Parsing String := do
  return clause "RETURNING" (Item.selectedAll (← listBehind ["RETURNING"] (selectItem g)))

/-! ### `INSERT` -/

/-- The rows that an insertion is in conflict with, behind `ON CONFLICT`. -/
def conflictTarget : Parsing String := do
  if ← keywords? ["ON", "CONSTRAINT"] then
    return " ON CONSTRAINT " ++ ObjectName.written (← objectName)
  else
    let columns ← columnNames?
    return if columns.isEmpty then "" else "(" ++ Ident.list columns ++ ")"

/-- What is done with a row that is there already, behind `ON`. -/
def conflictAction (g : Grammar) : Parsing String := do
  if ← keyword? "CONFLICT" then
    let target ← conflictTarget
    keyword "DO"
    if ← keyword? "NOTHING" then return " ON CONFLICT" ++ target ++ " DO NOTHING"
    else
      keywords ["UPDATE", "SET"]
      let assignments ← commaList (assignment g)
      return " ON CONFLICT" ++ target ++ " DO UPDATE SET " ++ commas assignments ++
        (← condition? g)
  else
    keywords ["DUPLICATE", "KEY", "UPDATE"]
    return " ON DUPLICATE KEY UPDATE " ++ commas (← commaList (assignment g))

/-- Names in parentheses with a space behind them, or nothing in the place of no names. -/
def spacedList (word : String) (names : List String) : String :=
  if names.isEmpty then "" else word ++ "(" ++ commas names ++ ") "

/-- The rows of an insertion, with the columns that they are for. -/
def insertedRows (g : Grammar) : Parsing String := do
  if ← keywords? ["DEFAULT", "VALUES"] then return "DEFAULT VALUES"
  else
    let columns ← anyColumnNames?
    let partitions ←
      if ← keyword? "PARTITION" then parenthesised (commaList g.expr) else pure []
    let others ← columnNames?
    let query ← g.query
    return spacedList "" (columns.map Ident.written) ++
      spacedList "PARTITION " (writtenAll partitions) ++
      spacedList "" (others.map Ident.written) ++ query.written

/-- `INSERT` behind its keyword. -/
def insertion (g : Grammar) : Parsing String := do
  let ignore ← keyword? "IGNORE"
  let action ← anyKeyword? ["INTO", "OVERWRITE"]
  let overwrite := if action = some "OVERWRITE" then " OVERWRITE" else ""
  let inLocal ← keyword? "LOCAL"
  if ← keyword? "DIRECTORY" then
    let path ← plainText
    let format ← if ← keywords? ["STORED", "AS"] then pure (some (← fileFormat)) else pure none
    let query ← g.query
    return "INSERT" ++ overwrite ++ (if inLocal then " LOCAL" else "") ++ " DIRECTORY '" ++ path ++
      "'" ++ (format.map (" STORED AS " ++ ·)).getD "" ++ " " ++ query.written
  else
    let table ← keyword? "TABLE"
    let name ← objectName
    let rows ← insertedRows g
    let onConflict ← if ← keyword? "ON" then conflictAction g else pure ""
    return "INSERT" ++ (if ignore then " IGNORE" else "") ++ overwrite ++
      (if action = some "INTO" then " INTO" else "") ++ (if table then " TABLE" else "") ++ " " ++
      ObjectName.written name ++ " " ++ rows ++ onConflict ++ (← returning? g)

/-! ### `UPDATE` and `DELETE` -/

/-- `UPDATE` behind its keyword. -/
def modification (g : Grammar) : Parsing String := do
  let item ← fromItem g
  keyword "SET"
  let assignments ← commaList (assignment g)
  let _ ← keyword? "FROM"
  return "UPDATE " ++ item.written ++ " SET " ++ commas assignments ++ (← condition? g) ++
    (← returning? g)

/-- `DELETE` behind its keyword. -/
def deletion (g : Grammar) : Parsing Unit := do
  if !(← keyword? "FROM") then
    discard (commaList objectName)
    keyword "FROM"
  discard (commaList (fromItem g))
  discard (listBehind ["USING"] (fromItem g))
  discard (condition? g)
  discard (returning? g)
  discard (listBehind ["ORDER", "BY"] (orderKey g))
  discard (behind? "LIMIT" (limitBound g))

end ScopedQuery.Sql
