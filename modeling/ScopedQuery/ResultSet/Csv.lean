import ScopedQuery.Failure
import ScopedQuery.ResultSet.Basic
/-!
# Result sets as comma-separated values

* `Csv.field` writes a field, between quotation marks if it holds a separator.
* `Csv.record` writes a line of fields, of which one empty field is marked, lest the line be empty.
* `ResultSet.csv?` writes the names of the columns and all rows, provided that each row has as many
  fields as there are names.
-/

namespace ScopedQuery

namespace Csv

/-- Whether a character has a meaning between fields. -/
def isSpecial (c : Char) : Bool := c == ',' || c == '"' || c == '\n' || c == '\r'

/-- A text with each of its quotation marks doubled. -/
def doubled : List Char → List Char
  | [] => []
  | c :: cs => if c = '"' then '"' :: '"' :: doubled cs else c :: doubled cs

def field (text : String) : List Char :=
  if text.toList.any isSpecial then '"' :: doubled text.toList ++ ['"'] else text.toList

/-- The line of a record with its end. -/
def record (fields : List String) : String :=
  let line := Json.joined [','] (fields.map field)
  String.ofList ((if line.isEmpty then ['"', '"'] else line) ++ ['\n'])

end Csv

namespace ResultSet

/-- A row as a record of that many fields. -/
def csvRow (r : ResultSet) (row : List Json.Value) : Except OutputFault String :=
  if row.length = r.columns.length then .ok (Csv.record (row.map cellText))
  else .error (.unequalLengths row.length r.columns.length)

def csv? (r : ResultSet) : Except OutputFault String := do
  let rows ← r.rows.mapM r.csvRow
  return String.join (Csv.record r.columns :: rows)

end ResultSet

end ScopedQuery
