import ScopedQuery.Json.Reader
import ScopedQuery.ResultSet.Basic
/-!
# Result sets as JSON
-/

namespace ScopedQuery.ResultSet

open Json (Value Reader Fault requiredField optionalField)

def toJson (r : ResultSet) : Value :=
  .object [("columns", .array (r.columns.map .string)), ("rows", .array (r.rows.map .array)),
    ("rowCount", .int r.rowCount), ("truncated", .bool r.truncated),
    ("executionTimeMs", .int r.elapsed), ("engineName", .string r.engine)]

def json (r : ResultSet) : String := r.toJson.compact

def reader : Reader ResultSet :=
  Json.record "QueryResult"
    [requiredField "columns" (Json.list Json.text) fun x r => { r with columns := x },
     requiredField "rows" (Json.list (Json.list Json.value)) fun x r => { r with rows := x },
     requiredField "rowCount" (Json.natural UInt64.size "usize") fun x r =>
       { r with rowCount := x },
     optionalField "truncated" Json.boolean fun x r => { r with truncated := x },
     requiredField "executionTimeMs" (Json.natural UInt64.size "u64") fun x r =>
       { r with elapsed := x },
     requiredField "engineName" Json.text fun x r => { r with engine := x }]
    ⟨[], [], 0, false, 0, ""⟩

/-- Reads the JSON text of a result set. -/
def ofJson (text : String) : Except Fault ResultSet := reader.run text

end ScopedQuery.ResultSet
