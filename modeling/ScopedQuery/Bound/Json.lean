import ScopedQuery.Bound.Basic
import ScopedQuery.Json.Reader
import ScopedQuery.Json.Writer
/-!
# Bound queries as JSON

Parameters are written without their type: integers and decimals as numbers, instants and texts as
strings. When they are read back, a number is an integer if it fits one, and a string is an instant
if it reads as one.
-/

namespace ScopedQuery

open Json (Value Reader Fault requiredField)

namespace Param

def toJson : Param → Value
  | integer n => .int n.toInt
  | decimal x => .float x
  | timestamp t => .string t.iso
  | text s => .string s

/-- The parameter that a value stands for. -/
def ofJson? : Value → Option Param
  | .int n => some (if Decimal.fitsWord n then integer (.ofInt n) else decimal (Float.ofInt n))
  | .float x => some (decimal x)
  | .string s =>
    match Calendar.Instant.ofIso? s with
    | some t => some (timestamp t)
    | none => some (text s)
  | _ => none

def reader : Reader Param := fun levels => do
  match ofJson? (← Json.value levels) with
  | some p => return p
  | none => Json.fail (.stated "data did not match any variant of untagged enum SqlParam")

end Param

namespace BoundQuery

def toJson (b : BoundQuery) : Value :=
  .object [("sql", .string b.sql), ("params", .array (b.params.map Param.toJson)),
    ("columns", .array (b.columns.map .string))]

def json (b : BoundQuery) : String := b.toJson.compact

def reader : Reader BoundQuery :=
  Json.record "BuiltQuery"
    [requiredField "sql" Json.text fun x b => { b with sql := x },
     requiredField "params" (Json.list Param.reader) fun x b => { b with params := x },
     requiredField "columns" (Json.list Json.text) fun x b => { b with columns := x }] ⟨"", [], []⟩

/-- Reads the JSON text of a bound query. -/
def ofJson (text : String) : Except Fault BoundQuery := reader.run text

end BoundQuery

end ScopedQuery
