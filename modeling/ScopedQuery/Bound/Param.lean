import ScopedQuery.Calendar.Reading
import ScopedQuery.Calendar.Written
import ScopedQuery.Decimal.Numeral
import ScopedQuery.Plan.Fault
import ScopedQuery.Schema.Field
/-!
# Parameters

A `Param` is a value that is bound to a query. `Param.ofOperand` reads the operand of a filter as a
value of the type of its field.
-/

namespace ScopedQuery

inductive Param
  | integer (value : Int64)
  | decimal (value : Float)
  | timestamp (value : Calendar.Instant)
  | text (value : String)

namespace Param

def type : Param → ValueType
  | integer _ => .integer
  | decimal _ => .decimal
  | timestamp _ => .timestamp
  | text _ => .text

/-- Reads a finite number. -/
def finite? (raw : String) : Option Float :=
  match Decimal.float? raw with
  | some x => if x.isFinite then some x else none
  | none => none

/-- The operand, trimmed, as a value of the field's type. -/
def ofOperand (f : Field) (raw : String) : Except PlanFault Param :=
  let text := Text.trim raw
  match f.type with
  | .integer =>
    match Decimal.integer? text with
    | some n => .ok (integer n)
    | none => .error (.notNumber f.name)
  | .decimal =>
    match finite? text with
    | some x => .ok (decimal x)
    | none => .error (.notNumber f.name)
  | .timestamp =>
    match Calendar.Instant.ofText? text with
    | some t => .ok (timestamp t)
    | none => .error (.notInstant text)
  | .text => .ok (Param.text text)

end Param

end ScopedQuery
