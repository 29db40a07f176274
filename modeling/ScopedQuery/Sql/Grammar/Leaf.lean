import ScopedQuery.Decimal.Numeral
import ScopedQuery.Sql.Canonical
import ScopedQuery.Sql.Parsing
/-!
# Names, aliases and literals

The readers of what holds no expression: names, lists of column names, aliases, literals, and the
units of time.
-/

namespace ScopedQuery.Sql

open Parsing

/-! ### Names -/

def ident : Parsing Ident := do
  match ← next with
  | .word text quote _ => return ⟨text, quote⟩
  | .quotation .single text => return ⟨text, some '\''⟩
  | .quotation .double text => return ⟨text, some '"'⟩
  | _ => failure

/-- A part of a qualified column name. -/
def namePart : Parsing Ident := do
  match ← next with
  | .word text quote _ => return ⟨text, quote⟩
  | .quotation .single text => return ⟨text, some '\''⟩
  | _ => failure

def objectName : Parsing ObjectName := separated "." ident

/-- Column names in parentheses. -/
def columnNames : Parsing (List Ident) := parenthesised (commaList ident)

/-- Column names in parentheses, if a parenthesis comes next. -/
def columnNames? : Parsing (List Ident) := do
  if ← atSymbol "(" then columnNames else return []

/-- Column names in parentheses, of which there can be none, if a parenthesis comes next. -/
def anyColumnNames? : Parsing (List Ident) := do
  if (← atSymbol "(") && (← peekSecond) == some (.symbol ")") then
    parenthesised (pure [])
  else columnNames?

/-! ### Aliases -/

/-- The words that cannot stand as an alias of a column without `AS`. -/
def reservedForColumns : List String :=
  ["WITH", "EXPLAIN", "ANALYZE", "SELECT", "WHERE", "GROUP", "SORT", "HAVING", "ORDER", "TOP",
   "LATERAL", "VIEW", "LIMIT", "OFFSET", "FETCH", "UNION", "EXCEPT", "INTERSECT", "CLUSTER",
   "DISTRIBUTE", "FROM", "INTO", "END"]

/-- The words that cannot stand as an alias of a table without `AS`. -/
def reservedForTables : List String :=
  ["WITH", "EXPLAIN", "ANALYZE", "SELECT", "WHERE", "GROUP", "SORT", "HAVING", "ORDER", "PIVOT",
   "UNPIVOT", "TOP", "LATERAL", "VIEW", "LIMIT", "OFFSET", "FETCH", "UNION", "EXCEPT", "INTERSECT",
   "ON", "JOIN", "INNER", "CROSS", "FULL", "LEFT", "RIGHT", "NATURAL", "USING", "CLUSTER",
   "DISTRIBUTE", "OUTER", "SET", "QUALIFY", "WINDOW", "END", "FOR", "PARTITION"]

/-- An alias, if one comes next: any name behind `AS`, else one that is not reserved. -/
def asName? (reserved : List String) : Parsing (Option Ident) := do
  if ← keyword? "AS" then return some (← ident)
  match ← peek with
  | some (.word _ _ keyword) =>
    if keyword.any reserved.contains then return none else return some (← ident)
  | some (.quotation .single _) => return some (← ident)
  | some (.quotation .double _) => return some (← ident)
  | _ => return none

def tableAlias? : Parsing (Option TableAlias) := do
  match ← asName? reservedForTables with
  | some name => return some ⟨name, ← columnNames?⟩
  | none => return none

/-! ### Literals -/

/-- A text that is no expression: a quotation, or a word that is no keyword. -/
def plainText : Parsing String := do
  match ← next with
  | .word text _ none => return text
  | .quotation .single text => return text
  | .quotation .double text => return text
  | _ => failure

/-- A text of one character of ASCII. -/
def plainChar : Parsing String := do
  let text ← plainText
  guard (text.utf8ByteSize = 1)
  return text

def singleQuoted : Parsing String := do
  match ← next with
  | .quotation .single text => return text
  | _ => failure

/-- A word, whether it is a keyword or not. -/
def anyWord : Parsing Ident := do
  match ← next with
  | .word text quote _ => return ⟨text, quote⟩
  | _ => failure

def literal : Parsing Literal := do
  match ← next with
  | .word _ _ (some "TRUE") => return .boolean true
  | .word _ _ (some "FALSE") => return .boolean false
  | .word _ _ (some "NULL") => return .null
  | .number digits long => return .number digits long
  | .quotation form text => return .text form text
  | .placeholder name => return .placeholder name
  | .symbol ":" => placeholder ":"
  | .symbol "@" => placeholder "@"
  | _ => failure
where
  /-- A placeholder that is named by a word or a number behind a mark. -/
  placeholder (mark : String) : Parsing Literal := do
    match ← next with
    | .word text _ _ => return .placeholder (mark ++ text)
    | .number digits false => return .placeholder (mark ++ digits)
    | _ => failure

/-- A number, or a placeholder of one. -/
def numberLiteral : Parsing Literal := do
  match ← literal with
  | .number digits long => return .number digits long
  | .placeholder name => return .placeholder name
  | _ => failure

/-- The number that digits stand for, if it fits in 64 bits. -/
def unsigned? (digits : String) : Option Nat :=
  (Decimal.digits? digits.toList).filter (· < UInt64.size)

def unsigned : Parsing Nat := do
  match ← next with
  | .number digits _ =>
    match unsigned? digits with
    | some n => return n
    | none => failure
  | _ => failure

/-- A number in parentheses, if a parenthesis comes next. -/
def precision? : Parsing (Option Nat) := do
  if ← atSymbol "(" then return some (← parenthesised unsigned) else return none

/-- One or two numbers in parentheses, if a parenthesis comes next. -/
def precisions? : Parsing (List Nat) := do
  if ← symbol? "(" then
    let first ← unsigned
    let numbers ← if ← symbol? "," then pure [first, ← unsigned] else pure [first]
    symbol ")"
    return numbers
  else return []

/-- A format of files. -/
def fileFormat : Parsing String :=
  anyKeyword ["AVRO", "JSONFILE", "ORC", "PARQUET", "RCFILE", "SEQUENCEFILE", "TEXTFILE"]

/-! ### Units of time -/

/-- The units that an interval is counted in. -/
def intervalUnits : List String :=
  ["YEAR", "MONTH", "WEEK", "DAY", "HOUR", "MINUTE", "SECOND", "CENTURY", "DECADE", "DOW", "DOY",
   "EPOCH", "ISODOW", "ISOYEAR", "JULIAN", "MICROSECOND", "MICROSECONDS", "MILLENIUM",
   "MILLENNIUM", "MILLISECOND", "MILLISECONDS", "NANOSECOND", "NANOSECONDS", "QUARTER", "TIMEZONE",
   "TIMEZONE_HOUR", "TIMEZONE_MINUTE"]

/-- The part of a date or a time that is taken from it. -/
def timeField : Parsing String :=
  anyKeyword (["DATE", "DAYOFWEEK", "DAYOFYEAR", "ISOWEEK", "TIME"] ++ intervalUnits)

end ScopedQuery.Sql
