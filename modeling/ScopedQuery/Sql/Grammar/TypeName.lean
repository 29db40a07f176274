import ScopedQuery.Sql.Grammar.Leaf
/-!
# Type names

`typeName` reads the name of a data type. A word that starts no standard type is the name of a
custom one.
-/

namespace ScopedQuery.Sql

open Parsing

/-- The types of a single word. -/
def plainTypes : List String :=
  ["BOOLEAN", "BOOL", "REAL", "FLOAT4", "FLOAT64", "FLOAT8", "UUID", "DATE", "JSON", "REGCLASS",
   "TEXT", "BYTEA", "INT64"]

/-- The types that can have a size. -/
def sizedTypes : List String :=
  ["FLOAT", "NVARCHAR", "CLOB", "BINARY", "VARBINARY", "BLOB", "BYTES", "DATETIME", "STRING"]

def integerTypes : List String :=
  ["TINYINT", "INT2", "SMALLINT", "MEDIUMINT", "INT", "INT4", "INT8", "INTEGER", "BIGINT"]

def exactTypes : List String := ["NUMERIC", "DECIMAL", "DEC", "BIGNUMERIC", "BIGDECIMAL"]

/-- A number in parentheses, as text. -/
def inParens (size : Option Nat) : String :=
  match size with
  | none => ""
  | some n => "(" ++ toString n ++ ")"

def sized (word : String) : Parsing String := do return word ++ inParens (← precision?)

def integerType (word : String) : Parsing String := do
  let size ← precision?
  return word ++ inParens size ++ if ← keyword? "UNSIGNED" then " UNSIGNED" else ""

/-- A type with its greatest length in characters, if a parenthesis comes next. -/
def lengthy (word : String) : Parsing String := do
  if ← symbol? "(" then
    let length ← if ← keyword? "MAX" then pure "MAX" else do
      let length := toString (← unsigned)
      if ← keyword? "CHARACTERS" then pure (length ++ " CHARACTERS")
      else if ← keyword? "OCTETS" then pure (length ++ " OCTETS")
      else pure length
    symbol ")"
    return word ++ "(" ++ length ++ ")"
  else return word

def characterType (word : String) : Parsing String := do
  if ← keyword? "VARYING" then lengthy (word ++ " VARYING")
  else if ← keywords? ["LARGE", "OBJECT"] then sized (word ++ " LARGE OBJECT")
  else lengthy word

def exactType (word : String) : Parsing String := do
  let sizes ← precisions?
  return word ++
    if sizes.isEmpty then "" else "(" ++ String.intercalate "," (sizes.map toString) ++ ")"

def zonedType (word : String) : Parsing String := do
  let start ← sized word
  if ← keyword? "WITH" then
    keywords ["TIME", "ZONE"]
    return start ++ " WITH TIME ZONE"
  else if ← keyword? "WITHOUT" then
    keywords ["TIME", "ZONE"]
    return start ++ " WITHOUT TIME ZONE"
  else return start

/-- A type with its values in parentheses. -/
def listedType (word : String) : Parsing String := do
  let values ← parenthesised (commaList singleQuoted)
  return word ++ "(" ++ commas (values.map (inQuotes '\'')) ++ ")"

/-- What stands in the parentheses of a custom type. -/
def typeModifier? : Parsing (Option (Option String)) := do
  match ← next with
  | .word text none _ => return some (some text)
  | .word text (some mark) _ => return some (some (String.ofList (mark :: text.toList ++ [mark])))
  | .number digits _ => return some (some digits)
  | .quotation .single text => return some (some text)
  | .symbol "," => return some none
  | .symbol ")" => return none
  | _ => failure

def customType : Parsing String := do
  let name ← objectName
  if ← symbol? "(" then
    let modifiers := (← repeated typeModifier?).filterMap id
    return if modifiers.isEmpty then ObjectName.written name
      else ObjectName.written name ++ "(" ++ commas modifiers ++ ")"
  else return ObjectName.written name

/-- A type name of at most `fuel` nested types, and whether a `>>` was read of which the second
half is still to be used. -/
def nestedTypeName : Nat → Parsing (DataType × Bool)
  | 0 => failure
  | fuel + 1 => do
    let standard (read : Parsing String) : Parsing (DataType × Bool) := do
      return (.standard (← read), false)
    let start ← get
    let (type, pending) ← match ← next with
      | .word _ _ (some word) =>
        if plainTypes.contains word then pure (DataType.standard word, false)
        else if sizedTypes.contains word then standard (sized word)
        else if integerTypes.contains word then standard (integerType word)
        else if exactTypes.contains word then standard (exactType word)
        else if word = "DOUBLE" then
          standard do return if ← keyword? "PRECISION" then "DOUBLE PRECISION" else "DOUBLE"
        else if word = "VARCHAR" then standard (lengthy word)
        else if word = "CHARACTER" || word = "CHAR" then standard (characterType word)
        else if word = "TIMESTAMP" || word = "TIME" then standard (zonedType word)
        else if word = "TIMESTAMPTZ" || word = "TIMETZ" then standard (sized word)
        else if word = "ENUM" || word = "SET" then standard (listedType word)
        else if word = "INTERVAL" then pure (DataType.interval, false)
        else if word = "ARRAY" then
          symbol "<"
          let (inner, pending) ← nestedTypeName fuel
          let type := DataType.standard ("ARRAY<" ++ inner.written ++ ">")
          if pending then pure (type, false)
          else if ← symbol? ">" then pure (type, false)
          else
            symbol ">>"
            pure (type, true)
        else
          set start
          pure (DataType.custom (← customType), false)
      | .word .. =>
        set start
        pure (DataType.custom (← customType), false)
      | _ => failure
    let brackets ← repeated (do
      if ← symbol? "[" then
        symbol "]"
        return some ()
      else return none)
    if brackets.isEmpty then return (type, pending)
    else
      return (.standard (type.written ++ String.join (brackets.map fun _ => "[]")), pending)

def typeName : Parsing DataType := do
  let (type, pending) ← nestedTypeName ((← get).length + 1)
  guard (!pending)
  return type

end ScopedQuery.Sql
