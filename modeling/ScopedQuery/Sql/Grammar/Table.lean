import ScopedQuery.Sql.Grammar.Query
/-!
# Definitions of tables

* `columnDefinition` and `tableConstraint?` read the parts of a table.
* `tableDefinition` and `externalTable` read `CREATE TABLE`, and `tableChange` a part of
  `ALTER TABLE`.

Nothing of a definition is kept: it is read only to tell a statement from a text that is none.
-/

namespace ScopedQuery.Sql

open Parsing

/-- Whether the object that is named next is to exist already. -/
def ifExists : Parsing Unit := discard (keywords? ["IF", "EXISTS"])

def ifNotExists : Parsing Unit := discard (keywords? ["IF", "NOT", "EXISTS"])

/-- Expressions in parentheses. -/
def exprList (g : Grammar) : Parsing Unit := discard (parenthesised (commaList g.expr))

/-- Names and values in parentheses, behind a keyword. -/
def optionsBehind (word : String) : Parsing Unit := do
  if ← keyword? word then
    discard <| parenthesised <| commaList do
      discard ident
      symbol "="
      literal

/-! ### Columns -/

/-- What is done with the rows that refer to a row, when it goes and when it changes. -/
def referenceActions : Parsing Unit := do
  if ← action? "DELETE" then discard (action? "UPDATE")
  else if ← action? "UPDATE" then discard (action? "DELETE")
where
  action? (event : String) : Parsing Bool := do
    if ← keywords? ["ON", event] then
      guard (← anyPhrase? [["RESTRICT"], ["CASCADE"], ["SET", "NULL"], ["NO", "ACTION"],
        ["SET", "DEFAULT"]]).isSome
      return true
    else return false

/-- How a sequence of numbers goes on. -/
def sequenceOptions : Parsing Unit := do
  if ← keyword? "INCREMENT" then
    discard (keyword? "BY")
    discard numberLiteral
  if ← keyword? "MINVALUE" then discard numberLiteral
  else discard (keywords? ["NO", "MINVALUE"])
  if ← keyword? "MAXVALUE" then discard numberLiteral
  else discard (keywords? ["NO", "MAXVALUE"])
  if ← keyword? "START" then
    discard (keyword? "WITH")
    discard numberLiteral
  discard (behind? "CACHE" numberLiteral)
  discard (keyword? "NO")
  discard (keyword? "CYCLE")

/-- The expression that a column is computed by. -/
def computation (g : Grammar) : Parsing Unit := do
  discard (parenthesised g.expr)
  discard (anyKeyword? ["STORED", "VIRTUAL"])

/-- How the values of a column are made, behind `GENERATED`. -/
def generation? (g : Grammar) : Parsing (Option Unit) := do
  match ← anyPhrase? [["ALWAYS", "AS", "IDENTITY"], ["BY", "DEFAULT", "AS", "IDENTITY"]] with
  | some _ =>
    if ← atSymbol "(" then parenthesised sequenceOptions
    return some ()
  | none =>
    if (← keywords? ["ALWAYS", "AS"]) && (← atSymbol "(") then return some (← computation g)
    else return none

/-- A rule of a column, if one comes next. `AUTOINCREMENT` is no rule but is taken, and of the rules
only the last three can stand behind it. -/
def columnOption? (g : Grammar) : Parsing (Option Unit) := do
  if ← keywords? ["CHARACTER", "SET"] then return some (← discard objectName)
  else if ← keywords? ["NOT", "NULL"] then return some ()
  else if ← keyword? "COMMENT" then return some (← discard singleQuoted)
  else if ← keyword? "NULL" then return some ()
  else if ← keyword? "DEFAULT" then return some (← discard g.expr)
  else if ← keywords? ["PRIMARY", "KEY"] then return some ()
  else if ← keyword? "UNIQUE" then return some ()
  else if ← keyword? "REFERENCES" then
    discard objectName
    discard columnNames?
    return some (← referenceActions)
  else if ← keyword? "CHECK" then return some (← discard (parenthesised g.expr))
  else if ← keyword? "AUTO_INCREMENT" then return some ()
  else
    discard (keyword? "AUTOINCREMENT")
    if ← keywords? ["ON", "UPDATE"] then return some (← discard g.expr)
    else if ← keyword? "GENERATED" then generation? g
    else if ← keyword? "AS" then return some (← computation g)
    else return none

/-- A rule of a column, with a name or without, or its collation, which can stand anywhere among the
rules. -/
def columnRule? (g : Grammar) : Parsing (Option Unit) := do
  if ← keyword? "CONSTRAINT" then
    discard ident
    guard (← columnOption? g).isSome
    return some ()
  else
    match ← columnOption? g with
    | some () => return some ()
    | none => behind? "COLLATE" (discard objectName)

def columnDefinition (g : Grammar) : Parsing Unit := do
  discard ident
  discard typeName
  discard (repeated (columnRule? g))

/-! ### Tables -/

/-- The kind of an index, behind `USING`. -/
def indexKind : Parsing Unit := discard (anyKeyword ["BTREE", "HASH"])

/-- A rule of a whole table, if one comes next. -/
def tableConstraint? (g : Grammar) : Parsing (Option Unit) := do
  let named ← keyword? "CONSTRAINT"
  if named then discard ident
  match ← anyKeyword? ["PRIMARY", "UNIQUE", "FOREIGN", "CHECK", "INDEX", "KEY", "FULLTEXT",
    "SPATIAL"] with
  | none => if named then failure else return none
  | some "FOREIGN" =>
    keyword "KEY"
    discard columnNames
    keyword "REFERENCES"
    discard objectName
    discard columnNames
    return some (← referenceActions)
  | some "CHECK" => return some (← discard (parenthesised g.expr))
  | some word =>
    if word = "PRIMARY" || word = "UNIQUE" then
      discard (keyword? "KEY")
      discard (maybe ident)
    else if word = "INDEX" || word = "KEY" then
      if !(← atKeyword ["USING"]) then discard (maybe ident)
      discard (behind? "USING" indexKind)
    else
      guard (!named)
      discard (anyKeyword? ["KEY", "INDEX"])
      discard (maybe ident)
    return some (← discard columnNames)

/-- A column or a rule of a table. -/
def tableElement (g : Grammar) : Parsing Unit := do
  match ← tableConstraint? g with
  | some () => pure ()
  | none =>
    match ← peek with
    | some (.word ..) => columnDefinition g
    | _ => failure

/-- The columns and rules of a table, if a parenthesis comes next. -/
def tableElements? (g : Grammar) : Parsing Unit := do
  if ← symbol? "(" then discard (listToEnd (tableElement g))

/-- The columns that a table is divided by. -/
def partitioning? (g : Grammar) : Parsing Unit := do
  if ← keywords? ["PARTITIONED", "BY"] then
    discard (parenthesised (commaList (columnDefinition g)))

/-- Where and how the rows of a table are stored. -/
def storage? (g : Grammar) : Parsing (Option Unit) := do
  match ← anyKeyword? ["ROW", "STORED", "LOCATION"] with
  | none => return none
  | some "ROW" =>
    keyword "FORMAT"
    if ← keyword? "SERDE" then discard plainText
    else discard (keyword? "DELIMITED")
  | some "STORED" =>
    keyword "AS"
    if ← keyword? "INPUTFORMAT" then
      discard g.expr
      keyword "OUTPUTFORMAT"
      discard g.expr
    else discard fileFormat
  | some _ => discard plainText
  return some ()

/-- A name, as far as it can be read; whatever stands in the place of a part of it is taken too. -/
def brokenName : Nat → Parsing Unit
  | 0 => pure ()
  | fuel + 1 => do
    match ← maybe ident with
    | some _ => if ← symbol? "." then brokenName fuel
    | none => modify (·.drop 1)

/-- A table that a table is modelled on. -/
def model : Parsing Unit := do brokenName ((← get).length + 1)

/-- A word behind an equals sign. -/
def namedValue : Parsing Unit := do
  symbol "="
  discard anyWord

/-- The number that an automatic count starts at, behind its keyword. A number that is no whole one of 32
bits must not stand there. -/
def countStart : Parsing Unit := do
  discard (symbol? "=")
  match ← next with
  | .number digits _ => if (unsigned? digits).any (· < UInt32.size) then pure () else crash
  | _ => failure

/-- The order of the rows of a table. -/
def rowOrder? : Parsing Unit := do
  if ← keywords? ["ORDER", "BY"] then
    if ← symbol? "(" then
      if !(← symbol? ")") then
        discard (commaList ident)
        symbol ")"
    else discard ident

/-- `CREATE TABLE` behind its keywords. -/
def tableDefinition (g : Grammar) : Parsing Unit := do
  ifNotExists
  discard objectName
  if ← keywords? ["ON", "CLUSTER"] then
    if (← maybe singleQuoted).isNone then discard anyWord
  if (← anyKeyword? ["LIKE", "ILIKE"]).isSome then model
  if ← keyword? "CLONE" then model
  tableElements? g
  discard (keywords? ["WITHOUT", "ROWID"])
  partitioning? g
  discard (repeated (storage? g))
  optionsBehind "WITH"
  optionsBehind "TBLPROPERTIES"
  discard (behind? "ENGINE" namedValue)
  discard (behind? "AUTO_INCREMENT" countStart)
  rowOrder?
  discard (behind? "AS" g.query)
  if ← keywords? ["DEFAULT", "CHARSET"] then namedValue
  discard (behind? "COLLATE" namedValue)
  discard (anyPhrase? [["ON", "COMMIT", "DELETE", "ROWS"], ["ON", "COMMIT", "PRESERVE", "ROWS"],
    ["ON", "COMMIT", "DROP"]])
  discard (keyword? "STRICT")
  if ← keyword? "COMMENT" then
    discard (symbol? "=")
    discard singleQuoted

/-- `CREATE EXTERNAL TABLE` behind its first two keywords. -/
def externalTable (g : Grammar) : Parsing Unit := do
  keyword "TABLE"
  ifNotExists
  discard objectName
  tableElements? g
  partitioning? g
  discard (repeated (storage? g))
  optionsBehind "TBLPROPERTIES"

/-! ### Changes -/

/-- A part that is added to a table, behind `ADD`. -/
def tableAddition (g : Grammar) : Parsing Unit := do
  match ← tableConstraint? g with
  | some () => pure ()
  | none =>
    ifNotExists
    if ← keyword? "PARTITION" then
      exprList g
      discard (repeated (behind? "PARTITION" (exprList g)))
    else
      discard (keyword? "COLUMN")
      columnDefinition g

/-- A part that is taken from a table, behind `DROP`. -/
def tableRemoval (g : Grammar) : Parsing Unit := do
  if (← anyPhrase? [["IF", "EXISTS", "PARTITION"], ["PARTITION"]]).isSome then exprList g
  else if ← keywords? ["PRIMARY", "KEY"] then pure ()
  else
    discard (anyKeyword? ["CONSTRAINT", "COLUMN"])
    ifExists
    discard ident
    discard (keyword? "CASCADE")

/-- A change of a column, behind `ALTER`. -/
def columnChange (g : Grammar) : Parsing Unit := do
  discard (keyword? "COLUMN")
  discard ident
  match ← anyPhrase? [["SET", "NOT", "NULL"], ["DROP", "NOT", "NULL"], ["DROP", "DEFAULT"]] with
  | some _ => pure ()
  | none =>
    if ← keywords? ["SET", "DATA", "TYPE"] then discard typeName
    else
      keywords ["SET", "DEFAULT"]
      discard g.expr

/-- A change of a table. -/
def tableChange (g : Grammar) : Parsing Unit := do
  match ← anyKeyword ["ADD", "RENAME", "DROP", "PARTITION", "CHANGE", "ALTER", "SWAP"] with
  | "ADD" => tableAddition g
  | "RENAME" =>
    if ← keyword? "TO" then discard objectName
    else
      discard (keyword? "COLUMN")
      discard ident
      keyword "TO"
      discard ident
  | "DROP" => tableRemoval g
  | "PARTITION" =>
    exprList g
    keywords ["RENAME", "TO", "PARTITION"]
    exprList g
  | "CHANGE" =>
    discard (keyword? "COLUMN")
    discard ident
    discard ident
    discard typeName
    discard (repeated (columnOption? g))
  | "ALTER" => columnChange g
  | _ =>
    keyword "WITH"
    discard objectName

end ScopedQuery.Sql
