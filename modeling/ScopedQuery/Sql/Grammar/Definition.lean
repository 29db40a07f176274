import ScopedQuery.Sql.Grammar.Table
/-!
# Definitions of objects

`creation`, `removal` and `alteration` read `CREATE`, `DROP` and `ALTER`. Nothing of a definition is
kept: it is read only to tell a statement from a text that is none.
-/

namespace ScopedQuery.Sql

open Parsing

/-! ### Lists of statements -/

/-- At most `fuel` statements. Behind one comes a semicolon, the end, or `END`, which stays in
place. -/
def statementsUpTo (statement : Parsing Statement) : Nat → Parsing (List Statement)
  | 0 => failure
  | fuel + 1 => do
    modify (·.dropWhile (· == .symbol ";"))
    if (← get).isEmpty then return []
    let first ← statement
    if (← get).isEmpty || (← atKeyword ["END"]) then return [first]
    guard (← atSymbol ";")
    return first :: (← statementsUpTo statement fuel)

/-- All statements up to the end, or up to `END` behind one of them. -/
def statementList (statement : Parsing Statement) : Parsing (List Statement) := do
  statementsUpTo statement ((← get).length + 1)

/-! ### `CREATE` -/

/-- `CREATE VIEW` behind its keywords. -/
def viewDefinition (g : Grammar) (canBeClustered : Bool) : Parsing Unit := do
  discard objectName
  discard columnNames?
  optionsBehind "WITH"
  if canBeClustered then
    if ← keyword? "CLUSTER" then
      keyword "BY"
      discard columnNames?
  keyword "AS"
  discard g.query

/-- `CREATE INDEX` behind its keywords. The name can be left out, but not behind
`IF NOT EXISTS`. -/
def indexDefinition (g : Grammar) : Parsing Unit := do
  discard (keyword? "CONCURRENTLY")
  let checked ← keywords? ["IF", "NOT", "EXISTS"]
  if checked || !(← atKeyword ["ON"]) then discard objectName
  keyword "ON"
  discard objectName
  discard (behind? "USING" ident)
  discard (parenthesised (commaList (orderKey g)))
  discard (behind? "INCLUDE" columnNames)
  if ← keyword? "NULLS" then
    discard (keyword? "NOT")
    keyword "DISTINCT"
  discard (condition? g)

/-- `CREATE VIRTUAL TABLE` behind its first two keywords. -/
def virtualTable : Parsing Unit := do
  keyword "TABLE"
  ifNotExists
  discard objectName
  keyword "USING"
  discard ident
  discard columnNames?

/-- The name of a schema, the name of its owner, or both. -/
def schemaDefinition : Parsing Unit := do
  ifNotExists
  if ← keyword? "AUTHORIZATION" then discard ident
  else
    discard objectName
    discard (behind? "AUTHORIZATION" ident)

def databaseDefinition : Parsing Unit := do
  ifNotExists
  discard objectName
  discard <| repeated do
    match ← anyKeyword? ["LOCATION", "MANAGEDLOCATION"] with
    | some _ => return some (← plainText)
    | none => return none

def sequenceDefinition : Parsing Unit := do
  ifNotExists
  discard objectName
  discard (behind? "AS" typeName)
  sequenceOptions
  if ← keywords? ["OWNED", "BY"] then
    if !(← keyword? "NONE") then discard objectName

/-- A part of a composite type. -/
def typeAttribute : Parsing Unit := do
  discard ident
  discard typeName
  discard (behind? "COLLATE" objectName)

def typeDefinition : Parsing Unit := do
  discard objectName
  keyword "AS"
  if ← symbol? "(" then discard (listToEnd typeAttribute)

/-- A parameter of a procedure; it can be left out. -/
def parameter? : Parsing Unit := do
  match ← peek with
  | some (.word ..) =>
    discard ident
    discard typeName
  | _ => pure ()

def procedureDefinition (g : Grammar) : Parsing Unit := do
  discard objectName
  if ← symbol? "(" then discard (listToEnd parameter?)
  keywords ["AS", "BEGIN"]
  discard (statementList g.statement)
  keyword "END"

def roleDefinition : Parsing Unit := do
  ifNotExists
  discard (commaList objectName)
  discard (keyword? "WITH")

/-- The definition of an object that cannot be replaced. -/
def freshDefinition (g : Grammar) : Parsing Unit := do
  match ← anyPhrase? [["INDEX"], ["UNIQUE", "INDEX"]] with
  | some _ => indexDefinition g
  | none =>
    match ← anyKeyword ["VIRTUAL", "SCHEMA", "DATABASE", "ROLE", "SEQUENCE", "TYPE",
      "PROCEDURE"] with
    | "VIRTUAL" => virtualTable
    | "SCHEMA" => schemaDefinition
    | "DATABASE" => databaseDefinition
    | "ROLE" => roleDefinition
    | "SEQUENCE" => sequenceDefinition
    | "TYPE" => typeDefinition
    | _ => procedureDefinition g

def creation (g : Grammar) : Parsing Unit := do
  let replacing ← keywords? ["OR", "REPLACE"]
  discard (keywords? ["OR", "ALTER"])
  discard (keyword? "LOCAL")
  discard (keyword? "GLOBAL")
  discard (keyword? "TRANSIENT")
  discard (anyKeyword? ["TEMP", "TEMPORARY"])
  match ← anyPhrase? [["TABLE"], ["MATERIALIZED", "VIEW"], ["VIEW"], ["EXTERNAL"]] with
  | some "TABLE" => tableDefinition g
  | some "EXTERNAL" => externalTable g
  | some _ => viewDefinition g true
  | none =>
    guard (!replacing)
    freshDefinition g

/-! ### `DROP` -/

/-- An argument of a function that is removed: its type, or its name and its type. -/
def removedArgument (g : Grammar) : Parsing Unit := do
  discard (anyKeyword? ["IN", "OUT", "INOUT"])
  match ← typeName with
  | .custom _ => discard typeName
  | _ => pure ()
  if ← keyword? "DEFAULT" then discard g.expr
  else if ← symbol? "=" then discard g.expr

/-- A function that is removed. -/
def removedFunction (g : Grammar) : Parsing Unit := do
  discard objectName
  if ← symbol? "(" then
    if !(← symbol? ")") then
      discard (commaList (removedArgument g))
      symbol ")"

def removal (g : Grammar) : Parsing Unit := do
  discard (keyword? "TEMPORARY")
  let kind ← anyKeyword ["TABLE", "VIEW", "INDEX", "ROLE", "SCHEMA", "SEQUENCE", "STAGE",
    "FUNCTION"]
  ifExists
  if kind = "FUNCTION" then
    discard (commaList (removedFunction g))
    discard (anyKeyword? ["CASCADE", "RESTRICT"])
  else
    discard (commaList objectName)
    let cascade ← keyword? "CASCADE"
    let restrict ← keyword? "RESTRICT"
    let purge ← keyword? "PURGE"
    guard (!(cascade && restrict))
    guard (!(kind = "ROLE" && (cascade || restrict || purge)))

/-! ### `ALTER` -/

def alteration (g : Grammar) : Parsing Unit := do
  match ← anyKeyword ["TABLE", "VIEW", "INDEX"] with
  | "TABLE" =>
    ifExists
    discard (keyword? "ONLY")
    discard objectName
    discard (commaList (tableChange g))
  | "VIEW" => viewDefinition g false
  | _ =>
    discard objectName
    keywords ["RENAME", "TO"]
    discard objectName

end ScopedQuery.Sql
