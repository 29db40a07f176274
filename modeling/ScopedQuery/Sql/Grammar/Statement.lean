import ScopedQuery.Sql.Grammar.Session
/-!
# Statements

* `statementOf` reads a statement. Of one that is no query nothing is kept; it is read to tell
  a statement from a text that is none.
* `Grammar.nested` puts the readers of all levels together.
* `readStatements` reads all statements of a text; `statements?` are those that it comes to.
-/

namespace ScopedQuery.Sql

open Parsing

/-! ### Merging -/

/-- What is done with the rows that are found, or not found, behind `THEN`. -/
def mergeAction (g : Grammar) (found : Bool) : Parsing Unit := do
  match ← anyKeyword ["UPDATE", "INSERT", "DELETE"] with
  | "UPDATE" =>
    guard found
    keyword "SET"
    discard (commaList (assignment g))
  | "DELETE" => guard found
  | _ =>
    guard (!found)
    discard anyColumnNames?
    keyword "VALUES"
    discard (valuesBody g)

/-- A case of a merge, unless the statement ends. -/
def mergeCase? (g : Grammar) : Parsing (Option Unit) := do
  if (← get).isEmpty || (← atSymbol ";") then return none
  else
    keyword "WHEN"
    let missing ← keyword? "NOT"
    keyword "MATCHED"
    discard (behind? "AND" g.expr)
    keyword "THEN"
    mergeAction g (!missing)
    return some ()

/-- `MERGE` behind its keyword. -/
def merging (g : Grammar) : Parsing Unit := do
  discard (keyword? "INTO")
  discard (source g (fromItem g))
  keyword "USING"
  discard (source g (fromItem g))
  keyword "ON"
  discard g.expr
  discard (repeated (mergeCase? g))

/-! ### Other statements -/

/-- `EXPLAIN` or `DESCRIBE` behind its keyword, of a statement or of a table. -/
def explanation (g : Grammar) : Parsing Unit := do
  discard (keyword? "ANALYZE")
  discard (keyword? "VERBOSE")
  if ← keyword? "FORMAT" then discard (anyKeyword ["TEXT", "GRAPHVIZ", "JSON"])
  match ← maybe g.statement with
  | some .explain => failure
  | some _ => pure ()
  | none => discard objectName

def procedureCall (g : Grammar) : Parsing Unit := do
  let name ← objectName
  if ← atSymbol "(" then discard (call g name)

def truncation (g : Grammar) : Parsing Unit := do
  discard (keyword? "TABLE")
  discard objectName
  if ← keyword? "PARTITION" then exprList g

/-- What is found out about a table, behind `ANALYZE TABLE` and its name. -/
def analysisOption? (g : Grammar) : Parsing (Option Unit) := do
  match ← anyKeyword? ["PARTITION", "FOR", "CACHE", "NOSCAN", "COMPUTE"] with
  | none => return none
  | some "PARTITION" => exprList g
  | some "FOR" =>
    keyword "COLUMNS"
    discard (maybe (commaList ident))
  | some "CACHE" => keyword "METADATA"
  | some "COMPUTE" => keyword "STATISTICS"
  | some _ => pure ()
  return some ()

/-- `MSCK` behind its keyword. -/
def repairing : Parsing Unit := do
  discard (keyword? "REPAIR")
  keyword "TABLE"
  discard objectName
  discard <| maybe do
    discard (anyKeyword? ["ADD", "DROP", "SYNC"])
    keyword "PARTITIONS"

def preparation (g : Grammar) : Parsing Unit := do
  discard ident
  if ← symbol? "(" then
    discard (commaList typeName)
    symbol ")"
  keyword "AS"
  discard g.statement

/-- A statement of a few words, by its first keyword, which has been taken. Behind `UNCACHE TABLE`
and a name nothing else can come. -/
def briefStatement (g : Grammar) (word : String) : Parsing Unit := do
  match word with
  | "KILL" =>
    discard (anyKeyword? ["CONNECTION", "QUERY"])
    discard unsigned
  | "USE" => discard ident
  | "SAVEPOINT" => discard ident
  | "RELEASE" =>
    discard (keyword? "SAVEPOINT")
    discard ident
  | "START" =>
    keyword "TRANSACTION"
    transactionModes
  | "BEGIN" =>
    discard (anyKeyword? ["TRANSACTION", "WORK"])
    transactionModes
  | "END" => transactionEnd
  | "COMMIT" => transactionEnd
  | "ROLLBACK" => rollback
  | "EXECUTE" =>
    discard ident
    if ← atSymbol "(" then exprList g
  | "DEALLOCATE" =>
    discard (keyword? "PREPARE")
    discard ident
  | "ATTACH" =>
    discard (keyword? "DATABASE")
    discard g.expr
    keyword "AS"
    discard ident
  | "UNCACHE" =>
    keyword "TABLE"
    ifExists
    discard objectName
    guard (← get).isEmpty
  | "DISCARD" => discard (anyKeyword ["ALL", "PLANS", "SEQUENCES", "TEMP", "TEMPORARY"])
  | "CLOSE" =>
    if !(← keyword? "ALL") then discard ident
  | "ASSERT" =>
    discard g.expr
    discard (behind? "AS" g.expr)
  | "PRAGMA" => pragma
  | _ => failure

/-- A statement that is no query, by its first keyword, which has been taken. -/
def otherStatement (g : Grammar) (word : String) : Parsing Unit := do
  match word with
  | "ANALYZE" =>
    keyword "TABLE"
    discard objectName
    discard (repeated (analysisOption? g))
  | "TRUNCATE" => truncation g
  | "MSCK" => repairing
  | "CREATE" => creation g
  | "CACHE" => caching g
  | "DROP" => removal g
  | "DECLARE" => cursorDeclaration g
  | "FETCH" => cursorFetch
  | "DELETE" => deletion g
  | "INSERT" => discard (insertion g)
  | "UPDATE" => discard (modification g)
  | "ALTER" => alteration g
  | "CALL" => procedureCall g
  | "COPY" => copying g
  | "SET" => setting g
  | "SHOW" => showing g
  | "GRANT" => granting
  | "REVOKE" => revoking
  | "PREPARE" => preparation g
  | "MERGE" => merging g
  | _ => briefStatement g word

/-- A statement. Whatever nests inside of it is read by `g`. -/
def statementOf (g : Grammar) : Parsing Statement := do
  if ← keywords? ["LOCK", "TABLES"] then
    discard (commaList tableLock)
    return .other
  else if ← keywords? ["UNLOCK", "TABLES"] then return .other
  else if (← atKeyword ["SELECT", "WITH", "VALUES"]) || (← atSymbol "(") then
    return .query (← g.query)
  else
    match ← next with
    | .word _ _ (some word) =>
      if word = "EXPLAIN" || word = "DESCRIBE" then
        explanation g
        return .explain
      else
        otherStatement g word
        return .other
    | _ => failure

/-! ### All levels -/

/-- The readers for what can still nest to a depth. A statement, a query and an expression each
take one level. -/
def Grammar.nested : Nat → Grammar
  | 0 => .exhausted
  | depth + 1 =>
    let g := Grammar.nested depth
    { expr := expression g
      query := queryOf g
      statement := statementOf g
      tight := fun _ _ => failure }

/-- The greatest depth to which statements, queries and expressions nest. -/
def nestingLimit : Nat := 50

/-- Reads the statements of a text. Behind an `END` nothing is read. -/
def readStatements (text : String) : Attempt Unit (List Statement) :=
  match Token.ofText? text with
  | none => .error ()
  | some tokens => ((statementList (Grammar.nested nestingLimit).statement).run tokens).map (·.1)

/-- The statements of a text, if it can be read. -/
def statements? (text : String) : Option (List Statement) := (readStatements text).toOption

end ScopedQuery.Sql
