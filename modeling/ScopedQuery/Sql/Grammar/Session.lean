import ScopedQuery.Sql.Grammar.Definition
/-!
# Statements about a session

The readers of rights, transactions, settings, cursors, locks and tables that are kept in memory.
Nothing of such a statement is kept: it is read only to tell it from a text that is none.
-/

namespace ScopedQuery.Sql

open Parsing

/-! ### Rights -/

/-- A right to be granted or revoked. -/
def permission : Parsing Unit := do
  let word ← anyKeyword ["CONNECT", "CREATE", "DELETE", "EXECUTE", "INSERT", "REFERENCES", "SELECT",
    "TEMPORARY", "TRIGGER", "TRUNCATE", "UPDATE", "USAGE"]
  if ["INSERT", "REFERENCES", "SELECT", "UPDATE"].contains word then discard columnNames?

/-- Rights and the objects that they are about. -/
def permissions : Parsing Unit := do
  if ← keyword? "ALL" then discard (keyword? "PRIVILEGES")
  else discard (commaList permission)
  keyword "ON"
  discard (anyPhrase? [["ALL", "TABLES", "IN", "SCHEMA"], ["ALL", "SEQUENCES", "IN", "SCHEMA"],
    ["SEQUENCE"], ["SCHEMA"], ["TABLE"]])
  discard (commaList objectName)

/-- The one who grants rights or has granted them. Behind the keywords a name must follow. -/
def grantor? : Parsing Unit := do
  if ← keywords? ["GRANTED", "BY"] then discard (unwrap ident)

def granting : Parsing Unit := do
  permissions
  keyword "TO"
  discard (commaList ident)
  discard (keywords? ["WITH", "GRANT", "OPTION"])
  grantor?

def revoking : Parsing Unit := do
  permissions
  keyword "FROM"
  discard (commaList ident)
  grantor?
  discard (anyKeyword? ["CASCADE", "RESTRICT"])

/-! ### Transactions -/

/-- A mode of a transaction, if one comes next. -/
def transactionMode? : Parsing (Option String) :=
  anyPhrase? [["ISOLATION", "LEVEL", "READ", "UNCOMMITTED"],
    ["ISOLATION", "LEVEL", "READ", "COMMITTED"], ["ISOLATION", "LEVEL", "REPEATABLE", "READ"],
    ["ISOLATION", "LEVEL", "SERIALIZABLE"], ["READ", "ONLY"], ["READ", "WRITE"]]

/-- The modes of a transaction. The comma between them can be left out, but one needs a mode
behind it. -/
def transactionModes : Parsing Unit := do
  discard <| repeated do
    match ← transactionMode? with
    | none => return none
    | some mode =>
      if ← symbol? "," then
        let start ← get
        guard (← transactionMode?).isSome
        set start
      return some mode

/-- How a transaction ends. -/
def transactionEnd : Parsing Unit := do
  discard (anyKeyword? ["TRANSACTION", "WORK"])
  if ← keyword? "AND" then
    discard (keyword? "NO")
    keyword "CHAIN"

/-- `ROLLBACK` behind its keyword. -/
def rollback : Parsing Unit := do
  transactionEnd
  if ← keyword? "TO" then
    discard (keyword? "SAVEPOINT")
    discard ident

/-! ### Settings -/

/-- What remains from the next equals sign on. -/
def fromEquals (tokens : List Token) : List Token := tokens.dropWhile (· != .symbol "=")

/-- A pattern or condition for what is shown. -/
def shownFilter (g : Grammar) : Parsing Unit := do
  if (← anyKeyword? ["LIKE", "ILIKE"]).isSome then discard plainText
  else discard (behind? "WHERE" g.expr)

/-- The place that objects are shown of, if it is named. -/
def shownPlace? : Parsing Unit := do
  if (← anyKeyword? ["FROM", "IN"]).isSome then discard ident

def showing (g : Grammar) : Parsing Unit := do
  let extended ← keyword? "EXTENDED"
  let full ← keyword? "FULL"
  discard (keyword? "SESSION")
  discard (keyword? "GLOBAL")
  if (← anyKeyword? ["COLUMNS", "FIELDS"]).isSome then
    discard (anyKeyword ["FROM", "IN"])
    discard objectName
    shownPlace?
    shownFilter g
  else if ← keyword? "TABLES" then
    shownPlace?
    shownFilter g
  else if ← keyword? "FUNCTIONS" then shownFilter g
  else if extended || full then failure
  else if ← keyword? "CREATE" then
    discard (anyKeyword ["TABLE", "TRIGGER", "FUNCTION", "PROCEDURE", "EVENT", "VIEW"])
    discard objectName
  else if (← anyKeyword? ["COLLATION", "VARIABLES"]).isSome then shownFilter g
  else set (fromEquals (← get))

/-- The new value of a setting, behind its name. -/
def settingValue (g : Grammar) (name : String) (plain : Bool) : Parsing Unit := do
  if name.map Char.toUpper = "NAMES" then
    if ← keyword? "DEFAULT" then pure ()
    else
      discard plainText
      discard (behind? "COLLATE" plainText)
  else if ← symbol? "=" then discard (commaList g.expr)
  else if ← keyword? "TO" then discard (commaList g.expr)
  else if name.map Char.toUpper = "TIMEZONE" then discard g.expr
  else if name = "CHARACTERISTICS" then
    keywords ["AS", "TRANSACTION"]
    transactionModes
  else if name = "TRANSACTION" && plain then
    if ← keyword? "SNAPSHOT" then discard literal else transactionModes
  else failure

def setting (g : Grammar) : Parsing Unit := do
  let scope ← anyKeyword? ["SESSION", "LOCAL", "HIVEVAR"]
  if scope = some "HIVEVAR" then
    symbol ":"
    settingValue g (← name) false
  else if ← keyword? "ROLE" then
    if !(← keyword? "NONE") then discard ident
  else settingValue g (← name) scope.isNone
where
  name : Parsing String := do
    if ← keywords? ["TIME", "ZONE"] then return "TIMEZONE"
    else return ObjectName.written (← objectName)

/-- `PRAGMA` behind its keyword. -/
def pragma : Parsing Unit := do
  discard objectName
  if ← symbol? "(" then
    discard numberLiteral
    symbol ")"
  else if ← symbol? "=" then discard numberLiteral

/-! ### Cursors -/

/-- `DECLARE` behind its keyword. -/
def cursorDeclaration (g : Grammar) : Parsing Unit := do
  discard ident
  discard (keyword? "BINARY")
  discard (anyKeyword? ["INSENSITIVE", "ASENSITIVE"])
  discard (anyPhrase? [["SCROLL"], ["NO", "SCROLL"]])
  keyword "CURSOR"
  if (← anyKeyword? ["WITH", "WITHOUT"]).isSome then keyword "HOLD"
  keyword "FOR"
  discard g.query

/-- `FETCH` behind its keyword. -/
def cursorFetch : Parsing Unit := do
  match ← anyKeyword? ["NEXT", "PRIOR", "FIRST", "LAST", "ALL", "ABSOLUTE", "RELATIVE", "FORWARD",
    "BACKWARD"] with
  | none => discard numberLiteral
  | some word =>
    if ["ABSOLUTE", "RELATIVE"].contains word then discard numberLiteral
    else if ["FORWARD", "BACKWARD"].contains word then
      if !(← keyword? "ALL") then discard numberLiteral
  discard (anyKeyword ["FROM", "IN"])
  discard ident
  discard (behind? "INTO" objectName)

/-! ### Locks and kept tables -/

/-- A table with the kind of its lock. -/
def tableLock : Parsing Unit := do
  discard ident
  discard (asName? ["READ", "WRITE", "LOW_PRIORITY"])
  if ← keyword? "READ" then discard (keyword? "LOCAL")
  else
    discard (keyword? "LOW_PRIORITY")
    keyword "WRITE"

/-- The table to be kept in memory, with the query that it is made by. Behind it nothing else can
come. -/
def keptTable (g : Grammar) : Parsing Unit := do
  keyword "TABLE"
  discard objectName
  optionsBehind "OPTIONS"
  if !(← get).isEmpty then
    match ← peek with
    | some (.word ..) =>
      discard (keyword? "AS")
      discard g.query
    | _ => failure

/-- `CACHE` behind its keyword. -/
def caching (g : Grammar) : Parsing Unit := do
  if !(← atKeyword ["TABLE"]) then discard objectName
  keptTable g

/-! ### Rows to and from files -/

/-- An option in parentheses behind `COPY`. -/
def copyOption : Parsing Unit := do
  match ← anyKeyword ["FORMAT", "FREEZE", "DELIMITER", "NULL", "HEADER", "QUOTE", "ESCAPE",
    "FORCE_QUOTE", "FORCE_NOT_NULL", "FORCE_NULL", "ENCODING"] with
  | "FORMAT" => discard ident
  | "NULL" => discard plainText
  | "ENCODING" => discard plainText
  | word =>
    if ["FREEZE", "HEADER"].contains word then discard (anyKeyword? ["TRUE", "FALSE"])
    else if ["DELIMITER", "QUOTE", "ESCAPE"].contains word then discard plainChar
    else discard columnNames

/-- An option behind `CSV`. -/
def copyFormatOption : Parsing Unit := do
  match ← anyKeyword ["HEADER", "QUOTE", "ESCAPE", "FORCE"] with
  | "HEADER" => pure ()
  | "FORCE" =>
    guard (← anyPhrase? [["NOT", "NULL"], ["QUOTE"]]).isSome
    discard (commaList ident)
  | _ =>
    discard (keyword? "AS")
    discard plainChar

/-- An option behind `COPY` without parentheses. -/
def copyLooseOption : Parsing Unit := do
  match ← anyKeyword ["BINARY", "DELIMITER", "NULL", "CSV"] with
  | "BINARY" => pure ()
  | "DELIMITER" =>
    discard (keyword? "AS")
    discard plainChar
  | "NULL" =>
    discard (keyword? "AS")
    discard plainText
  | _ => discard (repeated (maybe copyFormatOption))

/-- What follows rows that stand in the text itself, up to a backslash and a point. -/
def afterRows : List Token → List Token
  | [] => []
  | .symbol "\\" :: .symbol "." :: rest => rest
  | .symbol "\\" :: _ :: rest => afterRows rest
  | _ :: rest => afterRows rest

/-- `COPY` behind its keyword. -/
def copying (g : Grammar) : Parsing Unit := do
  let ofQuery ← symbol? "("
  if ofQuery then
    discard g.query
    symbol ")"
  else
    discard objectName
    discard columnNames?
  let direction ← anyKeyword ["FROM", "TO"]
  guard (!(ofQuery && direction = "FROM"))
  let place ← anyKeyword? ["STDIN", "STDOUT", "PROGRAM"]
  if place.isNone || place = some "PROGRAM" then discard plainText
  discard (keyword? "WITH")
  if ← symbol? "(" then
    discard (commaList copyOption)
    symbol ")"
  discard (repeated (maybe copyLooseOption))
  if place = some "STDIN" then
    symbol ";"
    modify afterRows

end ScopedQuery.Sql
