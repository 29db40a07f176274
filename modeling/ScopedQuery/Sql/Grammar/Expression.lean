import ScopedQuery.Sql.Grammar.TypeName
/-!
# Expressions

* `operand` reads an expression without operators around it.
* `bindingPower` is how tightly the operator that comes next binds, zero if none comes.
* `continuation` reads an operator behind its left operand, with what stands to its right.
* `expressionAt` puts these together; `expression` reads a whole expression.
-/

namespace ScopedQuery.Sql

open Parsing

/-! ### Phrases -/

/-- A part of a phrase. -/
inductive Piece
  | word (text : String)
  | operand (value : Expr)

/-- The words before, between and behind the operands. -/
def Piece.words : List Piece → List String
  | [] => [""]
  | .word text :: pieces =>
    match Piece.words pieces with
    | [] => [text]
    | next :: others => (text ++ next) :: others
  | .operand _ :: pieces => "" :: Piece.words pieces

def Piece.operands : List Piece → List Expr
  | [] => []
  | .word _ :: pieces => Piece.operands pieces
  | .operand value :: pieces => value :: Piece.operands pieces

def Expr.ofPieces (pieces : List Piece) : Expr :=
  .phrase (Piece.words pieces) (Piece.operands pieces)

/-- A phrase without operands. -/
def Expr.ofText (text : String) : Expr := .phrase [text] []

/-- Operands with a comma between them. -/
def Piece.commas : List Expr → List Piece
  | [] => []
  | [value] => [.operand value]
  | value :: values => .operand value :: .word ", " :: Piece.commas values

/-- A word and an operand, if there is one. -/
def Piece.optional (word : String) : Option Expr → List Piece
  | none => []
  | some value => [.word word, .operand value]

/-- A clause with its operands, if there are any. -/
def Piece.clause (word : String) (values : List Expr) : List Piece :=
  if values.isEmpty then [] else .word word :: Piece.commas values

/-! ### Parts of expressions -/

/-- Which rows are told apart, and the expressions of `DISTINCT ON`; `ALL` is the default. -/
def distinctness (g : Grammar) : Parsing (Distinctness × List Expr) := do
  let all ← keyword? "ALL"
  if ← keyword? "DISTINCT" then
    guard (!all)
    if ← keyword? "ON" then
      symbol "("
      let values ← if ← atSymbol ")" then pure [] else commaList g.expr
      symbol ")"
      return (.byKeys, values)
    else return (.byRow, [])
  else return (.none, [])

/-- A sort key. -/
def orderKey (g : Grammar) : Parsing OrderKey := do
  let value ← g.expr
  let direction ← anyKeyword? ["ASC", "DESC"]
  let nulls ←
    if ← keywords? ["NULLS", "FIRST"] then pure " NULLS FIRST"
    else if ← keywords? ["NULLS", "LAST"] then pure " NULLS LAST"
    else pure ""
  let words := match direction with
    | none => nulls
    | some word => " " ++ word ++ nulls
  return .mk value (direction = some "DESC") words

/-- A sort key inside of an expression. -/
def orderPhrase (g : Grammar) : Parsing Expr := do
  let .mk value _ words ← orderKey g
  return .ofPieces [.operand value, .word words]

/-- The end of a qualified star, if the parts of a name are followed by one. -/
def starBehind? : Nat → ObjectName → Parsing (Option ObjectName)
  | 0, _ => failure
  | fuel + 1, parts => do
    if ← symbol? "." then
      if ← symbol? "*" then return some parts
      else starBehind? fuel (parts ++ [← namePart])
    else return none

/-- A star, qualified or not. Behind a name and a point only a name or a star can come. -/
def star? : Parsing (Option ObjectName) := do
  if ← symbol? "*" then return some []
  match ← peek, ← peekSecond with
  | some (.word ..), some (.symbol ".") => qualified
  | some (.quotation .single _), some (.symbol ".") => qualified
  | _, _ => return none
where
  qualified : Parsing (Option ObjectName) := do
    let start ← get
    match ← starBehind? (start.length + 1) [← namePart] with
    | some parts => return some parts
    | none => set start; return none

/-- A star or an expression. -/
def starOrExpr (g : Grammar) (label : Option Ident) : Parsing Item := do
  match ← star? with
  | some qualifier => return .star label qualifier
  | none => return .expr label (← g.expr)

/-- An item of a select list. -/
def selectItem (g : Grammar) : Parsing Item := do
  match ← starOrExpr g none with
  | .expr _ value => return .expr (← asName? reservedForColumns) value
  | star => return star

/-- An argument of a call, named or not. -/
def argument (g : Grammar) : Parsing Item := do
  if (← peekSecond) == some (.symbol "=>") then
    let name ← ident
    symbol "=>"
    starOrExpr g (some name)
  else starOrExpr g none

/-- Arguments behind an opening parenthesis, up to the closing one. -/
def argumentsToEnd (g : Grammar) : Parsing (List Item) := do
  if ← symbol? ")" then return []
  else
    let args ← commaList (argument g)
    symbol ")"
    return args

/-- Arguments and their order behind an opening parenthesis, up to the closing one. -/
def orderedArgumentsToEnd (g : Grammar) : Parsing (List Item × List Expr) := do
  if ← symbol? ")" then return ([], [])
  else
    let args ← commaList (argument g)
    let orderBy ← listBehind ["ORDER", "BY"] (orderPhrase g)
    symbol ")"
    return (args, orderBy)

/-! ### Intervals -/

/-- An interval behind its keyword. -/
def interval (g : Grammar) : Parsing Expr := do
  let value ← g.tight false 0
  let unit ← anyKeyword? intervalUnits
  let unitText := (unit.map (" " ++ ·)).getD ""
  if unit = some "SECOND" then
    let sizes ← precisions?
    let sizeText := if sizes.isEmpty then "" else " (" ++ commas (sizes.map toString) ++ ")"
    return .ofPieces [.word "INTERVAL ", .operand value, .word (unitText ++ sizeText)]
  else
    let spaced (size : Option Nat) : String := (size.map fun n => " (" ++ toString n ++ ")").getD ""
    let sizeText := spaced (← precision?)
    let last ← behind? "TO" do
      let field ← timeField
      let size ← if field = "SECOND" then precision? else pure none
      return " TO " ++ field ++ spaced size
    return .ofPieces
      [.word "INTERVAL ", .operand value, .word (unitText ++ sizeText ++ last.getD "")]

/-! ### Windows and calls -/

/-- An end of a window frame. -/
def frameBound (g : Grammar) : Parsing (List Piece) := do
  if ← keywords? ["CURRENT", "ROW"] then return [.word "CURRENT ROW"]
  let distance ←
    if ← keyword? "UNBOUNDED" then pure (Piece.word "UNBOUNDED")
    else
      match ← peek with
      | some (.quotation .single _) => pure (Piece.operand (← interval g))
      | _ => pure (Piece.operand (← g.expr))
  return [distance, .word (" " ++ (← anyKeyword ["PRECEDING", "FOLLOWING"]))]

def frame (g : Grammar) : Parsing (List Piece) := do
  let units ← anyKeyword ["ROWS", "RANGE", "GROUPS"]
  if ← keyword? "BETWEEN" then
    let first ← frameBound g
    keyword "AND"
    let last ← frameBound g
    return .word (units ++ " BETWEEN ") :: first ++ .word " AND " :: last
  else return .word (units ++ " ") :: (← frameBound g)

/-- A window behind an opening parenthesis, up to the closing one. -/
def windowToEnd (g : Grammar) : Parsing Expr := do
  let partitions ← listBehind ["PARTITION", "BY"] g.expr
  let order ← listBehind ["ORDER", "BY"] (orderPhrase g)
  let frame ←
    if ← symbol? ")" then pure []
    else
      let frame ← frame g
      symbol ")"
      pure frame
  let parts := [Piece.clause "PARTITION BY " partitions, Piece.clause "ORDER BY " order, frame]
  let parts := parts.filter (!·.isEmpty)
  return .ofPieces (.word "(" :: List.flatten (parts.intersperse [.word " "]) ++ [.word ")"])

/-- A call of a function, from its opening parenthesis. -/
def call (g : Grammar) (name : ObjectName) : Parsing Expr := do
  symbol "("
  let (distinctness, _) ← distinctness g
  let (args, orderBy) ← orderedArgumentsToEnd g
  let treatment ← match ← anyKeyword? ["RESPECT", "IGNORE"] with
    | some word => do
      keyword "NULLS"
      pure (" " ++ word ++ " NULLS")
    | none => pure ""
  let window ← behind? "OVER" do
    if ← symbol? "(" then windowToEnd g else return .ofText (← ident).written
  return .call name (distinctness != .none) args treatment window orderBy

/-- A function of the current time, for which the parentheses can be left out. -/
def clock (g : Grammar) (name : Ident) : Parsing Expr := do
  if ← symbol? "(" then
    let (args, orderBy) ← orderedArgumentsToEnd g
    return .call [name] false args "" none orderBy
  else return .ofText name.written

/-! ### Expressions that start with a keyword -/

/-- The branches of a `CASE` behind its first `WHEN`. -/
def caseBranches (g : Grammar) : Nat → Parsing (List (Expr × Expr))
  | 0 => failure
  | fuel + 1 => do
    let condition ← g.expr
    keyword "THEN"
    let result ← g.expr
    if ← keyword? "WHEN" then return (condition, result) :: (← caseBranches g fuel)
    else return [(condition, result)]

def caseExpr (g : Grammar) : Parsing Expr := do
  let operand ←
    if ← keyword? "WHEN" then pure none
    else
      let operand ← g.expr
      keyword "WHEN"
      pure (some operand)
  let branches ← caseBranches g ((← get).length + 1)
  let otherwise ← behind? "ELSE" g.expr
  keyword "END"
  return .case operand (branches.map (·.1)) (branches.map (·.2)) otherwise

def convertExpr (g : Grammar) : Parsing Expr := parenthesised do
  let value ← g.expr
  if ← keyword? "USING" then
    let charset ← objectName
    return .ofPieces
      [.word "CONVERT(", .operand value, .word (" USING " ++ ObjectName.written charset ++ ")")]
  else
    symbol ","
    let type ← typeName
    let charset ←
      if ← keywords? ["CHARACTER", "SET"] then
        pure (" CHARACTER SET " ++ ObjectName.written (← objectName))
      else pure ""
    return .ofPieces
      [.word "CONVERT(", .operand value, .word (", " ++ type.written ++ charset ++ ")")]

def castExpr (g : Grammar) (form : CastForm) : Parsing Expr := parenthesised do
  let value ← g.expr
  keyword "AS"
  let type ← typeName
  if ← keyword? "FORMAT" then
    let format ← literal
    let zone ←
      if ← keywords? ["AT", "TIME", "ZONE"] then pure (" AT TIME ZONE " ++ (← literal).written)
      else pure ""
    return .ofPieces [.word (form.written ++ "("), .operand value,
      .word (" AS " ++ type.written ++ " FORMAT " ++ format.written ++ zone ++ ")")]
  else return .cast form value type

def existsExpr (g : Grammar) (negated : Bool) : Parsing Expr :=
  return .exists negated (← parenthesised g.query)

def extractExpr (g : Grammar) : Parsing Expr := parenthesised do
  let field ← timeField
  keyword "FROM"
  return .ofPieces [.word ("EXTRACT(" ++ field ++ " FROM "), .operand (← g.expr), .word ")"]

/-- `CEIL` or `FLOOR`, of a number or of a time to a unit. -/
def roundingExpr (g : Grammar) (word : String) : Parsing Expr := parenthesised do
  let value ← g.expr
  let unit ← behind? "TO" timeField
  return .ofPieces [.word (word ++ "("), .operand value,
    .word ((unit.map (" TO " ++ ·)).getD "" ++ ")")]

/-- `POSITION (… IN …)`, which is never a call of a function of that name. -/
def positionExpr (g : Grammar) : Parsing Expr := parenthesised do
  let part ← g.tight true 20
  keyword "IN"
  return .ofPieces [.word "POSITION(", .operand part, .word " IN ", .operand (← g.expr), .word ")"]

def substringExpr (g : Grammar) : Parsing Expr := parenthesised do
  let value ← g.expr
  let start ← if ← symbol? "," then pure (some (← g.expr)) else behind? "FROM" g.expr
  let length ←
    if ← keyword? "FOR" then pure (some (← g.expr))
    else if ← symbol? "," then pure (some (← g.expr))
    else pure none
  return .ofPieces ([.word "SUBSTRING(", .operand value] ++ Piece.optional " FROM " start ++
    Piece.optional " FOR " length ++ [.word ")"])

def overlayExpr (g : Grammar) : Parsing Expr := parenthesised do
  let value ← g.expr
  keyword "PLACING"
  let part ← g.expr
  keyword "FROM"
  let start ← g.expr
  let length ← behind? "FOR" g.expr
  return .ofPieces ([.word "OVERLAY(", .operand value, .word " PLACING ", .operand part,
    .word " FROM ", .operand start] ++ Piece.optional " FOR " length ++ [.word ")"])

def trimExpr (g : Grammar) : Parsing Expr := parenthesised do
  let side ← anyKeyword? ["BOTH", "LEADING", "TRAILING"]
  let words := (side.map (· ++ " ")).getD ""
  let value ← g.expr
  if ← keyword? "FROM" then return .trim words (← g.expr) (some value)
  else
    let _ ← symbol? ","
    return .trim words value none

/-- What `LISTAGG` does with a text that is too long, up to its closing parenthesis. -/
def overflow (g : Grammar) : Parsing (List Piece) := do
  if ← keyword? "ERROR" then return [.word " ON OVERFLOW ERROR"]
  keyword "TRUNCATE"
  let filler ← match ← peek with
    | some (.word _ _ (some "WITH")) => pure []
    | some (.word _ _ (some "WITHOUT")) => pure []
    | some (.quotation form _) =>
      if form = .double then failure else pure [.word " ", .operand (← g.expr)]
    | _ => failure
  let count ← anyKeyword ["WITH", "WITHOUT"]
  keyword "COUNT"
  return .word " ON OVERFLOW TRUNCATE" :: filler ++ [.word (" " ++ count ++ " COUNT")]

def listAggExpr (g : Grammar) : Parsing Expr := do
  symbol "("
  let (distinctness, _) ← distinctness g
  let value ← g.expr
  let separator ← if ← symbol? "," then pure (some (← g.expr)) else pure none
  let tooLong ← if ← keywords? ["ON", "OVERFLOW"] then overflow g else pure []
  symbol ")"
  let group ←
    if ← keywords? ["WITHIN", "GROUP"] then
      parenthesised do
        keywords ["ORDER", "BY"]
        commaList (orderPhrase g)
    else pure []
  let within :=
    if group.isEmpty then []
    else .word " WITHIN GROUP (ORDER BY " :: Piece.commas group ++ [.word ")"]
  return .ofPieces ([.word ("LISTAGG(" ++ wordIf (distinctness != .none) "DISTINCT"),
    .operand value] ++ Piece.optional ", " separator ++ tooLong ++ [.word ")"] ++ within)

/-- The bound of a `LIMIT`; `ALL` sets none. -/
def limitBound (g : Grammar) : Parsing (Option Expr) := do
  if ← keyword? "ALL" then return none else return some (← g.expr)

def arrayAggExpr (g : Grammar) : Parsing Expr := parenthesised do
  let distinct ← keyword? "DISTINCT"
  let value ← g.expr
  let order ← listBehind ["ORDER", "BY"] (orderPhrase g)
  let limit ← if ← keyword? "LIMIT" then limitBound g else pure none
  return .ofPieces ([.word ("ARRAY_AGG(" ++ wordIf distinct "DISTINCT"), .operand value] ++
    Piece.clause " ORDER BY " order ++ Piece.optional " LIMIT " limit ++ [.word ")"])

/-- An array behind its opening bracket. -/
def arrayToEnd (g : Grammar) (word : String) : Parsing Expr := do
  let values ←
    if ← symbol? "]" then pure []
    else
      let values ← commaList g.expr
      symbol "]"
      pure values
  return .ofPieces (.word (word ++ "[") :: Piece.commas values ++ [.word "]"])

/-- A full-text search. -/
def matchExpr : Parsing Expr := do
  let columns ← columnNames
  keyword "AGAINST"
  symbol "("
  let value ← literal
  let modes := [["IN", "NATURAL", "LANGUAGE", "MODE", "WITH", "QUERY", "EXPANSION"],
    ["IN", "NATURAL", "LANGUAGE", "MODE"], ["IN", "BOOLEAN", "MODE"],
    ["WITH", "QUERY", "EXPANSION"]]
  let mode := ((← anyPhrase? modes).map (" " ++ ·)).getD ""
  symbol ")"
  return .ofText ("MATCH (" ++ Ident.list columns ++ ") AGAINST (" ++ value.written ++ mode ++ ")")

/-- A negation behind its keyword. -/
def notExpr (g : Grammar) : Parsing Expr := do
  if ← keyword? "EXISTS" then existsExpr g true
  else return .unary .not (← g.tight true 15)

/-- The parts of a name behind points. -/
def nameParts : Nat → ObjectName → Parsing ObjectName
  | 0, _ => failure
  | fuel + 1, parts => do
    if ← symbol? "." then nameParts fuel (parts ++ [← namePart]) else return parts

/-- What a word starts that has no meaning of its own: a name, a call, or a text behind the name
of its character set. -/
def named (g : Grammar) (first : Ident) : Parsing Expr := do
  match ← peek with
  | some (.symbol "(") => call g [first]
  | some (.symbol ".") =>
    let parts ← nameParts ((← get).length + 1) [first]
    if ← atSymbol "(" then call g parts else return .name parts
  | some (.quotation form text) =>
    if first.text.startsWith "_" && (form = .single || form = .double || form = .hex) then
      let _ ← next
      return .ofText (first.text ++ " " ++ (Literal.text form text).written)
    else return .name [first]
  | _ => return .name [first]

/-- The expression that a word starts, which has been taken. -/
def startingWithWord (g : Grammar) (first : Ident) (keyword : Option String) : Parsing Expr := do
  match keyword with
  | some "TRUE" => return .literal (.boolean true)
  | some "FALSE" => return .literal (.boolean false)
  | some "NULL" => return .literal .null
  | some "CASE" => caseExpr g
  | some "CONVERT" => convertExpr g
  | some "CAST" => castExpr g .cast
  | some "TRY_CAST" => castExpr g .tryCast
  | some "SAFE_CAST" => castExpr g .safeCast
  | some "EXISTS" => existsExpr g false
  | some "EXTRACT" => extractExpr g
  | some "CEIL" => roundingExpr g "CEIL"
  | some "FLOOR" => roundingExpr g "FLOOR"
  | some "SUBSTRING" => substringExpr g
  | some "OVERLAY" => overlayExpr g
  | some "TRIM" => trimExpr g
  | some "INTERVAL" => interval g
  | some "LISTAGG" => listAggExpr g
  | some "ARRAY_AGG" => arrayAggExpr g
  | some "NOT" => notExpr g
  | some "MATCH" => matchExpr
  | some word =>
    if ["CURRENT_TIMESTAMP", "CURRENT_TIME", "CURRENT_DATE", "LOCALTIME",
        "LOCALTIMESTAMP"].contains word then clock g first
    else if word = "POSITION" && (← atSymbol "(") then positionExpr g
    else if word = "ARRAY" && (← atSymbol "[") then
      symbol "["
      arrayToEnd g "ARRAY"
    else if word = "ARRAY" && (← atSymbol "(") then
      return .arrayQuery (← parenthesised g.query)
    else named g first
  | none => named g first

/-! ### Operands -/

/-- A literal behind the name of its type. -/
def typedLiteral (g : Grammar) : Parsing Expr := do
  match ← typeName with
  | .interval => interval g
  | .custom _ => failure
  | .standard type => return .ofText (type ++ " " ++ inQuotes '\'' (← plainText))

/-- What stands in parentheses, of which the opening one has been taken: a query, an expression
or a row of them. A field of it can follow. -/
def parenthesisToEnd (g : Grammar) : Parsing Expr := do
  let inner ←
    if ← atKeyword ["SELECT", "WITH"] then pure (Expr.subquery (← g.query))
    else
      match ← commaList g.expr with
      | [value] => pure (Expr.nested value)
      | values => pure (Expr.ofPieces (.word "(" :: Piece.commas values ++ [.word ")"]))
  symbol ")"
  if ← symbol? "." then
    match ← next with
    | .word text quote _ =>
      return .ofPieces [.operand inner, .word ("." ++ Ident.written ⟨text, quote⟩)]
    | _ => failure
  else return inner

/-- An expression without operators around it, by its first token. -/
def plainOperand (g : Grammar) : Parsing Expr := do
  let start ← get
  match ← next with
  | .word text quote keyword => startingWithWord g ⟨text, quote⟩ keyword
  | .symbol "[" => arrayToEnd g ""
  | .symbol "-" => return .unary .minus (← g.tight true 40)
  | .symbol "+" => return .unary .plus (← g.tight true 40)
  | .symbol "(" => parenthesisToEnd g
  | .quotation .escaped _ => failure
  | _ =>
    set start
    return .literal (← literal)

/-- An expression without operators around it. -/
def operand (g : Grammar) : Parsing Expr := do
  match ← maybe (typedLiteral g) with
  | some value => return value
  | none =>
    let value ← plainOperand g
    if ← keyword? "COLLATE" then
      return .ofPieces [.operand value, .word (" COLLATE " ++ ObjectName.written (← objectName))]
    else return value

/-! ### Operators -/

/-- The operators that are written as symbols, with how tightly they bind. -/
def symbolPowers : List (String × Nat) :=
  [("=", 20), ("<", 20), ("<=", 20), ("<>", 20), (">", 20), (">=", 20), ("==", 20), ("~", 20),
   ("~*", 20), ("!~", 20), ("!~*", 20), ("<=>", 20), ("|", 21), ("^", 22), ("#", 22), (">>", 22),
   ("<<", 22), ("&", 23), ("+", 30), ("-", 30), ("*", 40), ("/", 40), ("%", 40), ("||", 40),
   ("::", 50), (":", 50), ("!", 50), ("[", 50), ("&&", 50), ("->", 50), ("->>", 50), ("#>", 50),
   ("#>>", 50), ("@>", 50), ("<@", 50), ("#-", 50), ("@?", 50), ("@@", 50)]

/-- How tightly a word binds that is an operator on its own or behind `NOT`. -/
def testPower (word : String) : Nat :=
  if word = "IN" || word = "BETWEEN" then 20
  else if ["LIKE", "ILIKE", "RLIKE", "REGEXP", "SIMILAR"].contains word then 19
  else 0

/-- How tightly the operator binds that some tokens start with. -/
def bindingPower (logic : Bool) : List Token → Nat
  | .symbol text :: _ => (symbolPowers.lookup text).getD 0
  | .word _ _ (some "OR") :: _ => if logic then 5 else 0
  | .word _ _ (some "AND") :: _ => if logic then 10 else 0
  | .word _ _ (some "XOR") :: _ => if logic then 24 else 0
  | .word _ _ (some "AT") :: .word _ _ (some "TIME") :: .word _ _ (some "ZONE") :: _ => 20
  | .word _ _ (some "NOT") :: .word _ _ (some word) :: _ => testPower word
  | .word _ _ (some "IS") :: _ => 17
  | .word _ _ (some "OPERATOR") :: _ => 20
  | .word _ _ (some "DIV") :: _ => 40
  | .word _ _ (some word) :: _ => testPower word
  | _ => 0

/-- The operator that a token is between two operands. -/
def binaryOp? : Token → Option BinaryOp
  | .symbol "<=>" => some .nullSafeEq
  | .symbol "==" => some .eq
  | .symbol "=" => some .eq
  | .symbol "<>" => some .ne
  | .symbol ">" => some .gt
  | .symbol ">=" => some .ge
  | .symbol "<" => some .lt
  | .symbol "<=" => some .le
  | .symbol "+" => some .plus
  | .symbol "-" => some .minus
  | .symbol "*" => some .times
  | .symbol "%" => some .modulo
  | .symbol "/" => some .divide
  | .symbol "||" => some .concat
  | .symbol "|" => some .bitOr
  | .symbol "^" => some .bitXor
  | .symbol "&" => some .bitAnd
  | .symbol "~" => some .regexMatch
  | .symbol "~*" => some .regexMatchFold
  | .symbol "!~" => some .regexDiffer
  | .symbol "!~*" => some .regexDifferFold
  | .word _ _ (some "AND") => some .and
  | .word _ _ (some "OR") => some .or
  | .word _ _ (some "XOR") => some .xor
  | _ => none

/-- The operator of a symbol that looks into a document; its right operand reaches as far as an
expression can. -/
def documentOp? : String → Option BinaryOp
  | "->" => some .arrow
  | "->>" => some .longArrow
  | "#>" => some .hashArrow
  | "#>>" => some .hashLongArrow
  | "@>" => some .contains
  | "<@" => some .containedIn
  | "#-" => some .hashMinus
  | "@?" => some .atQuestion
  | "@@" => some .atAt
  | _ => none

/-- Whether an operator can compare with any or all of several values. -/
def BinaryOp.isComparison (op : BinaryOp) : Bool := [eq, ne, lt, gt, le, ge].contains op

/-- The test behind `IS`. -/
def isTest (g : Grammar) (left : Expr) : Parsing Expr := do
  match ← anyPhrase? [["NULL"], ["NOT", "NULL"], ["TRUE"], ["NOT", "TRUE"], ["FALSE"],
      ["NOT", "FALSE"], ["UNKNOWN"], ["NOT", "UNKNOWN"]] with
  | some test => return .ofPieces [.operand left, .word (" IS " ++ test)]
  | none =>
    match ← anyPhrase? [["DISTINCT", "FROM"], ["NOT", "DISTINCT", "FROM"]] with
    | some test =>
      return .ofPieces [.operand left, .word (" IS " ++ test ++ " "), .operand (← g.expr)]
    | none => failure

/-- The test for membership behind `IN`. -/
def membership (g : Grammar) (negated : Bool) (left : Expr) : Parsing Expr := do
  if ← keyword? "UNNEST" then
    let array ← parenthesised g.expr
    return .ofPieces [.operand left, .word (" " ++ wordIf negated "NOT" ++ "IN UNNEST("),
      .operand array, .word ")"]
  else
    parenthesised do
      if ← atKeyword ["SELECT", "WITH"] then return .inQuery negated left (← g.query)
      else return .inList negated left (← commaList g.expr)

/-- The character behind `ESCAPE`. -/
def escapeChar? : Parsing String := do
  if ← keyword? "ESCAPE" then
    return " ESCAPE '" ++ (← plainChar) ++ "'"
  else return ""

/-- A pattern behind the word that compares with it. -/
def patternTest (g : Grammar) (negated : Bool) (word : String) (left : Expr) : Parsing Expr := do
  let pattern ← g.tight true 19
  return .ofPieces [.operand left, .word (" " ++ wordIf negated "NOT" ++ word ++ " "),
    .operand pattern, .word (← escapeChar?)]

/-- A test that can be negated. -/
def negatableTest (g : Grammar) (left : Expr) : Parsing Expr := do
  let negated ← keyword? "NOT"
  let regexp ← keyword? "REGEXP"
  let rlike ← keyword? "RLIKE"
  if regexp || rlike then
    return .ofPieces [.operand left,
      .word (" " ++ wordIf negated "NOT" ++ (if regexp then "REGEXP " else "RLIKE ")),
      .operand (← g.tight true 19)]
  else if ← keyword? "IN" then membership g negated left
  else if ← keyword? "BETWEEN" then
    let low ← g.tight true 20
    keyword "AND"
    return .between negated left low (← g.tight true 20)
  else if ← keyword? "LIKE" then patternTest g negated "LIKE" left
  else if ← keyword? "ILIKE" then patternTest g negated "ILIKE" left
  else
    keywords ["SIMILAR", "TO"]
    patternTest g negated "SIMILAR TO" left

/-- A key behind an opening bracket; the closing one can be left out. -/
def mapKey (g : Grammar) : Parsing (List Piece) := do
  let key ← match ← next with
    | .word text _ none =>
      if ← atSymbol "(" then
        pure [.word "[", .operand (← call g [⟨text, none⟩]), .word "]"]
      else pure [.word ("[\"" ++ text ++ "\"]")]
    | .quotation .single text => pure [.word ("[\"" ++ text ++ "\"]")]
    | .number digits _ => pure [.word ("[" ++ digits ++ "]")]
    | _ => failure
  let _ ← symbol? "]"
  return key

/-- The keys behind an opening bracket. Only of a name they are kept. -/
def mapAccess (g : Grammar) (left : Expr) : Parsing Expr := do
  let first ← mapKey g
  let others ← repeated do
    if ← symbol? "[" then return some (← mapKey g) else return none
  match left with
  | .name _ => return .ofPieces (.operand left :: first ++ others.flatten)
  | _ => return left

/-- An operator that binds with `power`, behind its left operand. Behind `DIV` an operand must
follow. -/
def continuation (g : Grammar) (power : Nat) (left : Expr) : Parsing Expr := do
  if ← keyword? "DIV" then return .binary .intDivide left (← unwrap g.expr)
  let start ← get
  let token ← next
  match binaryOp? token with
  | some op =>
    match ← anyKeyword? ["ANY", "ALL"] with
    | some word =>
      let right ← parenthesised (g.tight true power)
      guard op.isComparison
      return .ofPieces [.operand left, .word (" " ++ op.written ++ " " ++ word ++ "("),
        .operand right, .word ")"]
    | none => return .binary op left (← g.tight true power)
  | none =>
    match token with
    | .word _ _ (some "IS") => isTest g left
    | .word _ _ (some "AT") =>
      keywords ["TIME", "ZONE"]
      match ← next with
      | .quotation .single zone =>
        return .ofPieces [.operand left, .word (" AT TIME ZONE '" ++ zone ++ "'")]
      | _ => failure
    | .word .. =>
      set start
      negatableTest g left
    | .symbol "::" => return .cast .cast left (← typeName)
    | .symbol "!" => return .unary .factorial left
    | .symbol "[" => mapAccess g left
    | .symbol ":" => return .ofPieces [.operand left, .word (":" ++ (← literal).written)]
    | .symbol text =>
      match documentOp? text with
      | some op => return .binary op left (← g.expr)
      | none => failure
    | _ => failure

/-! ### Expressions -/

/-- Goes on with an expression by at most `fuel` operators, as long as they bind more tightly than
`floor`. -/
def continuations (g : Grammar) (logic : Bool) (floor : Nat) : Nat → Expr → Parsing Expr
  | 0, _ => failure
  | fuel + 1, left => do
    let power := bindingPower logic (← get)
    if power ≤ floor then return left
    else continuations g logic floor fuel (← continuation g power left)

/-- An expression of operators that bind more tightly than `floor`, in which at most `fuel`
operands start inside of one another. -/
def expressionAt (g : Grammar) : Nat → Bool → Nat → Parsing Expr
  | 0, _, _ => failure
  | fuel + 1, logic, floor => do
    let level := { g with tight := expressionAt g fuel }
    let left ← operand level
    continuations level logic floor ((← get).length + 1) left

/-- A whole expression. Whatever nests inside of it is read by `g`. -/
def expression (g : Grammar) : Parsing Expr := do
  expressionAt g ((← get).length + 1) true 0

end ScopedQuery.Sql
