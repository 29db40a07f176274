import ScopedQuery.Sql.Grammar.Change
/-!
# Queries

`queryOf` reads a whole query: its `WITH` clause, its body, its order, its bounds and its locks.
-/

namespace ScopedQuery.Sql

open Parsing

/-! ### Select bodies -/

/-- The number of rows behind `TOP`. A number that is no whole one of 64 bits must not stand there. -/
def topRows (g : Grammar) : Parsing Expr := do
  let (words, operand) ←
    if ← symbol? "(" then
      let value ← g.expr
      symbol ")"
      pure (("(", ")"), value)
    else
      match ← next with
      | .number digits _ =>
        match unsigned? digits with
        | some n => pure (("", ""), Expr.literal (.number (toString n) false))
        | none => crash
      | _ => failure
  let percent ← keyword? "PERCENT"
  let ties ← keywords? ["WITH", "TIES"]
  return .ofPieces [.word words.1, .operand operand, .word (words.2 ++
    (if percent then " PERCENT" else "") ++ if ties then " WITH TIES" else "")]

/-- The target of a selection, behind `INTO`. -/
def intoTarget : Parsing IntoTarget := do
  let temporary ← anyKeyword? ["TEMP", "TEMPORARY"]
  let unlogged ← keyword? "UNLOGGED"
  let table ← keyword? "TABLE"
  return ⟨wordIf temporary.isSome "TEMPORARY" ++ wordIf unlogged "UNLOGGED" ++ wordIf table "TABLE",
    ← objectName⟩

/-- A view of the rows that an expression makes of a row. -/
def lateralView? (g : Grammar) : Parsing (Option Expr) := do
  if ← keywords? ["LATERAL", "VIEW"] then
    let outer ← keyword? "OUTER"
    let value ← g.expr
    let name ← objectName
    let columns ← commaList (asName? ["WHERE", "GROUP", "CLUSTER", "HAVING", "LATERAL"])
    let columns := columns.filterMap id
    let named := if columns.isEmpty then "" else " AS " ++ Ident.list columns
    return some (.ofPieces [.word (" LATERAL VIEW" ++ (if outer then " OUTER" else "") ++ " "),
      .operand value, .word (" " ++ ObjectName.written name ++ named)])
  else return none

/-- A window with a name. -/
def namedWindow (g : Grammar) : Parsing Expr := do
  let name ← ident
  keyword "AS"
  symbol "("
  return .ofPieces [.word (name.written ++ " AS "), .operand (← windowToEnd g)]

/-- A selection behind its keyword. -/
def selection (g : Grammar) : Parsing Select := do
  let (distinctness, keys) ← distinctness g
  let top ← behind? "TOP" (topRows g)
  let items ← commaList (selectItem g)
  let into ← behind? "INTO" intoTarget
  let sources ← listBehind ["FROM"] (fromItem g)
  let views ← repeated (lateralView? g)
  let condition ← behind? "WHERE" g.expr
  let (groupAll, groupBy) ←
    if ← keywords? ["GROUP", "BY"] then
      if ← keyword? "ALL" then pure (true, []) else pure (false, ← commaList g.expr)
    else pure (false, [])
  let clusterBy ← listBehind ["CLUSTER", "BY"] g.expr
  let distributeBy ← listBehind ["DISTRIBUTE", "BY"] g.expr
  let sortBy ← listBehind ["SORT", "BY"] g.expr
  let having ← behind? "HAVING" g.expr
  let windows ← listBehind ["WINDOW"] (namedWindow g)
  let qualify ← behind? "QUALIFY" g.expr
  return .mk distinctness keys top items into sources views condition groupAll groupBy clusterBy
    distributeBy sortBy having windows qualify

/-! ### Other bodies -/

/-- A row of values, of which there can be none, and whether `ROW` stands before it. -/
def valuesRow (g : Grammar) : Parsing (Bool × Expr) := do
  let explicit ← keyword? "ROW"
  symbol "("
  let values ← if ← atSymbol ")" then pure [] else commaList g.expr
  symbol ")"
  return (explicit, .ofPieces (.word "(" :: Piece.commas values ++ [.word ")"]))

/-- A body of rows, behind `VALUES`. -/
def valuesBody (g : Grammar) : Parsing Body := do
  let rows ← commaList (valuesRow g)
  return .values (rows.any (·.1)) (rows.map (·.2))

/-- A body that is a table, behind `TABLE`. Three tokens are taken, as far as there are so many,
even if the name has no point in it. -/
def tableBody : Parsing Body := fun tokens =>
  match tokens with
  | .word schema _ _ :: .symbol "." :: .word table _ _ :: rest =>
    .ok (.other ("TABLE " ++ schema ++ "." ++ table), rest)
  | .word _ _ _ :: .symbol "." :: _ => .error ()
  | .word table _ _ :: rest => .ok (.other ("TABLE " ++ table), rest.drop 2)
  | _ => .error ()

/-- The words that can stand behind an operator on sets. -/
def quantifier (operator : String) : Parsing String := do
  if operator = "UNION" then
    if ← keywords? ["DISTINCT", "BY", "NAME"] then return " DISTINCT BY NAME"
    else if ← keywords? ["BY", "NAME"] then return " BY NAME"
    else if ← keywords? ["ALL", "BY", "NAME"] then return " ALL BY NAME"
  match ← anyKeyword? ["ALL", "DISTINCT"] with
  | some word => return " " ++ word
  | none => return ""

/-- How tightly an operator on sets binds. -/
def setPower (operator : String) : Nat :=
  if operator = "INTERSECT" then 20
  else if operator = "UNION" || operator = "EXCEPT" then 10
  else 0

/-- A body without operators on sets around it. -/
def plainBody (g : Grammar) : Parsing Body := do
  if ← keyword? "SELECT" then return .select (← selection g)
  else if ← symbol? "(" then
    let query ← g.query
    symbol ")"
    return .query query
  else if ← keyword? "VALUES" then valuesBody g
  else if ← keyword? "TABLE" then tableBody
  else failure

mutual

/-- A body of operators that bind more tightly than `floor`, of at most `fuel` steps. -/
def bodyAt (g : Grammar) (floor : Nat) : Nat → Parsing Body
  | 0 => failure
  | fuel + 1 => do setOperations g floor fuel (← plainBody g)

/-- Goes on with a body as long as operators follow that bind more tightly than `floor`. -/
def setOperations (g : Grammar) (floor : Nat) : Nat → Body → Parsing Body
  | 0, _ => failure
  | fuel + 1, left => do
    let operator := (← peekKeyword).getD ""
    if setPower operator ≤ floor then return left
    else
      keyword operator
      let words := operator ++ (← quantifier operator)
      let right ← bodyAt g (setPower operator) fuel
      setOperations g floor fuel (.setOperation words left right)

end

/-! ### Queries -/

/-- A named query. -/
def cte (g : Grammar) : Parsing Cte := do
  let name ← ident
  let columns ← if ← atKeyword ["AS"] then pure [] else columnNames?
  keyword "AS"
  let query ← parenthesised g.query
  return .mk ⟨name, columns⟩ query (← behind? "FROM" ident)

/-- The first row that is given back, behind `OFFSET`. -/
def offsetRows (g : Grammar) : Parsing Expr := do
  let value ← g.expr
  let word ← anyKeyword? ["ROW", "ROWS"]
  return .ofPieces [.word "OFFSET ", .operand value, .word ((word.map (" " ++ ·)).getD "")]

/-- The bounds of a query, each of which can stand first. A number before a comma is an offset. -/
def bounds (g : Grammar) : Nat → Option Expr × Option Expr → Parsing (Option Expr × Option Expr)
  | 0, found => return found
  | rounds + 1, (limit, offset) => do
    let limit ← if limit.isSome then pure limit else limit?
    let offset ← if offset.isSome then pure offset else behind? "OFFSET" (offsetRows g)
    match limit, offset with
    | some first, none =>
      if ← symbol? "," then
        let offset := Expr.ofPieces [.word "OFFSET ", .operand first]
        bounds g rounds (some (← g.expr), some offset)
      else bounds g rounds (limit, offset)
    | _, _ => bounds g rounds (limit, offset)
where
  limit? : Parsing (Option Expr) := do
    if ← keyword? "LIMIT" then limitBound g else return none

/-- The number of rows behind `FETCH`. -/
def fetchRows : Parsing Expr := do
  let _ ← anyKeyword ["FIRST", "NEXT"]
  let quantity ←
    if (← anyKeyword? ["ROW", "ROWS"]).isSome then pure none
    else
      let quantity ← literal
      let percent ← keyword? "PERCENT"
      let _ ← anyKeyword ["ROW", "ROWS"]
      pure (some (quantity, percent))
  let extent ←
    if ← keyword? "ONLY" then pure "ONLY"
    else
      keywords ["WITH", "TIES"]
      pure "WITH TIES"
  match quantity with
  | none => return .ofText ("FETCH FIRST ROWS " ++ extent)
  | some (value, percent) =>
    return .ofPieces [.word "FETCH FIRST ", .operand (.literal value),
      .word ((if percent then " PERCENT" else "") ++ " ROWS " ++ extent)]

/-- A name in parentheses between quotation marks, if a parenthesis comes next. -/
def formName? : Parsing String := do
  if ← atSymbol "(" then return "('" ++ (← parenthesised plainText) ++ "')" else return ""

/-- An item behind `ROOT`. -/
def formRoot : Parsing String := do return ", ROOT('" ++ (← parenthesised plainText) ++ "')"

/-- The items of a form of documents, each behind a comma; an item can be left out. -/
def formItems (item? : Parsing (Option (String × String))) : Parsing (List (String × String)) := do
  let items ← repeated do
    if ← symbol? "," then return some (← item?) else return none
  return items.filterMap id

/-- The last of some items under one of some words, in the order of the words. -/
def lastItems (items : List (String × String)) (words : List String) : String :=
  String.join (words.map fun word => ((items.filter (·.1 = word)).getLast?.map (·.2)).getD "")

/-- A form of rows as XML, behind its keyword. -/
def xmlForm : Parsing String := do
  let kind ← anyKeyword ["RAW", "AUTO", "EXPLICIT", "PATH"]
  let name ← if kind = "RAW" || kind = "PATH" then formName? else pure ""
  let items ← formItems do
    if ← keyword? "ELEMENTS" then return some ("ELEMENTS", ", ELEMENTS")
    else if ← keyword? "BINARY" then
      keyword "BASE64"
      return some ("BINARY", ", BINARY BASE64")
    else if ← keyword? "ROOT" then return some ("ROOT", ← formRoot)
    else if ← keyword? "TYPE" then return some ("TYPE", ", TYPE")
    else return none
  return "FOR XML " ++ kind ++ name ++ lastItems items ["BINARY", "TYPE", "ROOT", "ELEMENTS"]

/-- A form of rows as JSON, behind its keyword. -/
def jsonForm : Parsing String := do
  let kind ← anyKeyword ["AUTO", "PATH"]
  let items ← formItems do
    if ← keyword? "ROOT" then return some ("ROOT", ← formRoot)
    else if ← keyword? "INCLUDE_NULL_VALUES" then return some ("NULLS", ", INCLUDE_NULL_VALUES")
    else if ← keyword? "WITHOUT_ARRAY_WRAPPER" then
      return some ("WRAPPER", ", WITHOUT_ARRAY_WRAPPER")
    else return none
  return "FOR JSON " ++ kind ++ lastItems items ["ROOT", "NULLS", "WRAPPER"]

/-- The form that rows are given back in, which stands behind `FOR`. -/
def form? : Parsing (Option String) := do
  if ← keywords? ["FOR", "XML"] then return some (← xmlForm)
  else if ← keywords? ["FOR", "JSON"] then return some (← jsonForm)
  else if ← keywords? ["FOR", "BROWSE"] then return some "FOR BROWSE"
  else return none

/-- A clause that locks the rows read. -/
def lock? : Parsing (Option Lock) := do
  if (← peekSecond).bind keywordOf |>.any ["XML", "JSON", "BROWSE"].contains then return none
  else if ← keyword? "FOR" then
    let kind ← anyKeyword ["UPDATE", "SHARE"]
    let tables ← behind? "OF" objectName
    let waiting ←
      if ← keyword? "NOWAIT" then pure " NOWAIT"
      else if ← keywords? ["SKIP", "LOCKED"] then pure " SKIP LOCKED"
      else pure ""
    let tables := (tables.map fun name => " OF " ++ ObjectName.written name).getD ""
    return some ⟨"FOR " ++ kind ++ tables ++ waiting⟩
  else return none

/-- A whole query. Whatever nests inside of it is read by `g`. -/
def queryOf (g : Grammar) : Parsing Query := do
  let (recursive, ctes) ←
    if ← keyword? "WITH" then
      let recursive ← keyword? "RECURSIVE"
      pure (recursive, ← commaList (cte g))
    else pure (false, [])
  if ← keyword? "INSERT" then
    return .mk recursive ctes (.other (← insertion g)) [] none none none [] none
  else if ← keyword? "UPDATE" then
    return .mk recursive ctes (.other (← modification g)) [] none none none [] none
  else
    let body ← bodyAt g 0 (2 * (← get).length + 2)
    let orderBy ← listBehind ["ORDER", "BY"] (orderKey g)
    let (limit, offset) ← bounds g 2 (none, none)
    let fetch ← behind? "FETCH" fetchRows
    let locks ← repeated lock?
    return .mk recursive ctes body orderBy limit offset fetch locks (← form?)

end ScopedQuery.Sql
