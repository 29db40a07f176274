import ScopedQuery.Sql.Grammar.Expression
/-!
# Sources of rows

`fromItem` reads a table, a query in parentheses or any other source of rows, with what is joined
to it. A source that is neither a table nor a query nor a join of such is kept as its text.
-/

namespace ScopedQuery.Sql

open Parsing

/-! ### Turned tables -/

/-- A table of which the values of a column become columns, behind `PIVOT`. -/
def pivot (g : Grammar) (source : Source) : Parsing Source := do
  symbol "("
  let function ← match ← next with
    | .word text _ _ => call g [⟨text, none⟩]
    | _ => failure
  keyword "FOR"
  let column ← objectName
  keyword "IN"
  let values ← parenthesised (commaList literal)
  symbol ")"
  let asName ← tableAlias?
  return .foreign (source.written ++ " PIVOT(" ++ function.written ++ " FOR " ++
    ObjectName.written column ++ " IN (" ++ commas (values.map Literal.written) ++ "))" ++
    TableAlias.suffix asName)

/-- A table of which columns become rows, behind `UNPIVOT`. -/
def unpivot (source : Source) : Parsing Source := do
  symbol "("
  let value ← ident
  keyword "FOR"
  let name ← ident
  keyword "IN"
  let columns ← columnNames
  symbol ")"
  let asName ← tableAlias?
  return .foreign (source.written ++ " UNPIVOT(" ++ value.written ++ " FOR " ++ name.written ++
    " IN (" ++ Ident.list columns ++ "))" ++ TableAlias.suffix asName)

/-- A source with the turns behind it. -/
def turned (g : Grammar) : Nat → Source → Parsing Source
  | 0, _ => failure
  | fuel + 1, source => do
    match ← anyKeyword? ["PIVOT", "UNPIVOT"] with
    | some "PIVOT" => turned g fuel (← pivot g source)
    | some _ => turned g fuel (← unpivot source)
    | none => return source

/-! ### Tables made of documents -/

/-- What is done about an empty value or an error. -/
def fallback : Parsing (Option (Bool × String)) := do
  let action? ← match ← anyKeyword? ["NULL", "ERROR", "DEFAULT"] with
    | some "DEFAULT" => pure (some ("DEFAULT " ++ (← literal).written))
    | action? => pure action?
  match action? with
  | none => return none
  | some action =>
    keyword "ON"
    return some ((← anyKeyword ["EMPTY", "ERROR"]) = "EMPTY", action)

/-- A column of a table that is made of a document. -/
def documentColumn : Parsing String := do
  let name ← ident
  let type ← typeName
  let tested ← keyword? "EXISTS"
  keyword "PATH"
  let path ← literal
  let fallbacks ← repeated fallback
  let last (onEmpty : Bool) (word : String) : String :=
    match (fallbacks.filter (·.1 = onEmpty)).getLast? with
    | none => ""
    | some (_, action) => " " ++ action ++ word
  return name.written ++ " " ++ type.written ++ (if tested then " EXISTS" else "") ++ " PATH " ++
    path.written ++ last true " ON EMPTY" ++ last false " ON ERROR"

/-- A table made of a document, behind `JSON_TABLE`. -/
def documentTable (g : Grammar) : Parsing Source := do
  symbol "("
  let document ← g.expr
  symbol ","
  let path ← literal
  keyword "COLUMNS"
  let columns ← parenthesised (commaList documentColumn)
  symbol ")"
  let asName ← tableAlias?
  return .foreign ("JSON_TABLE(" ++ document.written ++ ", " ++ path.written ++ " COLUMNS(" ++
    commas columns ++ "))" ++ TableAlias.suffix asName)

/-! ### Sources -/

/-- A query as a source, behind its opening parenthesis. -/
def derived (g : Grammar) (lateral : Bool) : Parsing Source := do
  let query ← g.query
  symbol ")"
  return .derived lateral query (← tableAlias?)

/-- A source that can use the columns of those before it, behind `LATERAL`. -/
def lateralSource (g : Grammar) : Parsing Source := do
  if ← symbol? "(" then derived g true
  else
    let name ← objectName
    symbol "("
    let args ← argumentsToEnd g
    let asName ← tableAlias?
    return .foreign ("LATERAL " ++ ObjectName.written name ++ "(" ++
      commas (Item.argumentAll args) ++ ")" ++ TableAlias.suffix asName)

/-- The rows of an expression, behind `TABLE`. -/
def expressionTable (g : Grammar) : Parsing Source := do
  let value ← parenthesised g.expr
  let asName ← tableAlias?
  return .foreign ("TABLE(" ++ value.written ++ ")" ++ TableAlias.suffix asName)

/-- Whether a join stands here that is itself a source, and not just in parentheses. -/
def isJoin : FromItem → Bool
  | .mk (.nestedJoin ..) _ => true
  | .mk _ joins => !joins.isEmpty

/-- What stands in parentheses, of which the opening one has been taken: a query or else a join. -/
def parenthesisedSource (g : Grammar) (joined : Parsing FromItem) : Parsing Source := do
  match ← maybe (derived g false) with
  | some source => turned g ((← get).length + 1) source
  | none =>
    let item ← joined
    guard (isJoin item)
    symbol ")"
    return .nestedJoin item (← tableAlias?)

/-- Hints about how to read a table. -/
def hints (g : Grammar) : Parsing (List Expr) := do
  if (← atKeyword ["WITH"]) && (← peekSecond) == some (.symbol "(") then
    keyword "WITH"
    parenthesised (commaList g.expr)
  else return []

/-- A table, or a function in the place of one. -/
def tableSource (g : Grammar) : Parsing Source := do
  let name ← objectName
  let partitions ← if ← keyword? "PARTITION" then columnNames else pure []
  let args ← if ← symbol? "(" then pure (some (← argumentsToEnd g)) else pure none
  let asName ← tableAlias?
  let hints ← hints g
  let table := Source.table name args.isSome (args.getD []) hints partitions asName
  turned g ((← get).length + 1) table

/-- A source of rows; `joined` reads a join in parentheses. -/
def source (g : Grammar) (joined : Parsing FromItem) : Parsing Source := do
  if ← keyword? "LATERAL" then lateralSource g
  else if ← keyword? "TABLE" then expressionTable g
  else if ← symbol? "(" then parenthesisedSource g joined
  else if ← keyword? "JSON_TABLE" then documentTable g
  else tableSource g

/-! ### Joins -/

/-- The kind of a join on a condition, with whether it is a natural one. -/
def joinKind? : Parsing (Option (Bool × JoinKind)) := do
  let natural ← keyword? "NATURAL"
  match ← peekKeyword with
  | some "INNER" =>
    keywords ["INNER", "JOIN"]
    return some (natural, .inner)
  | some "JOIN" =>
    keyword "JOIN"
    return some (natural, .inner)
  | some "LEFT" =>
    keyword "LEFT"
    return some (natural, ← sided .left .leftSemi .leftAnti)
  | some "RIGHT" =>
    keyword "RIGHT"
    return some (natural, ← sided .right .rightSemi .rightAnti)
  | some "FULL" =>
    keyword "FULL"
    let _ ← keyword? "OUTER"
    keyword "JOIN"
    return some (natural, .full)
  | _ => if natural then failure else return none
where
  sided (outer semi anti : JoinKind) : Parsing JoinKind := do
    match ← anyKeyword ["OUTER", "SEMI", "ANTI", "JOIN"] with
    | "OUTER" => keyword "JOIN"; return outer
    | "SEMI" => keyword "JOIN"; return semi
    | "ANTI" => keyword "JOIN"; return anti
    | _ => return outer

/-- A join behind what it is joined to. -/
def join? (g : Grammar) (joined : Parsing FromItem) : Parsing (Option Join) := do
  if ← keyword? "CROSS" then
    let kind := if (← anyKeyword ["JOIN", "APPLY"]) = "JOIN" then JoinKind.cross else .crossApply
    return some (.mk kind false (← source g joined) none [])
  else if ← keyword? "OUTER" then
    keyword "APPLY"
    return some (.mk .outerApply false (← source g joined) none [])
  else
    match ← joinKind? with
    | none => return none
    | some (natural, kind) =>
      let source ← source g joined
      if natural then return some (.mk kind true source none [])
      else if ← keyword? "ON" then return some (.mk kind false source (some (← g.expr)) [])
      else if ← keyword? "USING" then return some (.mk kind false source none (← columnNames))
      else return some (.mk kind false source none [])

/-- A source and its joins, in which at most `fuel` joins nest. -/
def fromItemUpTo (g : Grammar) : Nat → Parsing FromItem
  | 0 => failure
  | fuel + 1 => do
    let first ← source g (fromItemUpTo g fuel)
    return .mk first (← repeated (join? g (fromItemUpTo g fuel)))

/-- A source and its joins. -/
def fromItem (g : Grammar) : Parsing FromItem := do fromItemUpTo g ((← get).length + 1)

end ScopedQuery.Sql
