/-!
# Syntax trees of SQL queries

* `Expr` holds expressions. The forms that matter to this library have constructors of their own;
  every other form is a `phrase`, fixed words written around operands.
* `Query`, `Body`, `Select`, `FromItem`, `Source` and `Join` hold queries.
* `Statement` tells a query from any other statement, of which only the fact that it is one
  is kept.

The children of a constructor stand in the order in which they are read for the safety check.
-/

namespace ScopedQuery.Sql

/-- A name as written; `quote` is the quotation mark around it, if any. -/
structure Ident where
  text : String
  quote : Option Char
deriving DecidableEq, Repr, Inhabited

/-- A possibly qualified name, outermost qualifier first. -/
abbrev ObjectName := List Ident

/-- The quotation that a text literal is written in. -/
inductive TextForm
  | single | double | national | escaped | hex
deriving DecidableEq, Repr

inductive Literal
  | number (digits : String) (long : Bool)
  | text (form : TextForm) (value : String)
  | boolean (value : Bool)
  | null
  | placeholder (name : String)
deriving DecidableEq, Repr

/-- A type name by its canonical text. A custom name is any name that is no standard type. -/
inductive DataType
  | interval
  | standard (text : String)
  | custom (text : String)
deriving DecidableEq, Repr

inductive UnaryOp
  | plus | minus | not | factorial
deriving DecidableEq, Repr

inductive BinaryOp
  | or | and | xor
  | eq | ne | lt | gt | le | ge | nullSafeEq
  | plus | minus | times | divide | modulo | intDivide | concat
  | bitOr | bitXor | bitAnd
  | regexMatch | regexMatchFold | regexDiffer | regexDifferFold
  | arrow | longArrow | hashArrow | hashLongArrow | contains | containedIn | hashMinus | atQuestion
  | atAt
deriving DecidableEq, Repr

inductive JoinKind
  | inner | left | right | full | leftSemi | rightSemi | leftAnti | rightAnti
  | cross | crossApply | outerApply
deriving DecidableEq, Repr

/-- What a cast does with a value that does not fit: fail, or give null. -/
inductive CastForm
  | cast | tryCast | safeCast
deriving DecidableEq, Repr

/-- A clause that locks the rows read, by its canonical text. -/
structure Lock where
  text : String
deriving DecidableEq, Repr

/-- Which rows of a selection are told apart: all of them, those that differ, or those that differ
in some keys. -/
inductive Distinctness
  | none | byRow | byKeys
deriving DecidableEq, Repr

/-- The target of `SELECT … INTO`, with the words before its name. -/
structure IntoTarget where
  words : String
  name : ObjectName
deriving DecidableEq, Repr

/-- An alias with the names that it gives to columns. -/
structure TableAlias where
  name : Ident
  columns : List Ident
deriving DecidableEq, Repr

mutual

inductive Expr
  /-- A column name, qualified or not. -/
  | name (parts : ObjectName)
  | literal (value : Literal)
  | unary (op : UnaryOp) (operand : Expr)
  | binary (op : BinaryOp) (left right : Expr)
  /-- An expression in parentheses. -/
  | nested (inner : Expr)
  | between (negated : Bool) (value low high : Expr)
  | inList (negated : Bool) (value : Expr) (items : List Expr)
  | inQuery (negated : Bool) (value : Expr) (query : Query)
  | exists (negated : Bool) (query : Query)
  /-- A query in parentheses that stands for its value. -/
  | subquery (query : Query)
  /-- `ARRAY` of a query's rows. -/
  | arrayQuery (query : Query)
  | cast (form : CastForm) (value : Expr) (type : DataType)
  | case (operand : Option Expr) (conditions results : List Expr) (otherwise : Option Expr)
  /-- A call; `window` is its window and `orderBy` the order of its arguments, all phrases. -/
  | call (name : ObjectName) (distinct : Bool) (args : List Item) (treatment : String)
      (window : Option Expr) (orderBy : List Expr)
  /-- `TRIM` of `value`, with the words before it, of the characters of `what` if given. -/
  | trim (words : String) (value : Expr) (what : Option Expr)
  /-- Fixed words around operands: the first word, then each operand with the word after it. -/
  | phrase (words : List String) (operands : List Expr)

/-- An item of a select list, labelled by its alias, or of a call, labelled by a parameter. -/
inductive Item
  | expr (label : Option Ident) (value : Expr)
  /-- All columns, of one source if it is qualified. -/
  | star (label : Option Ident) (qualifier : ObjectName)

/-- A sort key; `words` holds its direction and the place of nulls as written. -/
inductive OrderKey
  | mk (value : Expr) (descending : Bool) (words : String)

/-- A query; `form` is the clause that says as what kind of document its rows are given back. -/
inductive Query
  | mk (recursive : Bool) (ctes : List Cte) (body : Body) (orderBy : List OrderKey)
      (limit offset fetch : Option Expr) (locks : List Lock) (form : Option String)

/-- A named query of a `WITH` clause. -/
inductive Cte
  | mk (asName : TableAlias) (query : Query) (source : Option Ident)

inductive Body
  | select (select : Select)
  | query (query : Query)
  | setOperation (words : String) (left right : Body)
  | values (explicitRow : Bool) (rows : List Expr)
  /-- Any other body by its canonical text: a table, or a statement that changes data. -/
  | other (text : String)

inductive Select
  | mk (distinctness : Distinctness) (keys : List Expr) (top : Option Expr) (items : List Item)
      (into : Option IntoTarget) (sources : List FromItem) (views : List Expr)
      (condition : Option Expr) (groupAll : Bool) (groupBy : List Expr)
      (clusterBy distributeBy sortBy : List Expr) (having : Option Expr)
      (windows : List Expr) (qualify : Option Expr)

/-- A source with the sources joined to it, from left to right. -/
inductive FromItem
  | mk (source : Source) (joins : List Join)

inductive Source
  /-- A named table, or a table function under that name. -/
  | table (name : ObjectName) (function : Bool) (args : List Item) (hints : List Expr)
      (partitions : List Ident) (asName : Option TableAlias)
  | derived (lateral : Bool) (query : Query) (asName : Option TableAlias)
  | nestedJoin (item : FromItem) (asName : Option TableAlias)
  /-- Any other source, by its canonical text. -/
  | foreign (text : String)

inductive Join
  | mk (kind : JoinKind) (natural : Bool) (source : Source) (on : Option Expr)
      (columns : List Ident)

end

/-- A statement. Of one that is no query nothing is kept. -/
inductive Statement
  | query (query : Query)
  | other
  /-- An `EXPLAIN` or `DESCRIBE`, which no other one may hold. -/
  | explain

end ScopedQuery.Sql
