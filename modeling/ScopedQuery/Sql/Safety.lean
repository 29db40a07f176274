import ScopedQuery.Sql.Grammar.Statement
import ScopedQuery.Sql.Refusal
import ScopedQuery.Text.Lower
import ScopedQuery.Text.Sorted
/-!
# The safety check

* `Query.shapeFaults` lists what forbids the shape of a query and of the queries that stand for its
  body or are named in front of it.
* `Query.faults` lists what forbids anything inside of a query, in the order of reading, from
  outside to inside.
* `checkSafe` accepts a text that is one query without faults, and else gives the first fault. It
  crashes where reading the text does.
-/

namespace ScopedQuery.Sql

/-- A name as tables are compared by: its parts trimmed and in lower case. -/
def ObjectName.key (name : ObjectName) : String :=
  String.intercalate "." (name.map fun part => Text.toLower (Text.trim part.text))

/-! ### The shape of a query -/

mutual

def Query.shapeFaults : Query → List Refusal
  | .mk _ ctes body _ _ _ _ locks _ =>
    (if locks.isEmpty then [] else [.locking]) ++ Cte.shapeFaults ctes ++ body.shapeFaults

def Cte.shapeFaults : List Cte → List Refusal
  | [] => []
  | .mk _ query _ :: ctes => query.shapeFaults ++ Cte.shapeFaults ctes

def Body.shapeFaults : Body → List Refusal
  | .select (.mk _ _ _ _ into _ _ _ _ _ _ _ _ _ _ _) => if into.isSome then [.into] else []
  | .query query => query.shapeFaults
  | .setOperation _ _ _ => [.setOperation]
  | .values _ _ => [.notSelect]
  | .other _ => [.notSelect]

end

/-! ### All of a query -/

mutual

/-- What forbids an expression; `tables` are the keys of the tables that may be read. -/
def Expr.faults (tables : List String) : Expr → List Refusal
  | .name _ => []
  | .literal _ => []
  | .unary _ operand => operand.faults tables
  | .binary _ left right => left.faults tables ++ right.faults tables
  | .nested inner => inner.faults tables
  | .between _ value low high =>
    value.faults tables ++ low.faults tables ++ high.faults tables
  | .inList _ value items => value.faults tables ++ Expr.allFaults tables items
  | .inQuery _ value query =>
    query.shapeFaults ++ value.faults tables ++ query.faults tables
  | .exists _ query => query.shapeFaults ++ query.faults tables
  | .subquery query => query.shapeFaults ++ query.faults tables
  | .arrayQuery query => query.shapeFaults ++ query.faults tables
  | .cast _ value _ => value.faults tables
  | .case operand conditions results otherwise =>
    Expr.optionFaults tables operand ++ Expr.allFaults tables conditions ++
      Expr.allFaults tables results ++ Expr.optionFaults tables otherwise
  | .call _ _ args _ window orderBy =>
    Item.allFaults tables args ++ Expr.optionFaults tables window ++ Expr.allFaults tables orderBy
  | .trim _ value what => value.faults tables ++ Expr.optionFaults tables what
  | .phrase _ operands => Expr.allFaults tables operands

def Expr.allFaults (tables : List String) : List Expr → List Refusal
  | [] => []
  | e :: es => e.faults tables ++ Expr.allFaults tables es

def Expr.optionFaults (tables : List String) : Option Expr → List Refusal
  | none => []
  | some e => e.faults tables

def Item.faults (tables : List String) : Item → List Refusal
  | .expr _ value => value.faults tables
  | .star _ _ => []

def Item.allFaults (tables : List String) : List Item → List Refusal
  | [] => []
  | item :: items => item.faults tables ++ Item.allFaults tables items

def OrderKey.allFaults (tables : List String) : List OrderKey → List Refusal
  | [] => []
  | .mk value _ _ :: keys => value.faults tables ++ OrderKey.allFaults tables keys

/-- What forbids anything inside of a query; its own shape is not looked at. -/
def Query.faults (tables : List String) : Query → List Refusal
  | .mk _ ctes body orderBy limit offset fetch _ _ =>
    Cte.faults tables ctes ++ body.faults tables ++ OrderKey.allFaults tables orderBy ++
      Expr.optionFaults tables limit ++ Expr.optionFaults tables offset ++
      Expr.optionFaults tables fetch

def Cte.faults (tables : List String) : List Cte → List Refusal
  | [] => []
  | .mk _ query _ :: ctes => query.faults tables ++ Cte.faults tables ctes

def Body.faults (tables : List String) : Body → List Refusal
  | .select select => select.faults tables
  | .query query => query.faults tables
  | .setOperation _ left right => left.faults tables ++ right.faults tables
  | .values _ rows => Expr.allFaults tables rows
  | .other _ => []

def Select.faults (tables : List String) : Select → List Refusal
  | .mk _ keys top items _ sources views condition _ groupBy clusterBy distributeBy sortBy
      having windows qualify =>
    Expr.allFaults tables keys ++ Expr.optionFaults tables top ++
      Item.allFaults tables items ++ FromItem.allFaults tables sources ++
      Expr.allFaults tables views ++ Expr.optionFaults tables condition ++
      Expr.allFaults tables groupBy ++ Expr.allFaults tables clusterBy ++
      Expr.allFaults tables distributeBy ++ Expr.allFaults tables sortBy ++
      Expr.optionFaults tables having ++ Expr.allFaults tables windows ++
      Expr.optionFaults tables qualify

def FromItem.faults (tables : List String) : FromItem → List Refusal
  | .mk source joins => source.faults tables ++ Join.allFaults tables joins

def FromItem.allFaults (tables : List String) : List FromItem → List Refusal
  | [] => []
  | item :: items => item.faults tables ++ FromItem.allFaults tables items

def Source.faults (tables : List String) : Source → List Refusal
  | .table name _ args hints _ _ =>
    (if tables.contains (ObjectName.key name) then [] else [.foreignTable (ObjectName.key name)]) ++
      Item.allFaults tables args ++ Expr.allFaults tables hints
  | .derived _ query _ => query.shapeFaults ++ query.faults tables
  | .nestedJoin item _ => item.faults tables
  | .foreign text => [.foreignSource text]

def Join.allFaults (tables : List String) : List Join → List Refusal
  | [] => []
  | .mk _ _ source on _ :: joins =>
    source.faults tables ++ Expr.optionFaults tables on ++ Join.allFaults tables joins

end

/-! ### The check of a text -/

/-- A text as it is read for the check: a zero stands for each placeholder, and one space for each
run of blanks. -/
def normalised (text : String) : String :=
  Text.collapse (String.ofList (text.toList.map fun c => if c = '?' then '0' else c))

/-- What forbids a statement. -/
def Statement.faults (tables : List String) : Statement → List Refusal
  | .query only => only.shapeFaults ++ only.faults tables
  | .other => [.notQuery]
  | .explain => [.notQuery]

/-- The tables of a whitelist, as a set of keys. -/
def whitelist (tables : List String) : List String := Text.sorted (tables.map Text.toLower)

/-- Accepts the statements of a text if they are one query without faults. -/
def checkStatements (tables : List String) : List Statement → Except Refusal Unit
  | [statement] =>
    match statement.faults tables with
    | [] => .ok ()
    | fault :: _ => .error fault
  | statements => .error (.statementCount statements.length)

/-- Accepts a text that may be run, in which only the tables of a whitelist may be read, or gives the
first reason not to run it. -/
def checkSafe (tables : List String) (text : String) : Attempt Refusal Unit := do
  if Text.trim text = "" then throw .blank
  let statements ← (readStatements (normalised text)).mapError fun _ => .unreadable
  .ofExcept (checkStatements tables statements)

end ScopedQuery.Sql
