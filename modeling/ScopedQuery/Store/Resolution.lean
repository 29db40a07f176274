import ScopedQuery.Sql.Canonical
import ScopedQuery.Store.Selection
/-!
# From syntax to selections

`Selection.ofQuery` gives the names in a query their meaning in a store. Placeholders are numbered
in the order in which they are written.

* `Term.ofExpr`, `Test.ofExpr` and `Output.ofExpr` resolve expressions by what is wanted of them.
* `Sources` says which columns can be named.
-/

namespace ScopedQuery.Store

open Sql (Expr Item OrderKey Join JoinKind FromItem ObjectName Literal BinaryOp)

/-- A step that counts the placeholders resolved so far. -/
abbrev Resolving := StateT Nat (Except StoreFault)

def refuse {α : Type} (fault : StoreFault) : Resolving α := fun _ => .error fault

/-- The sources whose columns can be named, each under its own name. -/
abbrev Sources := List (String × Table)

/-! ### Columns -/

/-- The column at a place of a source. -/
def columnTerm (source : Nat) (table : Table) (place : Nat) : Term :=
  .cell source place (((table.columns[place]?).map (·.affinity)).getD .any)

/-- The columns of that name, in any of some sources, the first of which is at a place. -/
def columnsNamed (column : String) (sources : Sources) : List Term :=
  sources.zipIdx.filterMap fun source =>
    (source.1.2.place? column).map (columnTerm source.2 source.1.2)

/-- The column of a source. -/
def columnOf? (sources : Sources) (source column : String) : Option Term := do
  let index ← sources.findIdx? fun s => Text.sameFold s.1 source
  let table ← (sources[index]?).map (·.2)
  return columnTerm index table (← table.place? column)

def columnNamed (sources : Sources) : ObjectName → Except StoreFault Term
  | [column] =>
    match columnsNamed column.text sources with
    | [] => .error (.noSuchColumn column.text)
    | [term] => .ok term
    | _ => .error (.ambiguousColumn column.text)
  | [source, column] =>
    match columnOf? sources source.text column.text with
    | some term => .ok term
    | none => .error (.noSuchColumn (source.text ++ "." ++ column.text))
  | _ => .error .unsupported

/-! ### Terms -/

/-- The parameter of the next placeholder. -/
def nextParam : Resolving Term := fun count => .ok (.param count, count + 1)

def constantOf : Literal → Except StoreFault Cell
  | .number digits _ =>
    match Cell.numeral? digits with
    | some cell => .ok cell
    | none => .error .unsupported
  | .text .single value => .ok (.text value)
  | .boolean value => .ok (.integer (if value then 1 else 0))
  | .null => .ok .null
  | _ => .error .unsupported

/-- Whether a call is one of the function of that name. -/
def isCallOf (word : String) : ObjectName → Bool
  | [name] => Text.sameFold name.text word
  | _ => false

/-- Whether the arguments of a call ask for the present time. -/
def areNow : List Item → Bool
  | [.expr none (.literal (.text .single moment)), .expr none (.literal (.text .single zone))] =>
    moment == "now" && zone == "localtime"
  | _ => false

mutual

def Term.ofExpr (sources : Sources) : Expr → Resolving Term
  | .name parts =>
    match columnNamed sources parts with
    | .ok term => return term
    | .error fault => refuse fault
  | .literal (.placeholder _) => nextParam
  | .literal value =>
    match constantOf value with
    | .ok kept => return .constant kept
    | .error fault => refuse fault
  | .nested inner => Term.ofExpr sources inner
  | .binary .minus left right => do
    let a ← Term.ofExpr sources left
    return .difference a (← Term.ofExpr sources right)
  | .cast .cast value (.standard "INTEGER") => do return .truncated (← Term.ofExpr sources value)
  | .call name false args "" none [] =>
    if isCallOf "julianday" name then
      if areNow args then return .today else do
        match ← Term.ofArgs sources args with
        | [moment] => return .julianDay moment
        | _ => refuse .unsupported
    else refuse .unsupported
  | _ => refuse .unsupported

def Term.ofItem (sources : Sources) : Item → Resolving Term
  | .expr _ value => Term.ofExpr sources value
  | .star _ _ => refuse .unsupported

def Term.ofArgs (sources : Sources) : List Item → Resolving (List Term)
  | [] => return []
  | item :: items => do
    let term ← Term.ofItem sources item
    return term :: (← Term.ofArgs sources items)

end

/-! ### Tests -/

/-- The comparison that an operator is. -/
def compareOp? : BinaryOp → Option CompareOp
  | .eq => some .eq
  | .ne => some .ne
  | .gt => some .gt
  | .ge => some .gte
  | .lt => some .lt
  | .le => some .lte
  | _ => none

def negatedIf (negated : Bool) (test : Test) : Test := if negated then .not test else test

/-- A test of terms. -/
def Test.ofTerms (sources : Sources) : Expr → Resolving Test
  | .binary op left right =>
    match compareOp? op with
    | none => refuse .unsupported
    | some op => do
      let a ← Term.ofExpr sources left
      return .compare op a (← Term.ofExpr sources right)
  | .between negated value low high => do
    let v ← Term.ofExpr sources value
    let l ← Term.ofExpr sources low
    return negatedIf negated (.between v l (← Term.ofExpr sources high))
  | .inList negated value items => do
    let v ← Term.ofExpr sources value
    return negatedIf negated (.oneOf v (← items.mapM (Term.ofExpr sources)))
  | .phrase ["", " IS NULL"] [value] => do return .isNull (← Term.ofExpr sources value)
  | .phrase ["", " IS NOT NULL"] [value] => do return .not (.isNull (← Term.ofExpr sources value))
  | _ => refuse .unsupported

def Test.ofExpr (sources : Sources) : Expr → Resolving Test
  | .nested inner => Test.ofExpr sources inner
  | .unary .not operand => do return .not (← Test.ofExpr sources operand)
  | .binary .and left right => do
    let a ← Test.ofExpr sources left
    return .and a (← Test.ofExpr sources right)
  | .binary .or left right => do
    let a ← Test.ofExpr sources left
    return .or a (← Test.ofExpr sources right)
  | e => Test.ofTerms sources e

/-- The test of an optional condition. -/
def Test.ofOption (sources : Sources) : Option Expr → Resolving Test
  | none => return .always
  | some e => Test.ofExpr sources e

/-! ### Outputs -/

/-- The aggregation that a call makes of its argument. -/
def aggregationOf? (name : ObjectName) (distinct : Bool) : Option Aggregation :=
  if distinct then if isCallOf "COUNT" name then some .countDistinct else none
  else [.count, .sum, .avg, .min, .max].find? fun agg => isCallOf agg.code name

def Output.ofExpr (sources : Sources) (e : Expr) : Resolving Output :=
  match e with
  | .call name distinct args "" none [] =>
    match aggregationOf? name distinct with
    | none => do return .term (← Term.ofExpr sources e)
    | some agg =>
      match args with
      | [.star none []] => if agg = .count then return .countRows else refuse .unsupported
      | [.expr none value] => do return .aggregate agg (← Term.ofExpr sources value)
      | _ => refuse .unsupported
  | _ => do return .term (← Term.ofExpr sources e)

/-- The name of a column that has no alias: that of a column of a table, or the expression. -/
def itemName : Expr → String
  | .name parts => ((parts.getLast?).map (·.text)).getD ""
  | e => e.written

/-- All columns of the sources, or of one of them. -/
def starItems (sources : Sources) : ObjectName → Except StoreFault (List NamedOutput)
  | [] => .ok ((sources.zipIdx.map fun s => columns s.2 s.1.2).flatten)
  | [source] =>
    match sources.findIdx? fun s => Text.sameFold s.1 source.text with
    | none => .error (.noSuchTable source.text)
    | some index =>
      match sources[index]? with
      | none => .error (.noSuchTable source.text)
      | some s => .ok (columns index s.2)
  | _ => .error .unsupported
where
  columns (index : Nat) (table : Table) : List NamedOutput :=
    table.columns.zipIdx.map fun c => ⟨c.1.name, .term (columnTerm index table c.2)⟩

def NamedOutput.ofItem (sources : Sources) : Item → Resolving (List NamedOutput)
  | .expr (some label) value => do return [⟨label.text, ← Output.ofExpr sources value⟩]
  | .expr none value => do return [⟨itemName value, ← Output.ofExpr sources value⟩]
  | .star _ qualifier =>
    match starItems sources qualifier with
    | .ok items => return items
    | .error fault => refuse fault

/-- The item that a sort key names by its alias. -/
def aliased? (items : List NamedOutput) : Expr → Option Output
  | .name [name] => (items.find? fun item => Text.sameFold item.name name.text).map (·.output)
  | _ => none

def SortKey.ofKey (sources : Sources) (items : List NamedOutput) : OrderKey → Resolving SortKey
  | .mk value descending words =>
    if !(["", " ASC", " DESC"].contains words) then refuse .unsupported
    else
      match aliased? items value with
      | some output => return ⟨output, descending⟩
      | none => do return ⟨← Output.ofExpr sources value, descending⟩

/-! ### Sources -/

/-- A table of the store, under its alias or its own name. -/
def namedTable (store : Store) : Sql.Source → Except StoreFault (String × Table)
  | .table [name] false [] [] [] asName => do
    let table ← store.table? name.text
    match asName with
    | none => return (name.text, table)
    | some ⟨label, []⟩ => return (label.text, table)
    | some _ => throw .unsupported
  | _ => throw .unsupported

/-- Whether a kind of join keeps rows without partners. -/
def isOuter? : JoinKind → Option Bool
  | .inner => some false
  | .cross => some false
  | .left => some true
  | _ => none

/-- The tables of a source and its joins; the first of them is what the others are joined to. -/
def joinedSources (store : Store) : List FromItem → Except StoreFault (Sources × List Join)
  | [] => .ok ([], [])
  | [.mk source joins] => do
    let first ← namedTable store source
    let others ← joins.mapM fun
      | .mk _ _ source _ _ => namedTable store source
    return (first :: others, joins)
  | _ => .error .unsupported

/-- Resolves the condition of a join; of the sources those before it and its own can be named. -/
def joinedTable (sources : Sources) : (Join × Nat) → Resolving JoinedTable
  | (.mk kind false _ on [], index) =>
    match isOuter? kind, sources[index + 1]? with
    | some outer, some (_, table) => do
      return ⟨table, outer, ← Test.ofOption (sources.take (index + 2)) on⟩
    | _, _ => refuse .unsupported
  | _ => refuse .unsupported

/-- The number of a limit. -/
def limitOf : Option Expr → Except StoreFault (Option Nat)
  | none => .ok none
  | some (.literal (.number digits _)) =>
    match Decimal.digits? digits.toList with
    | some n => .ok (some n)
    | none => .error .unsupported
  | some _ => .error .unsupported

/-! ### Queries -/

/-- The selection of a `SELECT` from tables of a store. -/
def Selection.ofParts (sources : Sources) (items : List Item) (joins : List Join)
    (condition : Option Expr) (groupBy : List Expr) (orderBy : List OrderKey)
    (limit : Option Expr) : Resolving Selection := do
  let outputs ← items.mapM (NamedOutput.ofItem sources)
  let joined ← joins.zipIdx.mapM (joinedTable sources)
  let test ← Test.ofOption sources condition
  let groups ← groupBy.mapM (Term.ofExpr sources)
  let keys ← orderBy.mapM (SortKey.ofKey sources outputs.flatten)
  match limitOf limit with
  | .error fault => refuse fault
  | .ok bound =>
    return {
      base := (sources.head?.map (·.2)).getD .single
      joins := joined, condition := test, items := outputs.flatten, groupBy := groups
      orderBy := keys, limit := bound }

/-- The selection that a query is, with the number of its placeholders. -/
def Selection.ofQuery (store : Store) : Sql.Query → Except StoreFault (Selection × Nat)
  | .mk false [] (.select select) orderBy limit none none [] none =>
    match select with
    | .mk .none [] none items none tables [] condition false groupBy [] [] [] none [] none => do
      let (sources, joins) ← joinedSources store tables
      (Selection.ofParts sources items joins condition groupBy orderBy limit).run 0
    | _ => throw .unsupported
  | _ => throw .unsupported

end ScopedQuery.Store
