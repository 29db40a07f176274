import ScopedQuery.Sql.Token
import ScopedQuery.Store.Basic
import ScopedQuery.Store.Pages
/-!
# Stores in files

`Store.ofFile` reads the tables of a database file. The first table of a file tells where the
others start and how they were defined; `Table.ofDefinition?` reads the columns from there.
-/

namespace ScopedQuery.Store

open Sql (Token)

/-! ### Definitions -/

/-- What stands between commas, the first of which is given backwards, up to the parenthesis that
closes a definition. -/
def splitParts (depth : Nat) (part : List Token) : List Token → List (List Token)
  | [] => [part.reverse]
  | token :: rest =>
    if token = .symbol "(" then splitParts (depth + 1) (token :: part) rest
    else if token = .symbol ")" then
      match depth with
      | 0 => [part.reverse]
      | outer + 1 => splitParts outer (token :: part) rest
    else if token = .symbol "," && depth = 0 then part.reverse :: splitParts 0 [] rest
    else splitParts depth (token :: part) rest

/-- The word of a token in upper case, unless it is quoted. -/
def bareWord (token : Token) : String :=
  match token with
  | .word text none _ => Text.upper text
  | _ => ""

/-- The name that a token is. -/
def nameOf? : Token → Option String
  | .word text _ _ => some text
  | .quotation _ text => some text
  | _ => none

/-- The words that end the type of a column. -/
def ruleWords : List String :=
  ["CONSTRAINT", "PRIMARY", "NOT", "NULL", "UNIQUE", "CHECK", "DEFAULT", "COLLATE", "REFERENCES",
   "GENERATED", "AS"]

/-- The words that start a rule of a whole table. -/
def tableWords : List String := ["CONSTRAINT", "PRIMARY", "UNIQUE", "CHECK", "FOREIGN"]

def typeWords (tokens : List Token) : List String :=
  (tokens.map bareWord).takeWhile fun word => word != "" && !ruleWords.contains word

/-- Whether a text occurs in one of some words. -/
def anyHas (words : List String) (piece : String) : Bool :=
  words.any fun word =>
    (List.range (word.length + 1)).any fun n => piece.toList.isPrefixOf (word.toList.drop n)

/-- The affinity of a column by the words of its type. -/
def affinityOf (words : List String) : Affinity :=
  if anyHas words "INT" then .integer
  else if ["CHAR", "CLOB", "TEXT"].any (anyHas words) then .text
  else if words.isEmpty || anyHas words "BLOB" then .any
  else if ["REAL", "FLOA", "DOUB"].any (anyHas words) then .real
  else .integer

/-- A column, and whether it is the key. -/
def columnOfPart? : List Token → Option (Column × Bool)
  | [] => none
  | first :: rest =>
    if tableWords.contains (bareWord first) then none
    else
      (nameOf? first).map fun name =>
        (⟨name, affinityOf (typeWords rest)⟩,
          typeWords rest == ["INTEGER"] && (rest.map bareWord).contains "PRIMARY")

/-- The table of that name and definition, without rows. Without a key of its own its rows are
only numbered. -/
def Table.ofDefinition? (name definition : String) : Option Table := do
  let tokens ← Token.ofText? definition
  let parts := splitParts 0 [] ((tokens.dropWhile (· != .symbol "(")).drop 1)
  let columns := parts.filterMap columnOfPart?
  return ⟨name, columns.map (·.1), (columns.findIdx? (·.2)).getD columns.length, []⟩

/-! ### Files -/

/-- A record as a row of as many cells as there are columns; the key is the row's number. -/
def Table.rowOf (t : Table) (record : Int × List Cell) : Row :=
  t.columns.zipIdx.map fun column =>
    if column.2 = t.key then .integer (.ofInt record.1)
    else
      match column.1.affinity, Table.cellAt record.2 column.2 with
      | .real, .integer n => .real n.toFloat
      | _, c => c

/-- The table that an entry of the first table tells of. -/
def tableOfEntry? (p : Pages) : List Cell → Option Table
  | [.text "table", .text name, _, .integer page, .text definition] => do
    let t ← Table.ofDefinition? name definition
    return { t with rows := (p.records page.toInt.toNat).map t.rowOf }
  | _ => none

end ScopedQuery.Store

namespace ScopedQuery

/-- The store in a file of some bytes; an empty file is an empty store. -/
def Store.ofFile (bytes : ByteArray) : Except StoreFault Store :=
  if bytes.isEmpty then .ok .empty
  else
    match Store.Pages.ofBytes? bytes with
    | none => .error .notStore
    | some p => .ok ⟨((p.records 1).map (·.2)).filterMap (Store.tableOfEntry? p)⟩

end ScopedQuery
