import ScopedQuery.Failure
import ScopedQuery.Store.Affinity
import ScopedQuery.Text.Case
/-!
# Stores

A `Store` holds tables of rows. The rows of a table are kept in the order of its key, a column of
integers that tells rows apart.

* `Store.insert` adds a row, `Store.assign` gives a column of some rows a new cell.
* `Store.table?` finds a table by its name.
-/

namespace ScopedQuery

namespace Store

structure Column where
  name : String
  affinity : Affinity
deriving DecidableEq, Repr

abbrev Row := List Cell

structure Table where
  name : String
  columns : List Column
  /-- The place of the key among the columns. -/
  key : Nat
  rows : List Row

namespace Table

/-- A row's cell at a place. -/
def cellAt (row : Row) (place : Nat) : Cell := (row[place]?).getD .null

/-- The place of the column of that name. -/
def place? (t : Table) (column : String) : Option Nat :=
  t.columns.findIdx? fun c => Text.sameFold c.name column

/-- A row as the columns keep it. -/
def storedRow (t : Table) (row : Row) : Row :=
  t.columns.zipIdx.map fun column => column.1.affinity.stored (cellAt row column.2)

/-- The table that is selected from where no table is named: one row without cells. -/
def single : Table := ⟨"", [], 0, [[]]⟩

/-- A row of nulls. -/
def nullRow (t : Table) : Row := t.columns.map fun _ => .null

/-- The number after the highest key. -/
def nextKey (t : Table) : Cell :=
  match t.rows.getLast? with
  | none => .integer 1
  | some row =>
    match cellAt row t.key with
    | .integer n => .integer (n + 1)
    | _ => .integer 1

/-- A row with a key, or with a new key in place of null. -/
def keyed (t : Table) (row : Row) : Except StoreFault Row :=
  match cellAt row t.key with
  | .null => .ok (row.set t.key t.nextKey)
  | .integer _ => .ok row
  | _ => .error .wrongType

/-- Puts a row among rows that are in the order of their keys. -/
def place (key : Nat) (row : Row) : List Row → List Row
  | [] => [row]
  | first :: rest =>
    if (cellAt row key).lt (cellAt first key) then row :: first :: rest
    else first :: place key row rest

/-- The table with another row; its key must be new. -/
def insert (t : Table) (row : Row) : Except StoreFault Table := do
  let row ← t.keyed (t.storedRow row)
  if t.rows.any fun other => (cellAt other t.key).same (cellAt row t.key) then
    throw (.duplicateKey t.name)
  return { t with rows := place t.key row t.rows }

/-- The table with a cell in place of that of the rows with a key. -/
def assign (t : Table) (place : Nat) (cell key : Cell) : Table :=
  let kept := match t.columns[place]? with
    | some column => column.affinity.stored cell
    | none => cell
  { t with
    rows := t.rows.map fun row =>
      if (cellAt row t.key).same key then row.set place kept else row }

end Table

end Store

structure Store where
  tables : List Store.Table

namespace Store

def empty : Store := ⟨[]⟩

/-- The table of that name, whatever its case. -/
def table? (s : Store) (name : String) : Except StoreFault Table :=
  match s.tables.find? fun t => Text.sameFold t.name name with
  | some t => .ok t
  | none => .error (.noSuchTable name)

/-- The store with another table in place of the one of its name. -/
def replace (s : Store) (table : Table) : Store :=
  ⟨s.tables.map fun t => if t.name = table.name then table else t⟩

def insert (s : Store) (name : String) (row : Row) : Except StoreFault Store := do
  let t ← s.table? name
  return s.replace (← t.insert row)

/-- Gives the column of the rows with a key a new cell. -/
def assign (s : Store) (name column : String) (cell key : Cell) : Except StoreFault Store := do
  let t ← s.table? name
  match t.place? column with
  | some place => return s.replace (t.assign place cell key)
  | none => throw (.noSuchColumn column)

/-! ### The tables behind the dataset of project tasks -/

namespace Table

/-- A table whose first column is its key. -/
def keyedBy (name : String) (columns : List Column) : Table := ⟨name, columns, 0, []⟩

def users : Table :=
  keyedBy "sys_user" [⟨"id", .integer⟩, ⟨"username", .text⟩, ⟨"deleted", .integer⟩]

def batches : Table :=
  keyedBy "project_task_batch" [⟨"id", .integer⟩, ⟨"title", .text⟩, ⟨"deleted", .integer⟩]

def tasks : Table :=
  keyedBy "project_task"
    [⟨"id", .integer⟩, ⟨"batch_id", .integer⟩, ⟨"title", .text⟩, ⟨"status", .text⟩,
     ⟨"assignee_id", .integer⟩, ⟨"created_by", .integer⟩, ⟨"published_time", .text⟩,
     ⟨"workload_man_day", .real⟩, ⟨"deleted", .integer⟩]

end Table

/-- The store of project tasks without any row. -/
def ofTasks : Store := ⟨[.users, .batches, .tasks]⟩

end Store

end ScopedQuery
