import ScopedQuery.Store.Term
import ScopedQuery.Store.Total
/-!
# Selections

A `Selection` is a query of a store: sources to join, a condition, what to show, groups, sort keys
and a limit. `Selection.run` answers it in steps that can be told apart:

* `joined` has the rows of all sources side by side,
* `selected` keeps those that fulfil the condition,
* `groups` puts rows together that agree on the grouping terms,
* `records` computes a record for each group, with the cells to sort it by; what is no aggregate is
  computed from the row that `shownRow` picks,
* and the records are sorted, cut off at the limit, and rid of the cells they were sorted by.
-/

namespace ScopedQuery.Store

/-- A table that is joined to the sources before it. An outer join keeps their rows that have no
partner. -/
structure JoinedTable where
  table : Table
  outer : Bool
  test : Test

/-- What is computed from a group of rows. -/
inductive Output
  /-- A term of one of the rows. -/
  | term (term : Term)
  | countRows
  | aggregate (agg : Aggregation) (term : Term)

/-- What is shown, under the name of its column. -/
structure NamedOutput where
  name : String
  output : Output

structure SortKey where
  output : Output
  descending : Bool

structure Selection where
  base : Table
  joins : List JoinedTable
  condition : Test
  items : List NamedOutput
  groupBy : List Term
  orderBy : List SortKey
  limit : Option Nat

namespace Output

def isAggregate : Output → Bool
  | term _ => false
  | _ => true

/-- The cell computed from the rows of a group, of which one is shown. -/
def eval (occasion : Occasion) (shown : Joined) (rows : List Joined) : Output → Except StoreFault Cell
  | term t => .ok (t.eval occasion shown)
  | countRows => .ok (countCell rows.length)
  | aggregate agg t => Store.aggregate agg (rows.map fun row => t.eval occasion row)

end Output

/-! ### Rows -/

/-- A row with each of its partners in a table, or with nulls if it has none and is kept. -/
def extendBy (table : Table) (outer : Bool) (test : Joined → Bool) (row : Joined) : List Joined :=
  let partners := (table.rows.map fun r => row ++ [r]).filter test
  if partners.isEmpty && outer then [row ++ [table.nullRow]] else partners

/-- The rows of a table, each of which is extended by one step after the other. -/
def joinRows (table : Table) (steps : List (Joined → List Joined)) : List Joined :=
  steps.foldl (fun rows step => rows.flatMap step) (table.rows.map fun r => [r])

def JoinedTable.extend (j : JoinedTable) (occasion : Occasion) : Joined → List Joined :=
  extendBy j.table j.outer (j.test.holds occasion)

/-- Whether the key of a joined table, which is the source at a place, is the same in all rows that
are joined to one row of the sources before. -/
def JoinedTable.isLookup (j : JoinedTable) (place : Nat) : Bool :=
  j.test.conjuncts.any fun
    | .compare .eq left right => isKey left && isEarlier right || isKey right && isEarlier left
    | _ => false
where
  isKey : Term → Bool
    | .cell source column _ => source == place && column == j.table.key
    | _ => false
  isEarlier (t : Term) : Bool := t.sources.all (· < place)

namespace Selection

/-- The rows of all sources side by side. -/
def joined (s : Selection) (occasion : Occasion) : List Joined :=
  joinRows s.base (s.joins.map fun j => j.extend occasion)

/-- The joined rows that fulfil the condition. -/
def selected (s : Selection) (occasion : Occasion) : List Joined :=
  (s.joined occasion).filter (s.condition.holds occasion)

/-! ### Sorting -/

/-- Whether one list of cells may stand before another one, the direction being given for each. -/
def inOrder : List Bool → List Cell → List Cell → Bool
  | descending :: rest, a :: as, b :: bs =>
    if a.lt b then !descending
    else if b.lt a then descending
    else inOrder rest as bs
  | _, _, _ => true

/-- Values sorted by their cells; the order of values with the same cells is kept. -/
def sortedBy {α : Type} (directions : List Bool) (rows : List (List Cell × α)) :
    List (List Cell × α) :=
  rows.mergeSort fun a b => inOrder directions a.1 b.1

/-- Whether two lists of cells are the same. -/
def sameKey : List Cell → List Cell → Bool
  | [], [] => true
  | a :: as, b :: bs => a.same b && sameKey as bs
  | _, _ => false

/-! ### Groups -/

/-- Whether rows are put together. -/
def isGrouped (s : Selection) : Bool :=
  !s.groupBy.isEmpty || s.items.any (·.output.isAggregate) || s.orderBy.any (·.output.isAggregate)

/-- Whether rows come in the order of their groups as they are: their first source's key is a
grouping term, and the cells of all grouping terms are found by it. -/
def comesGrouped (s : Selection) : Bool :=
  s.groupBy.any isKey && s.groupBy.all fun t => t.sources.all isFound
where
  isKey : Term → Bool
    | .cell 0 column _ => column == s.base.key
    | _ => false
  isFound : Nat → Bool
    | 0 => true
    | n + 1 => (s.joins[n]?).any fun j => j.isLookup (n + 1)

/-- The directions in which rows are sorted to form groups: those of the sort keys, if there are as
many of them. -/
def groupDirections (s : Selection) : List Bool :=
  if s.orderBy.length = s.groupBy.length then s.orderBy.map (·.descending)
  else s.groupBy.map fun _ => false

/-- The rows that agree on the grouping terms. They are sorted by these, unless they come in order. -/
def groupsOf (s : Selection) (occasion : Occasion) (rows : List Joined) : List (List Joined) :=
  let keyed := rows.map fun row => (s.groupBy.map (·.eval occasion row), row)
  let sorted := if s.comesGrouped then keyed else sortedBy s.groupDirections keyed
  (sorted.splitBy fun a b => sameKey a.1 b.1).map fun group => group.map (·.2)

/-- The groups of rows: each row by itself, all rows together, or rows that agree. -/
def groups (s : Selection) (occasion : Occasion) (rows : List Joined) : List (List Joined) :=
  if !s.isGrouped then rows.map fun row => [row]
  else if s.groupBy.isEmpty then [rows]
  else s.groupsOf occasion rows

/-! ### Records -/

/-- The least and the greatest cells that are asked for, each where it comes up first. The term has
the cells, and `true` stands for the greatest one. -/
def extremes (s : Selection) : List (Bool × Term) :=
  ((s.items.map (·.output) ++ s.orderBy.map (·.output)).filterMap fun
    | .aggregate .min t => some (false, t)
    | .aggregate .max t => some (true, t)
    | _ => none).eraseDups

/-- The row of a least or greatest cell: the first row that has it, or the last row if all cells are
null. -/
def extremeRow (occasion : Occasion) (greatest : Bool) (t : Term) (rows : List Joined) : Joined :=
  rows.foldl (fun best row =>
    let old := t.eval occasion best
    let new := t.eval occasion row
    if old.isNull || !new.isNull && (if greatest then old.lt new else new.lt old) then row else best)
    (rows.headD [])

/-- The row of a group that is shown beside its aggregates: that of the last of the least or greatest
cells that are asked for, else the first row. Where there are no rows, nulls are shown. -/
def shownRow (s : Selection) (occasion : Occasion) (rows : List Joined) : Joined :=
  match s.extremes.getLast? with
  | some (greatest, t) => extremeRow occasion greatest t rows
  | none => rows.headD []

/-- The cells to sort a group by, and the record of the group. -/
def record (s : Selection) (occasion : Occasion) (rows : List Joined) :
    Except StoreFault (List Cell × Row) := do
  let shown := s.shownRow occasion rows
  let cells ← s.items.mapM fun item => item.output.eval occasion shown rows
  let keys ← s.orderBy.mapM fun key => key.output.eval occasion shown rows
  return (keys, cells)

def records (s : Selection) (occasion : Occasion) : Except StoreFault (List (List Cell × Row)) :=
  (s.groups occasion (s.selected occasion)).mapM (s.record occasion)

/-- At most as many records as the limit says. -/
def limited (s : Selection) (rows : List Row) : List Row :=
  match s.limit with
  | some n => rows.take n
  | none => rows

/-- The records that answer the selection. -/
def run (s : Selection) (occasion : Occasion) : Except StoreFault (List Row) := do
  let records ← s.records occasion
  return s.limited ((sortedBy (s.orderBy.map (·.descending)) records).map (·.2))

end Selection

end ScopedQuery.Store
