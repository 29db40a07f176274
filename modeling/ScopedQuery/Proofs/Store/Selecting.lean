import ScopedQuery.Proofs.Store.Alike
import ScopedQuery.Proofs.Store.Engines
import ScopedQuery.Proofs.Store.Takes
/-!
# Engines that select rows first

What is relied on of an engine where rows must not matter that a query does not select. The engine may find
conditions true as it likes, and compute what it likes of the rows that are selected.

* `Truth`: which conditions an engine finds true.
* `SelectText.selected`: the joined rows for which the condition of a selection is true.
* `SelectsFirst`: what an engine answers depends on these rows only, and it understands AND and equations of
  columns.
-/

namespace ScopedQuery

open Sql

namespace Store

/-- Which conditions are true. A condition stands behind some placeholders and is asked of a row of each of some
sources. -/
abbrev Truth := Sources → Expr → Nat → Occasion → Joined → Bool

end Store

open Store

/-! ### Selected rows -/

namespace Sql.SelectText

/-- No placeholder stands before the condition. -/
structure BindsInCondition (x : SelectText) : Prop where
  items : ∀ item ∈ x.items, item.tree.holes? = some 0
  joins : ∀ j ∈ x.joins, j.condition.tree.holes? = some 0

/-- The sources of a selection in a store. -/
def sources (x : SelectText) (s : Store) : Except StoreFault Sources := do
  let first ← s.table? x.table
  let others ← x.joins.mapM fun j => do return (j.name, ← s.table? j.table)
  return (x.name, first) :: others

/-- The table of the source at a place. -/
def tableAt (sources : Sources) (place : Nat) : Table := ((sources[place]?).map (·.2)).getD .single

/-- The rows of sources side by side that fulfil the condition. Each joined source keeps the rows before it
that have no partner; its own condition may name the sources before it. Conditions are asked of sources
without their rows. -/
def selectedFrom (x : SelectText) (truth : Truth) (occasion : Occasion) (sources : Sources) : List Joined :=
  let extend (j : LeftJoin × Nat) : Joined → List Joined :=
    extendBy (tableAt sources (j.2 + 1)) true
      (truth (sources.headers.take (j.2 + 2)) j.1.condition.tree 0 occasion)
  (joinRows (tableAt sources 0) (x.joins.zipIdx.map extend)).filter
    (truth sources.headers x.condition.tree 0 occasion)

/-- The rows that a selection selects in a store. -/
def selected (x : SelectText) (truth : Truth) (occasion : Occasion) (s : Store) :
    Except StoreFault (List Joined) :=
  (x.sources s).map (x.selectedFrom truth occasion)

end Sql.SelectText

/-! ### Equations -/

namespace Store

/-- The affinity of the column at a place. -/
def Table.affinityAt (t : Table) (place : Nat) : Affinity :=
  ((t.columns[place]?).map (·.affinity)).getD .any

/-- Whether a row's cell in the column of that name is equal to a cell, as a query compares them. Where there
is no such column, no row has the cell. -/
def Table.hasCell (t : Table) (column : String) (value : Cell) (row : Row) : Bool :=
  match t.place? column with
  | none => false
  | some place =>
    let affinity := Test.sharedAffinity (t.affinityAt place) .any
    Test.compareCells .eq (affinity.compared (Table.cellAt row place)) (affinity.compared value) ==
      some true

/-- The cell that a literal stands for, or a placeholder behind some others. -/
def operandCell? (occasion : Occasion) (count : Nat) : Expr → Option Cell
  | .literal (.placeholder name) => if name = "?" then occasion.params[count]? else none
  | .literal value => (constantOf value).toOption
  | _ => none

/-! ### Engines -/

/-- What is relied on of an engine that finds conditions true. -/
structure SelectsFirst {ε : Type} (engine : Store → Calendar.Moment → SqlEngine ε) (truth : Truth) :
    Prop where
  /-- Rows are joined and tested first. So if the tables are the same but for their rows, and the same rows
  are selected, the answer is the same. -/
  answer : ∀ (s u : Store) (now : Calendar.Moment) (text : String) (x : SelectText) (params : List Param),
    Sql.statements? text = some [.query x.query] → x.BindsInCondition →
    (∀ name, (s.table? name).map (·.header) = (u.table? name).map (·.header)) →
    x.selected truth ⟨params.map Cell.ofParam, now⟩ s = x.selected truth ⟨params.map Cell.ofParam, now⟩ u →
      engine s now text params = engine u now text params
  /-- Two conditions joined by AND are true only if both of them are. -/
  and : ∀ (sources : Sources) (left right : Expr) (count k : Nat) (occasion : Occasion) (row : Joined),
    left.holes? = some k → truth sources (.binary .and left right) count occasion row = true →
      truth sources left count occasion row = true ∧
        truth sources right (count + k) occasion row = true
  /-- That a column of the first source is equal to a value is true only of rows that have this value. -/
  equation : ∀ (name : String) (table : Table) (others : Sources) (column : String) (operand : Expr)
    (cell : Cell) (count : Nat) (occasion : Occasion) (r : Row) (row : Joined),
    operandCell? occasion count operand = some cell →
    truth ((name, table) :: others) (.binary .eq (.column name column) operand) count occasion (r :: row) =
      true → table.hasCell column cell r = true

/-! ### Rows that are not selected -/

/-- Joining keeps the row in front. -/
theorem head?_extendBy {table : Table} {outer : Bool} {test : Joined → Bool} {row joined : Joined} {r : Row}
    (hrow : row.head? = some r) (h : joined ∈ extendBy table outer test row) : joined.head? = some r := by
  have hfront : ∀ other : Row, (row ++ [other]).head? = some r := by
    intro other
    rw [List.head?_append, hrow, Option.some_or]
  simp only [extendBy] at h
  split at h
  · rw [List.mem_singleton.mp h]
    exact hfront _
  · obtain ⟨other, -, rfl⟩ := List.mem_map.mp (List.mem_of_mem_filter h)
    exact hfront other

/-- A step keeps the row in front. -/
def KeepsFirst (step : Joined → List Joined) : Prop :=
  ∀ (row joined : Joined) (r : Row), row.head? = some r → joined ∈ step row → joined.head? = some r

/-- Rows are extended one by one. -/
theorem foldl_steps (steps : List (Joined → List Joined)) (rows : List Joined) :
    steps.foldl (fun rows step => rows.flatMap step) rows =
      rows.flatMap fun row => steps.foldl (fun rows step => rows.flatMap step) [row] := by
  induction steps generalizing rows with
  | nil => simp
  | cons step steps ih =>
    rw [List.foldl_cons, ih, List.flatMap_assoc]
    congr 1
    funext row
    rw [List.foldl_cons, List.flatMap_singleton, ← ih]

theorem head?_foldl_steps {steps : List (Joined → List Joined)} (hsteps : ∀ step ∈ steps, KeepsFirst step)
    {r : Row} {rows : List Joined} (hrows : ∀ row ∈ rows, row.head? = some r) :
    ∀ row ∈ steps.foldl (fun rows step => rows.flatMap step) rows, row.head? = some r := by
  induction steps generalizing rows with
  | nil => exact hrows
  | cons step steps ih =>
    apply ih fun other hother => hsteps other (List.mem_cons_of_mem step hother)
    intro row hrow
    obtain ⟨first, hfirst, hextend⟩ := List.mem_flatMap.mp hrow
    exact hsteps step List.mem_cons_self first row r (hrows first hfirst) hextend

/-- Rows of the first table for which no joined row passes a test can be left out beforehand. -/
theorem filter_joinRows {steps : List (Joined → List Joined)} (hsteps : ∀ step ∈ steps, KeepsFirst step)
    {test : Joined → Bool} {visible : Row → Bool}
    (hvisible : ∀ r row, test (r :: row) = true → visible r = true) (t : Table) :
    (joinRows t steps).filter test = (t.rows.filter visible).flatMap fun r =>
      (steps.foldl (fun rows step => rows.flatMap step) [[r]]).filter test := by
  rw [joinRows, foldl_steps, List.flatMap_map, List.filter_flatMap]
  induction t.rows with
  | nil => rfl
  | cons r rows ih =>
    rw [List.flatMap_cons, List.filter_cons, ih]
    split
    · rw [List.flatMap_cons]
    · next hr =>
      have hnone : (steps.foldl (fun rows step => rows.flatMap step) [[r]]).filter test = [] := by
        rw [List.filter_eq_nil_iff]
        intro row hrow htest
        have hone : ∀ row ∈ [[r]], row.head? = some r := by simp
        have hfront := head?_foldl_steps hsteps hone row hrow
        obtain ⟨rest, rfl⟩ := List.head?_eq_some_iff.mp hfront
        exact hr (hvisible r rest htest)
      rw [hnone, List.nil_append]

end Store

/-- A selection from two tables that differ at most in rows for which its condition is not true. -/
theorem Sql.SelectText.selectedFrom_eq {x : SelectText} {truth : Truth} {occasion : Occasion} {name : String}
    {t u : Table} {others : Sources} {visible : Row → Bool} (hheader : t.header = u.header)
    (hvisible : ∀ r row, truth (Sources.headers ((name, t) :: others)) x.condition.tree 0 occasion (r :: row) =
      true → visible r = true)
    (hrows : t.rows.filter visible = u.rows.filter visible) :
    x.selectedFrom truth occasion ((name, t) :: others) =
      x.selectedFrom truth occasion ((name, u) :: others) := by
  have hheaders : Sources.headers ((name, t) :: others) = Sources.headers ((name, u) :: others) := by
    simp only [Sources.headers, List.map_cons, hheader]
  have htables : ∀ place, tableAt ((name, t) :: others) (place + 1) =
      tableAt ((name, u) :: others) (place + 1) := fun _ => rfl
  have hkeeps : ∀ step ∈ x.joins.zipIdx.map fun j : LeftJoin × Nat =>
      extendBy (tableAt ((name, u) :: others) (j.2 + 1)) true
        (truth ((Sources.headers ((name, u) :: others)).take (j.2 + 2)) j.1.condition.tree 0 occasion),
      KeepsFirst step := by
    intro step hstep
    obtain ⟨j, -, rfl⟩ := List.mem_map.mp hstep
    exact fun row joined r hrow hjoined => head?_extendBy hrow hjoined
  rw [hheaders] at hvisible
  simp only [selectedFrom, htables, hheaders]
  rw [filter_joinRows hkeeps hvisible, filter_joinRows hkeeps hvisible]
  show (t.rows.filter visible).flatMap _ = (u.rows.filter visible).flatMap _
  rw [hrows]

/-! ### Parts of conditions -/

namespace Store.SelectsFirst

variable {ε : Type} {engine : Store → Calendar.Moment → SqlEngine ε} {truth : Truth}
  (h : SelectsFirst engine truth)

include h

/-- The parts of a condition are true where it is, each behind the placeholders of the parts before. -/
theorem parts {α : Type} {count : α → Nat} {as : List α} {c : Conjunction} {sources : Sources} {n : Nat}
    {occasion : Occasion} {row : Joined} (hfirst : c.first.tree.holes? = some 0)
    (hfurther : List.Forall₂ (fun a x => (ExprText.tree x).holes? = some (count a)) as c.further)
    (htrue : truth sources c.tree n occasion row = true) :
    truth sources c.first.tree n occasion row = true ∧
      ∀ k x, c.further[k]? = some x →
        truth sources x.tree (n + ((as.take k).map count).sum) occasion row = true := by
  have hall : ∀ (as : List α) (xs : List ExprText) (e : Expr) (l : Nat), e.holes? = some l →
      List.Forall₂ (fun a x => (ExprText.tree x).holes? = some (count a)) as xs →
      truth sources (xs.foldl (fun left x => .binary .and left x.tree) e) n occasion row = true →
        truth sources e n occasion row = true ∧ ∀ k x, xs[k]? = some x →
          truth sources x.tree (n + (l + ((as.take k).map count).sum)) occasion row = true := by
    intro as xs e l hl hcounts
    induction hcounts generalizing e l with
    | nil => exact fun htrue => ⟨htrue, fun k x hx => by cases hx⟩
    | @cons a y as ys hy _ ih =>
      intro htrue
      obtain ⟨hboth, hrest⟩ := ih (.binary .and e y.tree) (l + count a)
        (Expr.holes?_binary.mpr ⟨l, count a, hl, hy, rfl⟩) htrue
      obtain ⟨hleft, hright⟩ := h.and sources e y.tree n l occasion row hl hboth
      refine ⟨hleft, fun k x hx => ?_⟩
      cases k with
      | zero =>
        obtain rfl := Option.some.inj hx
        exact hright
      | succ k =>
        have htrue' := hrest k x hx
        rwa [Nat.add_assoc] at htrue'
  obtain ⟨hleft, hrest⟩ := hall as c.further c.first.tree 0 hfirst hfurther htrue
  refine ⟨hleft, fun k x hx => ?_⟩
  have htrue' := hrest k x hx
  rwa [Nat.zero_add] at htrue'

end Store.SelectsFirst

end ScopedQuery
