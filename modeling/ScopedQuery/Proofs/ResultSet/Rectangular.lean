import Mathlib.Tactic.Common
import ScopedQuery.Proofs.ResultSet.Truncated
import ScopedQuery.Proofs.Steps
import ScopedQuery.ResultSet.Csv
/-!
# Rectangular results

* `ResultSet.Rectangular`: each row has a cell for each column.
* `ResultSet.CutOf`: a result with rows dropped, by `ResultSet.truncate` once or any number of times. It
  stays rectangular.
* `ResultSet.csv?_eq_ok`: just rectangular results can be written as comma-separated values.
* `ResultSet.answer_eq`: what is said of such a result names its columns, and no others.
-/

namespace ScopedQuery.ResultSet

open Json (Value)

/-- Each row has a cell for each column. -/
def Rectangular (r : ResultSet) : Prop := ∀ row ∈ r.rows, row.length = r.columns.length

/-! ### Rows that are dropped -/

/-- A result with some of the last rows of another one dropped. -/
structure CutOf (r' r : ResultSet) : Prop where
  columns : r'.columns = r.columns
  rowCount : r'.rowCount = r.rowCount
  rows : r'.rows <+: r.rows

theorem cutOf_truncate (r : ResultSet) (count : Nat) : (r.truncate count).CutOf r := by
  rw [truncate_eq]
  exact ⟨rfl, rfl, List.take_prefix count r.rows⟩

/-- Rows may be dropped any number of times. -/
theorem cutOf_foldl_truncate (r : ResultSet) (counts : List Nat) : (counts.foldl truncate r).CutOf r := by
  rw [foldl_truncate_eq]
  exact r.cutOf_truncate _

theorem Rectangular.cut {r r' : ResultSet} (h : r.Rectangular) (hcut : r'.CutOf r) : r'.Rectangular := by
  intro row hrow
  rw [hcut.columns]
  exact h row (hcut.rows.subset hrow)

/-! ### Comma-separated values -/

/-- The line of the names of the columns, and a line for each row. -/
def csvText (r : ResultSet) : String :=
  String.join (Csv.record r.columns :: r.rows.map fun row => Csv.record (row.map cellText))

theorem csvRow_eq_ok {r : ResultSet} {row : List Value} {line : String} :
    r.csvRow row = .ok line ↔ row.length = r.columns.length ∧ Csv.record (row.map cellText) = line := by
  unfold csvRow
  by_cases h : row.length = r.columns.length
  · simp [h]
  · simp [h]

/-- Just rectangular results can be written. -/
theorem csv?_eq_ok {r : ResultSet} {text : String} : r.csv? = .ok text ↔ r.Rectangular ∧ r.csvText = text := by
  simp only [csv?, Steps.bind_eq_ok, Steps.mapM_eq_ok, Steps.pure_eq_ok, csvRow_eq_ok]
  constructor
  · rintro ⟨lines, hlines, rfl⟩
    have hrows : r.rows.map (fun row => Csv.record (row.map cellText)) = lines := by
      rw [← List.forall₂_eq_eq_eq, List.forall₂_map_left_iff]
      exact hlines.imp fun _ _ h => h.2
    refine ⟨fun row hrow => ?_, by rw [csvText, hrows]⟩
    obtain ⟨k, hk⟩ := List.mem_iff_getElem?.mp hrow
    obtain ⟨line, -, hline⟩ := Steps.exists_partner hlines hk
    exact hline.1
  · rintro ⟨h, rfl⟩
    refine ⟨_, ?_, rfl⟩
    rw [List.forall₂_map_right_iff, List.forall₂_same]
    exact fun row hrow => ⟨h row hrow, rfl⟩

/-! ### One line about the rows -/

/-- One line about rows whose columns have these names. -/
def lineAbout (names : List String) : List (List Value) → String
  | [] => "No matching data."
  | [row] =>
    "Result: " ++ String.intercalate ", "
      (List.zipWith (fun name v => name ++ "=" ++ displayText v) names row)
  | rows => "Returned " ++ toString rows.length ++ " rows."

/-- The cells of a row stand behind the names of their columns. -/
theorem rowText_eq {r : ResultSet} {row : List Value} (h : row.length = r.columns.length) :
    r.rowText row = String.intercalate ", "
      (List.zipWith (fun name v => name ++ "=" ++ displayText v) r.columns row) := by
  rw [rowText]
  congr 1
  refine List.ext_getElem? fun i => ?_
  rw [List.getElem?_map, List.getElem?_zipIdx, List.getElem?_zipWith, Option.map_map]
  by_cases hi : i < row.length
  · have hi' : i < r.columns.length := h ▸ hi
    simp [columnName, List.getElem?_eq_getElem hi, List.getElem?_eq_getElem hi']
  · have hi' : ¬i < r.columns.length := h ▸ hi
    simp [List.getElem?_eq_none (not_lt.mp hi), List.getElem?_eq_none (not_lt.mp hi')]

theorem answer_eq {r : ResultSet} (h : r.Rectangular) (hne : r.columns ≠ []) :
    r.answer = lineAbout r.columns r.rows := by
  unfold answer
  cases hrows : r.rows with
  | nil => rfl
  | cons row rest =>
    have hrow : row.length = r.columns.length := h row (by rw [hrows]; exact List.mem_cons_self)
    cases rest with
    | cons next rest => cases row <;> rfl
    | nil =>
      cases row with
      | nil => exact absurd (List.length_eq_zero_iff.mp hrow.symm) hne
      | cons cell row =>
        show "Result: " ++ r.rowText (cell :: row) = lineAbout r.columns [cell :: row]
        rw [rowText_eq hrow, lineAbout]

end ScopedQuery.ResultSet
