import Mathlib.Data.List.Perm.Basic
import Mathlib.Tactic.Common
import ScopedQuery.ResultSet.Basic
/-!
# Truncated results

* `ResultSet.truncate_eq` says what is left of a result, and what is noted of it.
* `ResultSet.truncate_truncate`: truncating twice is truncating once, to the lesser of the two counts. So any
  number of truncations is one (`foldl_truncate_eq`), and their order does not count (`foldl_truncate_perm`).
* `ResultSet.Accounted`: dropped rows are accounted for. `Accounted.truncate` says that they stay so.
* `ResultSet.foldl_truncate_ofRows`: what any number of truncations leaves of all rows of a query.
-/

namespace ScopedQuery.ResultSet

open Json (Value)

/-! ### One truncation -/

/-- At most so many rows are left; whether rows were dropped is noted. -/
theorem truncate_eq (r : ResultSet) (count : Nat) :
    r.truncate count =
      { r with
        rows := r.rows.take count
        truncated := r.truncated || decide (count < r.rows.length) } := by
  rw [truncate]
  by_cases h : count < r.rows.length
  · simp [h]
  · simp [h, List.take_of_length_le (Nat.le_of_not_lt h)]

/-- Nothing is dropped, or noted, if there are no more rows than that. -/
theorem truncate_of_length_le {r : ResultSet} {count : Nat} (h : r.rows.length ≤ count) :
    r.truncate count = r := by
  rw [truncate, if_neg (Nat.not_lt.mpr h)]

/-! ### Many truncations -/

/-- Of two truncations the one to the lesser count is enough. -/
theorem truncate_truncate (r : ResultSet) (m n : Nat) :
    (r.truncate m).truncate n = r.truncate (min m n) := by
  have hrows : (r.rows.take m).take n = r.rows.take (min m n) := by
    rw [List.take_take, Nat.min_comm]
  -- the second truncation looks at what the first one left, and rows missing from that stay noted
  have hnoted : (decide (m < r.rows.length) || decide (n < (r.rows.take m).length)) =
      decide (min m n < r.rows.length) := by
    rw [← Bool.decide_or, decide_eq_decide, List.length_take]
    omega
  simp only [truncate_eq, hrows, Bool.or_assoc, hnoted]

theorem foldl_truncate (r : ResultSet) (count : Nat) (counts : List Nat) :
    counts.foldl truncate (r.truncate count) = r.truncate (counts.foldl min count) := by
  induction counts generalizing count with
  | nil => rfl
  | cons next counts ih =>
    show counts.foldl truncate ((r.truncate count).truncate next) =
      r.truncate (counts.foldl min (min count next))
    rw [truncate_truncate]
    exact ih (min count next)

/-- Any number of truncations is one, to the least of their counts. -/
theorem foldl_truncate_eq (r : ResultSet) (counts : List Nat) :
    counts.foldl truncate r = r.truncate (counts.foldl min r.rows.length) := by
  rw [← foldl_truncate, truncate_of_length_le (Nat.le_refl _)]

theorem truncate_right_comm (r : ResultSet) (m n : Nat) :
    (r.truncate m).truncate n = (r.truncate n).truncate m := by
  rw [truncate_truncate, truncate_truncate, Nat.min_comm]

/-- It does not matter in which order a result is truncated. -/
theorem foldl_truncate_perm {counts counts' : List Nat} (h : counts.Perm counts') (r : ResultSet) :
    counts.foldl truncate r = counts'.foldl truncate r :=
  h.foldl_eq' (fun m _ n _ r => truncate_right_comm r m n) r

/-! ### The account of dropped rows -/

/-- No more rows are left than are counted, and it is noted just if there are fewer. -/
structure Accounted (r : ResultSet) : Prop where
  length_le : r.rows.length ≤ r.rowCount
  truncated_iff : r.truncated = true ↔ r.rows.length < r.rowCount

theorem accounted_ofRows (engine : String) (columns : List String) (rows : List (List Value))
    (elapsed : Nat) : (ofRows engine columns rows elapsed).Accounted := by
  refine ⟨Nat.le_refl _, ?_⟩
  show false = true ↔ rows.length < rows.length
  simp

theorem Accounted.truncate {r : ResultSet} (h : r.Accounted) (count : Nat) :
    (r.truncate count).Accounted := by
  have hle := h.length_le
  rw [truncate_eq]
  refine ⟨?_, ?_⟩
  · show (r.rows.take count).length ≤ r.rowCount
    rw [List.length_take]
    omega
  · show (r.truncated || decide (count < r.rows.length)) = true ↔
      (r.rows.take count).length < r.rowCount
    rw [Bool.or_eq_true, h.truncated_iff, decide_eq_true_eq, List.length_take]
    omega

/-- Of all rows of a query any number of truncations leaves the first ones, as many as the least of the
counts, or all of them if there are no more. They are still said to be as many as there were, and it is noted
just if fewer are left; nothing else changes, and the order of the truncations does not count. -/
theorem foldl_truncate_ofRows (engine : String) (columns : List String) (rows : List (List Value))
    (elapsed : Nat) (counts : List Nat) :
    let all := ofRows engine columns rows elapsed
    let kept := counts.foldl truncate all
    kept.rows = rows.take (counts.foldl min rows.length) ∧
    kept.rowCount = rows.length ∧
    (kept.truncated = true ↔ kept.rows.length < kept.rowCount) ∧
    kept.columns = columns ∧ kept.engine = engine ∧ kept.elapsed = elapsed ∧
    ∀ counts' : List Nat, counts'.Perm counts → counts'.foldl truncate all = kept := by
  intro all kept
  have hkept : kept = all.truncate (counts.foldl min rows.length) := foldl_truncate_eq all counts
  have haccounted : kept.Accounted := by
    rw [hkept]
    exact (accounted_ofRows engine columns rows elapsed).truncate _
  rw [truncate_eq] at hkept
  refine ⟨?_, ?_, haccounted.truncated_iff, ?_, ?_, ?_, fun counts' h => foldl_truncate_perm h all⟩
  all_goals
    rw [hkept]
    rfl

/-- Five rows would be more than there are, so the two first ones of three are left, in either order. -/
theorem foldl_truncate_ofRows_to_two :
    let rows : List (List Value) := [[.string "DONE", .int 3], [.string "OPEN", .int 1], [.null, .int 0]]
    let all := ofRows "sqlite" ["STATUS", "COUNT_TASK_ID"] rows 2
    let kept := [5, 2].foldl truncate all
    [2, 5].Perm [5, 2] ∧ [2, 5].foldl truncate all = kept ∧
      ([5].foldl truncate all).truncated = false ∧ kept.truncated = true ∧
        kept.rows = [[.string "DONE", .int 3], [.string "OPEN", .int 1]] ∧ kept.rowCount = 3 ∧
          kept.columns = ["STATUS", "COUNT_TASK_ID"] ∧ kept.engine = "sqlite" ∧ kept.elapsed = 2 := by
  intro rows all kept
  have hperm : [2, 5].Perm [5, 2] := .swap 5 2 []
  obtain ⟨hrows, hcount, hnoted, hcolumns, hengine, helapsed, hsame⟩ :=
    foldl_truncate_ofRows "sqlite" ["STATUS", "COUNT_TASK_ID"] rows 2 [5, 2]
  have hfewer : kept.rows.length < kept.rowCount := by
    rw [hrows, hcount]
    decide
  exact ⟨hperm, hsame [2, 5] hperm, rfl, hnoted.mpr hfewer, hrows, hcount, hcolumns, hengine, helapsed⟩

end ScopedQuery.ResultSet
