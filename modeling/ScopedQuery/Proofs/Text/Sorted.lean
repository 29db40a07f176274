import Mathlib.Data.List.Sort
import ScopedQuery.Text.Sorted
/-!
# Sorted sets are determined by their elements

* `pairwise_sorted`: the set of the elements of a list is in increasing order, without duplicates.
* `eq_sorted_iff`: no other increasing list has the same elements.
-/

namespace ScopedQuery.Text

theorem pairwise_insert {x : String} {ys : List String} (h : ys.Pairwise (· < ·)) :
    (insert x ys).Pairwise (· < ·) := by
  induction ys with
  | nil => exact List.pairwise_singleton _ x
  | cons y ys ih =>
    obtain ⟨hy, hys⟩ := List.pairwise_cons.mp h
    simp only [insert]
    split
    · next hxy =>
      refine List.pairwise_cons.mpr ⟨fun z hz => ?_, h⟩
      rcases List.mem_cons.mp hz with rfl | hz
      · exact hxy
      · exact String.lt_trans hxy (hy z hz)
    · next hxy =>
      split
      · exact h
      · next hne =>
        refine List.pairwise_cons.mpr ⟨fun z hz => ?_, ih hys⟩
        rcases mem_insert.mp hz with rfl | hz
        · exact Std.lt_of_le_of_ne (String.not_lt.mp hxy) (Ne.symm hne)
        · exact hy z hz

theorem pairwise_sorted (xs : List String) : (sorted xs).Pairwise (· < ·) := by
  have hinv : ∀ set : List String, set.Pairwise (· < ·) →
      (xs.foldl (fun set x => insert x set) set).Pairwise (· < ·) := by
    induction xs with
    | nil => exact fun set h => h
    | cons x xs ih => exact fun set h => ih _ (pairwise_insert h)
  exact hinv [] .nil

/-- The set of the elements of a list is the one increasing list with these elements. -/
theorem eq_sorted_iff {set xs : List String} :
    set = sorted xs ↔ set.Pairwise (· < ·) ∧ ∀ a, a ∈ set ↔ a ∈ xs := by
  constructor
  · rintro rfl
    exact ⟨pairwise_sorted xs, fun a => mem_sorted⟩
  · rintro ⟨hsorted, hmem⟩
    refine hsorted.eq_of_mem_iff (pairwise_sorted xs) fun a => ?_
    rw [hmem a, mem_sorted]

end ScopedQuery.Text
