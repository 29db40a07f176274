/-!
# Sorted sets of texts

A set of texts is a list in increasing order without duplicates: `insert` adds an element, and
`sorted` makes the set of the elements of a list.
-/

namespace ScopedQuery.Text

/-- Adds an element to a sorted set. -/
def insert (x : String) : List String → List String
  | [] => [x]
  | y :: ys => if x < y then x :: y :: ys else if x = y then y :: ys else y :: insert x ys

/-- The sorted set of the elements of a list. -/
def sorted (xs : List String) : List String := xs.foldl (fun set x => insert x set) []

theorem mem_insert {a x : String} {ys : List String} : a ∈ insert x ys ↔ a = x ∨ a ∈ ys := by
  induction ys with
  | nil => simp [insert]
  | cons y ys ih =>
    simp only [insert]
    split
    · simp
    · split
      · next h => subst h; simp
      · simp only [List.mem_cons, ih]; exact or_left_comm

theorem mem_foldl_insert {a : String} {xs ys : List String} :
    a ∈ xs.foldl (fun set x => insert x set) ys ↔ a ∈ xs ∨ a ∈ ys := by
  induction xs generalizing ys with
  | nil => simp
  | cons x xs ih =>
    simp only [List.foldl_cons, ih, mem_insert, List.mem_cons, or_assoc]
    exact or_left_comm

/-- A set has the elements of the list it is made of. -/
theorem mem_sorted {a : String} {xs : List String} : a ∈ sorted xs ↔ a ∈ xs := by
  simp [sorted, mem_foldl_insert]

end ScopedQuery.Text
