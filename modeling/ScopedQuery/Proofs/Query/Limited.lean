import Mathlib.Tactic.Common
import ScopedQuery.Query.Limits
/-!
# Limits that are granted

* `Limits.Grants l asked n`: what the policy `l` grants of a limit that is asked for, told of the integers
  themselves, whatever fits into a limit.
* `Limits.grants_normalize`: this is the limit of a query.
* `Limits.Grants.unique` and `Limits.Grants.mono`: the policy leaves no choice, and grants no less of more.
-/

namespace ScopedQuery.Limits

/-- The highest limit that is granted, also by a policy that allows none. -/
def ceiling (l : Limits) : Nat := max 1 l.cap.toNat

/-- No positive limit is asked for. -/
def Unasked (asked : Option Int64) : Prop := ∀ k, asked = some k → k.toInt ≤ 0

/-- What a policy grants of a limit that is asked for. -/
structure Grants (l : Limits) (asked : Option Int64) (n : Nat) : Prop where
  positive : 1 ≤ n
  capped : n ≤ l.ceiling
  kept : ∀ k, asked = some k → 1 ≤ k.toInt → k.toInt ≤ l.ceiling → (n : Int) = k.toInt
  cut : ∀ k, asked = some k → (l.ceiling : Int) < k.toInt → n = l.ceiling
  standing : Unasked asked → n = min (max 1 l.fallback.toNat) l.ceiling

theorem wanted_of_unasked {l : Limits} {asked : Option Int64} (h : Unasked asked) :
    l.wanted asked = l.fallback.toNat := by
  cases asked with
  | none => rfl
  | some k =>
    have hk := h k rfl
    rw [wanted, if_neg]
    rw [Int64.lt_iff_toInt_lt, Int64.toInt_zero]
    omega

theorem wanted_of_pos {l : Limits} {k : Int64} (h : 1 ≤ k.toInt) : (l.wanted (some k) : Int) = k.toInt := by
  rw [wanted, if_pos]
  · omega
  · rw [Int64.lt_iff_toInt_lt, Int64.toInt_zero]
    omega

/-- Nothing is lost when a limit is made to fit. -/
theorem grants_normalize (l : Limits) (asked : Option Int64) : l.Grants asked (l.normalize asked).toNat := by
  have hone : 1 ≤ l.ceiling := Nat.le_max_left 1 _
  rw [toNat_normalize]
  change l.Grants asked (min (max 1 (l.wanted asked)) l.ceiling)
  constructor
  case positive => omega
  case capped => omega
  case kept =>
    rintro k rfl hk hle
    have hwanted := wanted_of_pos (l := l) hk
    omega
  case cut =>
    rintro k rfl hlt
    have hwanted := wanted_of_pos (l := l) (k := k) (by omega)
    omega
  case standing =>
    intro hunasked
    rw [wanted_of_unasked hunasked]

/-- Of a positive limit that is asked for, the part up to the ceiling is granted. -/
theorem Grants.eq_min {l : Limits} {k : Int64} {n : Nat} (h : l.Grants (some k) n) (hk : 1 ≤ k.toInt) :
    (n : Int) = min k.toInt l.ceiling := by
  by_cases hle : k.toInt ≤ l.ceiling
  · rw [h.kept k rfl hk hle]
    omega
  · rw [h.cut k rfl (by omega)]
    omega

theorem Grants.unique {l : Limits} {asked : Option Int64} {m n : Nat} (hm : l.Grants asked m)
    (hn : l.Grants asked n) : m = n := by
  by_cases hunasked : Unasked asked
  · rw [hm.standing hunasked, hn.standing hunasked]
  · simp only [Unasked, not_forall] at hunasked
    obtain ⟨k, rfl, hk⟩ := hunasked
    have hm' := hm.eq_min (by omega)
    have hn' := hn.eq_min (by omega)
    omega

/-- Of a higher limit no less is granted. -/
theorem Grants.mono {l : Limits} {j k : Int64} {m n : Nat} (hm : l.Grants (some j) m)
    (hn : l.Grants (some k) n) (hj : 1 ≤ j.toInt) (hjk : j.toInt ≤ k.toInt) : m ≤ n := by
  have hm' := hm.eq_min hj
  have hn' := hn.eq_min (by omega)
  omega

end ScopedQuery.Limits
