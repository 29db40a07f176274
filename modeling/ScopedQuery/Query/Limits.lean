/-!
# Row limits

`Limits.normalize` makes of a plan's limit one that is at least 1 and at most `cap`, or 1 if `cap`
is zero.
-/

namespace ScopedQuery

structure Limits where
  /-- The limit of a plan that has none. -/
  fallback : UInt32
  /-- The highest limit. -/
  cap : UInt32
deriving DecidableEq, Repr

namespace Limits

def standard : Limits := ⟨50, 200⟩

/-- The limit that is asked for; one that is not positive counts as none. -/
def wanted (l : Limits) : Option Int64 → Nat
  | some n => if 0 < n then n.toInt.toNat else l.fallback.toNat
  | none => l.fallback.toNat

def normalize (l : Limits) (raw : Option Int64) : UInt32 :=
  UInt32.ofNat (min (max 1 (l.wanted raw)) (max 1 l.cap.toNat))

theorem toNat_normalize (l : Limits) (raw : Option Int64) :
    (l.normalize raw).toNat = min (max 1 (l.wanted raw)) (max 1 l.cap.toNat) := by
  have h := l.cap.toNat_lt
  simp only [normalize, UInt32.toNat_ofNat']
  apply Nat.mod_eq_of_lt
  omega

/-- A limit is never zero. -/
theorem one_le_normalize (l : Limits) (raw : Option Int64) : 1 ≤ (l.normalize raw).toNat := by
  rw [toNat_normalize]
  omega

end Limits

end ScopedQuery
