import Mathlib.Tactic.Ring
import ScopedQuery.Proofs.Calendar.Written
import ScopedQuery.Proofs.Text.Bytes
/-!
# Numbers sort as their digits

* `digits_lt_iff` and `padded_lt_iff`: numbers of one width sort as their digits.
* `padded_hyphen_lt_iff`: of numbers of any width with a hyphen behind them, the one comes first that
  `WrittenFirst` says, which need not be the smaller one.
-/

namespace ScopedQuery.Calendar

open Text (toNat_lt_iff append_lt_append_iff cons_lt_cons_self)

/-! ### Numbers of one width -/

theorem toNat_of_isDigit {c : Char} (h : c.isDigit = true) : 48 ≤ c.toNat ∧ c.toNat ≤ 57 :=
  Char.isDigit_iff_toNat.mp h

/-- The first of some digits counts the most. -/
theorem value_cons (d : Char) (ds : List Char) :
    Decimal.value (d :: ds) = Decimal.digitValue d * 10 ^ ds.length + Decimal.value ds := by
  have hfold : ∀ (ds : List Char) (n : Nat), ds.foldl (fun n c => 10 * n + Decimal.digitValue c) n =
      n * 10 ^ ds.length + Decimal.value ds := by
    intro ds
    induction ds with
    | nil => simp [Decimal.value]
    | cons d ds ih =>
      intro n
      rw [Decimal.value, List.foldl_cons, List.foldl_cons, ih, ih, List.length_cons]
      ring
  rw [Decimal.value, List.foldl_cons, hfold]
  simp

theorem value_lt {ds : List Char} (h : ∀ c ∈ ds, c.isDigit = true) :
    Decimal.value ds < 10 ^ ds.length := by
  induction ds with
  | nil => decide
  | cons d ds ih =>
    have hrest := ih fun c hc => h c (List.mem_cons_of_mem d hc)
    have hdigit : Decimal.digitValue d ≤ 9 := by
      have hbounds := toNat_of_isDigit (h d List.mem_cons_self)
      unfold Decimal.digitValue
      omega
    calc Decimal.value (d :: ds)
        = Decimal.digitValue d * 10 ^ ds.length + Decimal.value ds := value_cons d ds
      _ < Decimal.digitValue d * 10 ^ ds.length + 10 ^ ds.length := by omega
      _ = (Decimal.digitValue d + 1) * 10 ^ ds.length := by ring
      _ ≤ 10 * 10 ^ ds.length := Nat.mul_le_mul_right _ (by omega)
      _ = 10 ^ (d :: ds).length := by rw [List.length_cons]; ring

/-- As many digits sort as the numbers that they stand for. -/
theorem digits_lt_iff {ds es : List Char} (hds : ∀ c ∈ ds, c.isDigit = true)
    (hes : ∀ c ∈ es, c.isDigit = true) (hlength : ds.length = es.length) :
    ds < es ↔ Decimal.value ds < Decimal.value es := by
  induction ds generalizing es with
  | nil =>
    obtain rfl := List.length_eq_zero_iff.mp hlength.symm
    simp
  | cons d ds ih =>
    cases es with
    | nil => cases hlength
    | cons e es =>
      have hds' := fun c hc => hds c (List.mem_cons_of_mem d hc)
      have hes' := fun c hc => hes c (List.mem_cons_of_mem e hc)
      have hlength' : ds.length = es.length := Nat.succ.inj hlength
      have hrest := ih hds' hes' hlength'
      have hd := toNat_of_isDigit (hds d List.mem_cons_self)
      have he := toNat_of_isDigit (hes e List.mem_cons_self)
      have hlow := value_lt hds'
      have hhigh := value_lt hes'
      rw [List.cons_lt_cons_iff, hrest, value_cons, value_cons, hlength', toNat_lt_iff,
        ← Char.toNat_inj]
      rw [hlength'] at hlow
      unfold Decimal.digitValue
      rcases Nat.lt_trichotomy d.toNat e.toNat with hlt | heq | hgt
      · -- the first digits decide, whatever follows
        have hstep : (d.toNat - 48 + 1) * 10 ^ es.length ≤ (e.toNat - 48) * 10 ^ es.length :=
          Nat.mul_le_mul_right _ (by omega)
        rw [Nat.add_mul] at hstep
        omega
      · rw [heq]
        omega
      · have hstep : (e.toNat - 48 + 1) * 10 ^ es.length ≤ (d.toNat - 48) * 10 ^ es.length :=
          Nat.mul_le_mul_right _ (by omega)
        rw [Nat.add_mul] at hstep
        omega

theorem padded_inj {width m n : Nat} : padded width m = padded width n ↔ m = n := by
  constructor
  · intro h
    have hvalue := congrArg Decimal.value h
    rwa [value_padded, value_padded] at hvalue
  · intro h
    rw [h]

/-- Numbers that fit a width sort as they are written in it. -/
theorem padded_lt_iff {width m n : Nat} (hwidth : 0 < width) (hm : m < 10 ^ width)
    (hn : n < 10 ^ width) : padded width m < padded width n ↔ m < n := by
  rw [digits_lt_iff (fun _ => isDigit_padded) (fun _ => isDigit_padded)
    ((length_padded hwidth hm).trans (length_padded hwidth hn).symm), value_padded, value_padded]

/-- A number of two digits counts before all that follows it. -/
theorem padded_append_lt_iff {m n : Nat} (hm : m < 10 ^ 2) (hn : n < 10 ^ 2) (r s : List Char) :
    padded 2 m ++ r < padded 2 n ++ s ↔ m < n ∨ m = n ∧ r < s := by
  rw [append_lt_append_iff ((length_padded (by decide) hm).trans (length_padded (by decide) hn).symm),
    padded_lt_iff (by decide) hm hn, padded_inj]

/-! ### Numbers of several widths -/

theorem value_append (ds es : List Char) :
    Decimal.value (ds ++ es) = Decimal.value ds * 10 ^ es.length + Decimal.value es := by
  induction ds with
  | nil => simp [Decimal.value]
  | cons d ds ih =>
    rw [List.cons_append, value_cons, value_cons, ih, List.length_append]
    ring

/-- The first digits of a number are what is left of it without the others. -/
theorem value_take {es : List Char} (hes : ∀ c ∈ es, c.isDigit = true) (k : Nat) :
    Decimal.value (es.take k) = Decimal.value es / 10 ^ (es.length - k) := by
  have hrest : Decimal.value (es.drop k) < 10 ^ (es.length - k) := by
    have hlt := value_lt fun c (hc : c ∈ es.drop k) => hes c (List.mem_of_mem_drop hc)
    rwa [List.length_drop] at hlt
  have hvalue := value_append (es.take k) (es.drop k)
  rw [List.take_append_drop, List.length_drop] at hvalue
  rw [hvalue, Nat.mul_comm, Nat.mul_add_div (Nat.pow_pos (by decide)), Nat.div_eq_of_lt hrest,
    Nat.add_zero]

/-- Which of two different numbers comes first if a hyphen stands behind both. As many digits as the
shorter one has are compared, and if these are the same, the shorter one comes first, since hyphens come
before digits. -/
def WrittenFirst (m n : Nat) : Prop :=
  let k := (padded 4 m).length
  let l := (padded 4 n).length
  if k ≤ l then m ≤ n / 10 ^ (l - k) else m / 10 ^ (k - l) < n

instance (m n : Nat) : Decidable (WrittenFirst m n) := by
  unfold WrittenFirst
  infer_instance

/-- Of two different numbers, one is written first. -/
theorem WrittenFirst.not_iff {m n : Nat} (h : m ≠ n) : ¬WrittenFirst m n ↔ WrittenFirst n m := by
  unfold WrittenFirst
  rcases Nat.lt_trichotomy (padded 4 m).length (padded 4 n).length with hlt | heq | hgt
  · simp [hlt.le, hlt.not_ge]
  · simp only [heq, le_refl, if_true, Nat.sub_self, pow_zero, Nat.div_one]
    omega
  · simp [hgt.le, hgt.not_ge]

/-- A hyphen comes before whatever digits another number has left. -/
theorem shorter_hyphen_lt_iff {m n : Nat} (hne : m ≠ n)
    (hlength : (padded 4 m).length ≤ (padded 4 n).length) (r s : List Char) :
    padded 4 m ++ '-' :: r < padded 4 n ++ '-' :: s ↔ WrittenFirst m n := by
  have hdigits : ∀ c ∈ padded 4 n, c.isDigit = true := fun _ => isDigit_padded
  have htake : (padded 4 m).length = ((padded 4 n).take (padded 4 m).length).length := by
    rw [List.length_take, Nat.min_eq_left hlength]
  have hvalue := value_take hdigits (padded 4 m).length
  have hfirst := digits_lt_iff (fun _ hc => hdigits _ (List.mem_of_mem_take hc))
    (fun _ => isDigit_padded) htake.symm
  rw [value_padded] at hvalue hfirst
  rw [WrittenFirst, if_pos hlength, ← hvalue, ← Nat.not_lt, ← hfirst, List.not_lt]
  conv_lhs => rw [← List.take_append_drop (padded 4 m).length (padded 4 n), List.append_assoc]
  rw [append_lt_append_iff htake, List.le_iff_lt_or_eq]
  refine or_congr_right (and_iff_left_of_imp fun hsame => ?_)
  cases hrest : (padded 4 n).drop (padded 4 m).length with
  | nil =>
    have hall := List.take_append_drop (padded 4 m).length (padded 4 n)
    rw [hrest, List.append_nil, ← hsame, padded_inj] at hall
    exact absurd hall hne
  | cons c cs =>
    have hdigit := toNat_of_isDigit (hdigits c (List.mem_of_mem_drop (hrest ▸ List.mem_cons_self)))
    have hhyphen : '-'.toNat = 45 := rfl
    rw [List.cons_append, List.cons_lt_cons_iff, toNat_lt_iff]
    omega

/-- Two different numbers with a hyphen behind them. -/
theorem padded_hyphen_lt_iff {m n : Nat} (h : m ≠ n) (r s : List Char) :
    padded 4 m ++ '-' :: r < padded 4 n ++ '-' :: s ↔ WrittenFirst m n := by
  rcases Nat.le_total (padded 4 m).length (padded 4 n).length with hle | hge
  · exact shorter_hyphen_lt_iff h hle r s
  · have hne : padded 4 m ++ '-' :: r ≠ padded 4 n ++ '-' :: s := by
      intro heq
      have hdigits := congrArg (List.takeWhile Char.isDigit) heq
      rw [takeWhile_padded _ _ (by simp), takeWhile_padded _ _ (by simp), padded_inj] at hdigits
      exact h hdigits
    rw [← WrittenFirst.not_iff h.symm, ← shorter_hyphen_lt_iff h.symm hge s r, List.not_lt,
      List.le_iff_lt_or_eq, or_iff_left hne]

end ScopedQuery.Calendar
