import ScopedQuery.Decimal.Numeral
import ScopedQuery.Proofs.Text.Trim
/-!
# Integers read back

* The text of a number is read as that number: `digits?_toDigits` for natural numbers, and
  `integer?_toString` for integers of 64 bits.
* `Numeral`: a text is digits behind an optional sign, with a value. `integer?_eq_some` says that just
  such texts are read, if the value fits 64 bits.
* `Unsigned`: the same without a minus sign. `natural?_eq_some` says that just such texts are read, if the
  value lies below a bound.
-/

namespace ScopedQuery.Decimal

theorem value_toDigits (n : Nat) : value (Nat.toDigits 10 n) = n := by
  have h : value (Nat.toDigits 10 n) = Nat.ofDigitChars 10 (Nat.toDigits 10 n) 0 := by
    rw [Nat.ofDigitChars_eq_foldl]
    rfl
  rw [h, Nat.ofDigitChars_ten_toDigits]

theorem digits?_toDigits (n : Nat) : digits? (Nat.toDigits 10 n) = some n := by
  have hall : (Nat.toDigits 10 n).all Char.isDigit = true := by
    rw [List.all_eq_true]
    exact fun c hc => Nat.isDigit_of_mem_toDigits (by decide) (by decide) hc
  simp [digits?, hall, Nat.toDigits_ne_nil, value_toDigits]

/-- A digit is no other kind of character. -/
theorem ne_of_isDigit {c d : Char} (hc : c.isDigit = true) (hd : d.isDigit = false) : c ≠ d := by
  rintro rfl
  rw [hc] at hd
  cases hd

theorem fitsWord_toInt (n : Int64) : fitsWord n.toInt = true := by
  simp only [fitsWord, Bool.and_eq_true, decide_eq_true_eq]
  exact ⟨Int64.minValue_le_toInt n, Int64.toInt_le n⟩

/-- Digits start with neither sign. -/
theorem toDigits_cases (n : Nat) :
    ∃ c cs, Nat.toDigits 10 n = c :: cs ∧ c ≠ '-' ∧ c ≠ '+' := by
  cases h : Nat.toDigits 10 n with
  | nil => exact absurd h Nat.toDigits_ne_nil
  | cons c cs =>
    have hc : c.isDigit = true :=
      Nat.isDigit_of_mem_toDigits (b := 10) (n := n) (by decide) (by decide) (by simp [h])
    exact ⟨c, cs, rfl, ne_of_isDigit hc rfl, ne_of_isDigit hc rfl⟩

/-- The text of an integer that fits is read as that integer. -/
theorem integer?_toString_of_fitsWord {z : Int} (hz : fitsWord z = true) :
    integer? (toString z) = some (Int64.ofInt z) := by
  rw [integer?, Text.toList_toString]
  obtain ⟨m, rfl⟩ | ⟨m, rfl⟩ : (∃ m : Nat, z = m) ∨ ∃ m : Nat, z = -((m + 1 : Nat) : Int) := by
    by_cases h : z < 0
    · exact .inr ⟨(-z).toNat - 1, by omega⟩
    · exact .inl ⟨z.toNat, by omega⟩
  · -- a number without a sign, which neither of the two patterns for signs takes
    obtain ⟨c, cs, hd, hminus, hplus⟩ := toDigits_cases m
    have hread : digits? (c :: cs) = some m := hd ▸ digits?_toDigits m
    rw [if_pos (Int.natCast_nonneg m), Int.toNat_natCast, hd]
    simp [hminus, hplus, hread, hz]
  · rw [if_neg (by omega), Int.neg_neg, Int.toNat_natCast]
    simp only [digits?_toDigits]
    exact if_pos hz

theorem integer?_toString (n : Int64) : integer? (toString n.toInt) = some n := by
  rw [integer?_toString_of_fitsWord (fitsWord_toInt n), Int64.ofInt_toInt]

/-! ### Numerals -/

/-- A text is one digit or more behind an optional sign, and has this value. -/
inductive Numeral : List Char → Int → Prop
  | plain (ds : List Char) (digits : ds ≠ [] ∧ ds.all Char.isDigit = true) : Numeral ds (value ds)
  | plus (ds : List Char) (digits : ds ≠ [] ∧ ds.all Char.isDigit = true) :
      Numeral ('+' :: ds) (value ds)
  | minus (ds : List Char) (digits : ds ≠ [] ∧ ds.all Char.isDigit = true) :
      Numeral ('-' :: ds) (-(value ds))

theorem digits?_eq_some {cs : List Char} {n : Nat} :
    digits? cs = some n ↔ (cs ≠ [] ∧ cs.all Char.isDigit = true) ∧ value cs = n := by
  unfold digits?
  by_cases h : (cs.isEmpty || !cs.all Char.isDigit) = true
  · rw [if_pos h]
    simp only [Bool.or_eq_true, List.isEmpty_iff, Bool.not_eq_true'] at h
    constructor
    · rintro ⟨⟩
    · rintro ⟨⟨hne, hall⟩, -⟩
      rcases h with h | h
      · exact absurd h hne
      · rw [hall] at h
        cases h
  · rw [if_neg h]
    simp only [Bool.or_eq_true, List.isEmpty_iff, Bool.not_eq_true', not_or, Bool.not_eq_false] at h
    rw [Option.some.injEq]
    exact (and_iff_right h).symm

/-- What is read as an integer is a numeral whose value fits. -/
theorem integer?_eq_some {s : String} {n : Int64} :
    integer? s = some n ↔ ∃ z, Numeral s.toList z ∧ fitsWord z = true ∧ Int64.ofInt z = n := by
  have hfits : ∀ z : Int, (if fitsWord z = true then some (Int64.ofInt z) else none) = some n ↔
      fitsWord z = true ∧ Int64.ofInt z = n := by
    intro z
    split
    · next h => simp [h]
    · next h => simp [h]
  constructor
  · intro h
    simp only [integer?] at h
    split at h
    · next z hz =>
      refine ⟨z, ?_, (hfits z).mp h⟩
      split at hz
      · next ds hcs =>
        simp only [Option.map_eq_some_iff, Option.bind_eq_bind, Option.bind_eq_some_iff,
          Option.pure_def, Option.some.injEq, digits?_eq_some] at hz
        obtain ⟨_, ⟨_, ⟨hds, rfl⟩, rfl⟩, rfl⟩ := hz
        exact hcs ▸ .minus ds hds
      · next ds hcs =>
        obtain ⟨_, hread, rfl⟩ := Option.map_eq_some_iff.mp hz
        obtain ⟨hds, rfl⟩ := digits?_eq_some.mp hread
        exact hcs ▸ .plus ds hds
      · obtain ⟨_, hread, rfl⟩ := Option.map_eq_some_iff.mp hz
        obtain ⟨hds, rfl⟩ := digits?_eq_some.mp hread
        exact .plain _ hds
    · cases h
  · rintro ⟨z, hz, hn⟩
    rw [← hfits] at hn
    simp only [integer?]
    generalize s.toList = cs at hz
    cases hz with
    | plus ds hds => simpa [digits?_eq_some.mpr ⟨hds, rfl⟩] using hn
    | minus ds hds => simpa [digits?_eq_some.mpr ⟨hds, rfl⟩] using hn
    | plain ds hds =>
      -- digits start with neither sign
      cases cs with
      | nil => exact absurd rfl hds.1
      | cons d ds =>
        have hd := List.all_eq_true.mp hds.2 d List.mem_cons_self
        have hminus : d ≠ '-' := ne_of_isDigit hd rfl
        have hplus : d ≠ '+' := ne_of_isDigit hd rfl
        simpa [hminus, hplus, digits?_eq_some.mpr ⟨hds, rfl⟩] using hn

/-! ### Numerals without a minus sign -/

/-- A text is one digit or more, with or without a plus sign in front, and has this value. -/
inductive Unsigned : List Char → Nat → Prop
  | plain (ds : List Char) (digits : ds ≠ [] ∧ ds.all Char.isDigit = true) : Unsigned ds (value ds)
  | plus (ds : List Char) (digits : ds ≠ [] ∧ ds.all Char.isDigit = true) :
      Unsigned ('+' :: ds) (value ds)

/-- What is read below a bound is a numeral without a minus sign whose value is below it. -/
theorem natural?_eq_some {bound n : Nat} {s : String} :
    natural? bound s = some n ↔ Unsigned s.toList n ∧ n < bound := by
  have hbelow : ∀ m : Nat, (if m < bound then some m else none) = some n ↔ m = n ∧ n < bound := by
    intro m
    split
    · next h =>
      rw [Option.some.injEq]
      exact ⟨fun heq => ⟨heq, heq ▸ h⟩, fun heq => heq.1⟩
    · next h =>
      simp only [reduceCtorEq, false_iff, not_and]
      exact fun heq => heq ▸ h
  simp only [natural?]
  constructor
  · intro h
    split at h
    · next m hm =>
      obtain ⟨rfl, hn⟩ := (hbelow m).mp h
      refine ⟨?_, hn⟩
      split at hm
      · next ds hcs =>
        obtain ⟨hds, rfl⟩ := digits?_eq_some.mp hm
        exact hcs ▸ .plus ds hds
      · obtain ⟨hds, rfl⟩ := digits?_eq_some.mp hm
        exact .plain _ hds
    · cases h
  · rintro ⟨hs, hn⟩
    generalize s.toList = cs at hs
    cases hs with
    | plus ds hds => simpa [digits?_eq_some.mpr ⟨hds, rfl⟩] using hn
    | plain ds hds =>
      -- digits start with no sign
      cases cs with
      | nil => exact absurd rfl hds.1
      | cons d ds =>
        have hd := List.all_eq_true.mp hds.2 d List.mem_cons_self
        have hplus : d ≠ '+' := ne_of_isDigit hd rfl
        simpa [hplus, digits?_eq_some.mpr ⟨hds, rfl⟩] using hn

end ScopedQuery.Decimal
