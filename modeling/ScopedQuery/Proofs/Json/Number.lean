import ScopedQuery.Json.Writer
import ScopedQuery.Proofs.Decimal.Written
import ScopedQuery.Proofs.Json.Steps
/-!
# Numbers read back

* `collect_digits`: digits are collected up to the character that ends them, as long as their number
  stays within the bound.
* `signedNumeral_toString`: an integer that is written in decimal is read as that integer, if it fits a
  word of 64 bits, signed or not.
* `exists_render_eq_cons`: a floating-point number is written with a sign or a digit in front.
-/

namespace ScopedQuery.Json

open Decimal (digitValue)

/-! ### Digits -/

theorem le_foldl_digits (ds : List Char) (n : Nat) :
    n ≤ ds.foldl (fun n c => 10 * n + digitValue c) n := by
  induction ds generalizing n with
  | nil => exact Nat.le_refl n
  | cons d ds ih =>
    have h := ih (10 * n + digitValue d)
    rw [List.foldl_cons]
    omega

/-- Digits are collected up to a character that is none. -/
theorem collect_digits {ds rest : List Char} (hds : ∀ c ∈ ds, c.isDigit = true)
    (hrest : ∀ c, rest.head? = some c → c.isDigit = false) (n count : Nat)
    (hbound : ds.foldl (fun n c => 10 * n + digitValue c) n ≤ significandBound) :
    collect n count (ds ++ rest) =
      (ds.foldl (fun n c => 10 * n + digitValue c) n, count + ds.length, rest) := by
  induction ds generalizing n count with
  | nil =>
    cases rest with
    | nil => rfl
    | cons c rest => simp [collect, hrest c rfl]
  | cons d ds ih =>
    have hfits : 10 * n + (d.toNat - 48) ≤ significandBound :=
      Nat.le_trans (le_foldl_digits ds _) hbound
    have hdigit : d.isDigit = true := hds d List.mem_cons_self
    rw [List.cons_append, collect]
    simp only [hdigit, hfits, decide_true, Bool.and_self, if_true]
    have hrests := ih (fun c hc => hds c (List.mem_cons_of_mem d hc)) (10 * n + (d.toNat - 48))
      (count + 1) hbound
    rw [hrests, List.length_cons, Nat.add_assoc, Nat.add_comm 1]
    rfl

/-- The text of a number has no zero in front, unless it is the number zero. -/
theorem head?_toDigits_ne {n : Nat} (h : 0 < n) : (Nat.toDigits 10 n).head? ≠ some '0' := by
  induction n using Nat.strongRecOn with
  | _ n ih =>
    have hdigit : ∀ m < 10, 0 < m → m.digitChar ≠ '0' := by decide
    rw [Nat.toDigits_eq_if (by decide)]
    split
    · next hlt => simpa using hdigit n hlt h
    · next hle =>
      have hne : Nat.toDigits 10 (n / 10) ≠ [] := Nat.toDigits_ne_nil
      rw [List.head?_append, Option.or_of_isSome (by simp [hne])]
      exact ih (n / 10) (by omega) (by omega)

/-! ### Numerals -/

theorem EndsValue.isDigit {rest : List Char} (h : EndsValue rest) (c : Char)
    (hc : rest.head? = some c) : c.isDigit = false := by
  obtain rfl | rfl | rfl := h c hc <;> rfl

/-- Behind the digits of a number without fraction and exponent, the number ends. -/
theorem numeral_of_collect {c : Char} {cs rest : List Char} {n count : Nat} (hfirst : c.isDigit = true)
    (hlead : c = '0' → ∀ d, cs.head? = some d → d.isDigit = false)
    (hcollect : collect 0 0 (c :: cs) = (n, count, rest)) (hrest : EndsValue rest) (negative : Bool) :
    numeral negative (c :: cs) = .ok (wholeNumeral negative n, rest) := by
  have hzero : (decide (c = '0') && (cs.head?.map Char.isDigit).getD false) = false := by
    rw [Bool.and_eq_false_imp, decide_eq_true_eq]
    intro hc
    cases hhead : cs.head? with
    | none => rfl
    | some d => exact hlead hc d hhead
  simp only [numeral, bind_apply, get_apply, andThen_ok, hfirst, hzero, hcollect, Bool.not_true,
    Bool.false_eq_true, if_false]
  cases rest with
  | nil => rfl
  | cons d ds => obtain rfl | rfl | rfl := hrest d rfl <;> rfl

/-- The digits of a number are read as the number, if it can be collected. -/
theorem numeral_toDigits {n : Nat} (hn : n ≤ significandBound) {rest : List Char}
    (hrest : EndsValue rest) (negative : Bool) :
    numeral negative (Nat.toDigits 10 n ++ rest) = .ok (wholeNumeral negative n, rest) := by
  have hdigits : ∀ c ∈ Nat.toDigits 10 n, c.isDigit = true := fun c hc =>
    Nat.isDigit_of_mem_toDigits (by decide) (by decide) hc
  have hcollect : collect 0 0 (Nat.toDigits 10 n ++ rest) =
      (n, 0 + (Nat.toDigits 10 n).length, rest) := by
    have hvalue := Decimal.value_toDigits n
    rw [Decimal.value] at hvalue
    rw [collect_digits hdigits hrest.isDigit 0 0 (hvalue.symm ▸ hn), hvalue]
  cases hcs : Nat.toDigits 10 n with
  | nil => exact absurd hcs Nat.toDigits_ne_nil
  | cons c cs =>
    rw [hcs] at hcollect hdigits
    refine numeral_of_collect (hdigits c List.mem_cons_self) ?_ hcollect hrest negative
    -- a zero in front is the only digit
    rintro rfl
    obtain rfl : n = 0 := by
      by_contra hpos
      exact head?_toDigits_ne (Nat.pos_of_ne_zero hpos) (by rw [hcs]; rfl)
    rw [Nat.toDigits_zero] at hcs
    rw [← (List.cons.inj hcs).2]
    exact hrest.isDigit

/-- The least and the greatest integer that are read as integers. -/
def IsWord (n : Int) : Prop := Int64.minValue.toInt ≤ n ∧ n ≤ significandBound

theorem isWord_toInt (n : Int64) : IsWord n.toInt := by
  refine ⟨Int64.minValue_le_toInt n, Int.le_trans (Int64.toInt_le n) ?_⟩
  decide

/-- An integer is written with a sign or a digit in front. -/
theorem exists_toString_eq_cons (n : Int) :
    ∃ c cs, (toString n).toList = c :: cs ∧ (c = '-' ∨ c.isDigit = true) := by
  rw [Text.toList_toString]
  split
  · cases hcs : Nat.toDigits 10 n.toNat with
    | nil => exact absurd hcs Nat.toDigits_ne_nil
    | cons c cs =>
      have hfirst : c.isDigit = true :=
        Nat.isDigit_of_mem_toDigits (b := 10) (n := n.toNat) (by decide) (by decide) (by simp [hcs])
      exact ⟨c, cs, rfl, .inr hfirst⟩
  · exact ⟨'-', _, rfl, .inl rfl⟩

/-- An integer that fits a word is read from its text. -/
theorem signedNumeral_toString {n : Int} (hn : IsWord n) {c : Char} {cs : List Char}
    (hcs : (toString n).toList = c :: cs) {rest : List Char} (hrest : EndsValue rest) :
    signedNumeral c (c :: (cs ++ rest)) = .ok (.int n, rest) := by
  obtain ⟨hlow, hhigh⟩ := hn
  rw [Text.toList_toString] at hcs
  split at hcs
  · next hpos =>
    have hminus : c ≠ '-' := by
      obtain ⟨d, ds, hds, hd, -⟩ := Decimal.toDigits_cases n.toNat
      rw [hcs] at hds
      exact (List.cons.inj hds).1 ▸ hd
    have hread := numeral_toDigits (n := n.toNat) (by omega) hrest false
    rw [hcs, List.cons_append] at hread
    rw [signedNumeral, if_neg hminus, hread, wholeNumeral]
    simp [Int.toNat_of_nonneg hpos]
  · next hneg =>
    obtain ⟨rfl, rfl⟩ := List.cons.inj hcs
    have hbound : (-n).toNat ≤ significandBound := by
      have hmin : Int64.minValue.toInt = -9223372036854775808 := by decide
      have hmax : significandBound = 18446744073709551615 := by decide
      omega
    have hfits : ¬((-n).toNat = 0 ∨ ((-n).toNat : Int) > -Int64.minValue.toInt) := by omega
    have hvalue : -((-n).toNat : Int) = n := by omega
    rw [signedNumeral, if_pos rfl, bind_apply, advance_cons, andThen_ok,
      numeral_toDigits hbound hrest true, wholeNumeral, if_neg (by decide), if_neg hfits, hvalue]

/-! ### Starts of floating-point numbers -/

theorem significant_digits {ds : List Char} (h : ∀ c ∈ ds, c.isDigit = true) :
    ∃ c cs, Decimal.significant ds = c :: cs ∧ c.isDigit = true := by
  have hkept : ∀ c ∈ (ds.reverse.dropWhile (· == '0')).reverse, c.isDigit = true := by
    intro c hc
    have hmem := (List.dropWhile_sublist _).mem (List.mem_reverse.mp hc)
    exact h c (List.mem_reverse.mp hmem)
  unfold Decimal.significant
  split
  · exact ⟨'0', [], rfl, rfl⟩
  · next hne =>
    cases hcs : (ds.reverse.dropWhile (· == '0')).reverse with
    | nil => exact absurd hcs hne
    | cons c cs => exact ⟨c, cs, rfl, hkept c (by simp [hcs])⟩

/-- However a decimal is laid out, a digit comes first. -/
theorem exists_layout_eq_cons (layout : Decimal.Layout) {c : Char} (hc : c.isDigit = true)
    (cs : List Char) (magnitude : Int) :
    ∃ d ds, layout.write (c :: cs) magnitude = d :: ds ∧ d.isDigit = true := by
  unfold Decimal.Layout.write
  split
  · exact ⟨c, _, rfl, hc⟩
  split
  · exact ⟨'0', _, rfl, rfl⟩
  · unfold Decimal.withPoint
    rw [List.take_succ_cons]
    dsimp only
    split
    · exact ⟨c, _, rfl, hc⟩
    · exact ⟨c, _, rfl, hc⟩

theorem exists_render_eq_cons (x : Float) :
    ∃ c cs, (Decimal.render x).toList = c :: cs ∧ (c = '-' ∨ c.isDigit = true) := by
  have hsigned : ∀ ds : List Char, (∃ c cs, ds = c :: cs ∧ c.isDigit = true) →
      ∃ c cs, ((if Decimal.hasMinus x then ['-'] else []) ++ ds : List Char) = c :: cs ∧
        (c = '-' ∨ c.isDigit = true) := by
    rintro _ ⟨c, cs, rfl, hc⟩
    split
    · exact ⟨'-', _, rfl, .inl rfl⟩
    · exact ⟨c, cs, rfl, .inr hc⟩
  unfold Decimal.render Decimal.Layout.render Decimal.Layout.renderBy
  dsimp only
  split
  · rw [String.toList_ofList]
    exact hsigned _ ⟨'0', _, rfl, rfl⟩
  · rw [String.toList_ofList]
    apply hsigned
    obtain ⟨c, cs, hcs, hc⟩ := significant_digits fun c (hc : c ∈ Nat.toDigits 10 _) =>
      Nat.isDigit_of_mem_toDigits (by decide) (by decide) hc
    rw [hcs]
    exact exists_layout_eq_cons _ hc cs _

end ScopedQuery.Json
