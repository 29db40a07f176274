import Mathlib.Data.List.TakeWhile
import Mathlib.Tactic.Common
import ScopedQuery.Text.Blank
import ScopedQuery.Text.Case
/-!
# Trimmed texts

* `trim_trim` and `filled?_eq_some`: what is trimmed once stays as it is.
* `trim_around`: blanks around a text do not count.
* `trim_ofList`: a text without blanks is its own trimmed form, as is the text of an integer
  (`trim_toString`).
* `lower_trim`: trimming does not depend on case.
-/

namespace ScopedQuery.Text

/-! ### Trimming twice -/

theorem dropWhile_isBlank_idem (cs : List Char) :
    (cs.dropWhile isBlank).dropWhile isBlank = cs.dropWhile isBlank := by
  induction cs with
  | nil => rfl
  | cons c cs ih =>
    by_cases h : isBlank c = true
    · simp [h, ih]
    · simp [h]

/-- Trimming the end never uncovers a blank at the start. -/
theorem trimStart_trimEnd {cs : List Char} (h : trimStart cs = cs) :
    trimStart (trimEnd cs) = trimEnd cs := by
  cases cs with
  | nil => rfl
  | cons c cs =>
    have hc : isBlank c = false := by
      by_contra hb
      rw [Bool.not_eq_false] at hb
      have hlen := congrArg List.length h
      simp only [trimStart, List.dropWhile_cons, hb, if_true, List.length_cons] at hlen
      have := (List.dropWhile_sublist isBlank (l := cs)).length_le
      omega
    have hsplit : trimEnd (c :: cs) = c :: trimEnd cs := by
      simp only [trimEnd, List.reverse_cons, List.dropWhile_append]
      split
      · next he =>
        simp only [List.isEmpty_iff] at he
        simp [hc, he]
      · simp
    rw [hsplit]
    simp [trimStart, hc]

theorem trimEnd_trimEnd (cs : List Char) : trimEnd (trimEnd cs) = trimEnd cs := by
  simp only [trimEnd, List.reverse_reverse, dropWhile_isBlank_idem]

@[simp] theorem trim_trim (s : String) : trim (trim s) = trim s := by
  have h : trimStart (trimEnd (trimStart s.toList)) = trimEnd (trimStart s.toList) :=
    trimStart_trimEnd (dropWhile_isBlank_idem s.toList)
  simp only [trim, String.toList_ofList, h, trimEnd_trimEnd]

/-- A text is trimmed to nothing only if it is blank. -/
theorem trim_ne_empty {s : String} {c : Char} (hmem : c ∈ s.toList) (hc : isBlank c = false) :
    trim s ≠ "" := by
  intro h
  have hend : ∀ d ∈ trimStart s.toList, isBlank d = true := by
    have hlist : trimEnd (trimStart s.toList) = [] := by
      rw [← String.toList_inj, trim, String.toList_ofList] at h
      exact h
    rw [trimEnd, List.reverse_eq_nil_iff, List.dropWhile_eq_nil_iff] at hlist
    exact fun d hd => hlist d (List.mem_reverse.mpr hd)
  have hstart : trimStart s.toList = [] := by
    rw [trimStart, ← dropWhile_isBlank_idem, List.dropWhile_eq_nil_iff]
    exact hend
  rw [List.dropWhile_eq_nil_iff.mp hstart c hmem] at hc
  cases hc

/-- What `filled?` gives is the trimmed text, which is not empty. -/
theorem filled?_eq_some {raw : Option String} {t : String} :
    filled? raw = some t ↔ ∃ s, raw = some s ∧ trim s = t ∧ t ≠ "" := by
  cases raw with
  | none => simp [filled?]
  | some s =>
    simp only [filled?, Option.bind_some, nonBlank?, Option.some.injEq, exists_eq_left']
    split
    · next h =>
      simp only [reduceCtorEq, false_iff, not_and, ne_eq, not_not]
      exact fun ht => ht ▸ h
    · next h =>
      simp only [Option.some.injEq]
      constructor
      · rintro rfl; exact ⟨rfl, h⟩
      · exact fun ht => ht.1

/-! ### Blanks around a text -/

/-- A text of blanks only. -/
def Blank (w : String) : Prop := ∀ c ∈ w.toList, isBlank c = true

instance (w : String) : Decidable (Blank w) := List.decidableBAll _ w.toList

theorem trim_eq_empty {s : String} : trim s = "" ↔ Blank s := by
  constructor
  · intro h c hc
    by_contra hfilled
    rw [Bool.not_eq_true] at hfilled
    exact trim_ne_empty hc hfilled h
  · intro h
    rw [trim, trimStart, List.dropWhile_eq_nil_iff.mpr h]
    rfl

theorem trimStart_append {w : List Char} (hw : ∀ c ∈ w, isBlank c = true) (cs : List Char) :
    trimStart (w ++ cs) = trimStart cs :=
  List.dropWhile_append_of_pos hw

theorem trimEnd_append {w : List Char} (hw : ∀ c ∈ w, isBlank c = true) (cs : List Char) :
    trimEnd (cs ++ w) = trimEnd cs := by
  rw [trimEnd, List.reverse_append, List.dropWhile_append_of_pos fun c hc => hw c (List.mem_reverse.mp hc)]
  rfl

/-- Blanks around a text do not count. -/
theorem trim_around {w₁ w₂ : List Char} (h₁ : ∀ c ∈ w₁, isBlank c = true)
    (h₂ : ∀ c ∈ w₂, isBlank c = true) (cs : List Char) :
    trimEnd (trimStart (w₁ ++ (cs ++ w₂))) = trimEnd (trimStart cs) := by
  have hall : trimStart w₂ = [] := List.dropWhile_eq_nil_iff.mpr h₂
  rw [trimStart_append h₁, trimStart, List.dropWhile_append]
  split
  · next hempty =>
    -- nothing of the text is left but what follows it
    rw [List.isEmpty_iff] at hempty
    change trimEnd (trimStart w₂) = trimEnd (trimStart cs)
    rw [hall, trimStart, hempty]
  · exact trimEnd_append h₂ _

theorem dropWhile_isBlank_eq_self {cs : List Char} (h : ∀ c, cs.head? = some c → isBlank c = false) :
    cs.dropWhile isBlank = cs := by
  cases cs with
  | nil => rfl
  | cons c cs => exact List.dropWhile_cons_of_neg (by simp [h c rfl])

theorem trimEnd_eq_self {cs : List Char} (h : ∀ c, cs.getLast? = some c → isBlank c = false) :
    trimEnd cs = cs := by
  rw [trimEnd, dropWhile_isBlank_eq_self, List.reverse_reverse]
  rwa [List.head?_reverse]

/-- A text with no blank at its ends is its own trimmed form. -/
theorem trim_eq_self {cs : List Char} (hfirst : ∀ c, cs.head? = some c → isBlank c = false)
    (hlast : ∀ c, cs.getLast? = some c → isBlank c = false) : trimEnd (trimStart cs) = cs := by
  rw [trimStart, dropWhile_isBlank_eq_self hfirst, trimEnd_eq_self hlast]

/-! ### Texts without blanks -/

theorem trim_ofList {cs : List Char} (h : ∀ c ∈ cs, isBlank c = false) :
    trim (String.ofList cs) = String.ofList cs := by
  rw [trim, String.toList_ofList, trim_eq_self (fun c hc => h c (List.mem_of_head? hc))
    fun c hc => h c (List.mem_of_getLast? hc)]

/-- The visible characters of ASCII are no blanks. -/
theorem isBlank_eq_false {c : Char} (h : 33 ≤ c.toNat ∧ c.toNat ≤ 126) : isBlank c = false := by
  rw [Bool.eq_false_iff]
  simp only [isBlank, inRanges, blankRanges, List.any_cons, List.any_nil, Bool.or_false, ne_eq,
    Bool.or_eq_true, Bool.and_eq_true, decide_eq_true_eq]
  omega

theorem isBlank_of_isDigit {c : Char} (h : c.isDigit = true) : isBlank c = false := by
  obtain ⟨hlow, hhigh⟩ := Char.isDigit_iff_toNat.mp h
  exact isBlank_eq_false ⟨Nat.le_trans (by decide) hlow, Nat.le_trans hhigh (by decide)⟩

theorem ne_of_isBlank {c d : Char} (h : isBlank c = true) (hd : isBlank d = false) : c ≠ d := by
  rintro rfl
  rw [h] at hd; cases hd

theorem isDigit_of_isBlank {c : Char} (h : isBlank c = true) : c.isDigit = false := by
  by_contra hc
  rw [Bool.not_eq_false] at hc
  rw [isBlank_of_isDigit hc] at h; cases h

theorem isAlpha_iff_toNat {c : Char} : c.isAlpha = true ↔
    (65 ≤ c.toNat ∧ c.toNat ≤ 90) ∨ (97 ≤ c.toNat ∧ c.toNat ≤ 122) := by
  have halpha : c.isAlpha = (decide (65 ≤ c.val ∧ c.val ≤ 90) ||
      (decide (97 ≤ c.val) && decide (c.val ≤ 122))) := rfl
  rw [halpha, Bool.or_eq_true, Bool.and_eq_true, decide_eq_true_eq, decide_eq_true_eq, decide_eq_true_eq]
  rfl

theorem all_isDigit_toString (n : Nat) : (toString n).toList.all Char.isDigit = true := by
  rw [List.all_eq_true]
  intro c hc
  rw [Nat.toString_eq_repr, Nat.repr, String.toList_ofList] at hc
  exact Nat.isDigit_of_mem_toDigits (by decide) (by decide) hc

/-- The characters of the text of an integer. -/
theorem toList_toString (n : Int) :
    (toString n).toList =
      if 0 ≤ n then Nat.toDigits 10 n.toNat else '-' :: Nat.toDigits 10 (-n).toNat := by
  rw [Int.toString_eq_repr, Int.repr_eq_if]
  split
  · exact Nat.toList_repr
  · rw [String.toList_append, Nat.toList_repr]
    rfl

@[simp] theorem trim_toString (n : Int) : trim (toString n) = toString n := by
  have hdigits : ∀ m : Nat, ∀ c ∈ Nat.toDigits 10 m, isBlank c = false := fun m c hc =>
    isBlank_of_isDigit (Nat.isDigit_of_mem_toDigits (by decide) (by decide) hc)
  rw [← String.ofList_toList (s := toString n)]
  apply trim_ofList
  rw [toList_toString]
  split
  · exact hdigits _
  · intro c hc
    rcases List.mem_cons.mp hc with rfl | hc
    · decide
    · exact hdigits _ c hc

theorem toString_ne_empty (n : Int) : toString n ≠ "" := by
  intro h
  have hlist := congrArg String.toList h
  rw [toList_toString] at hlist
  split at hlist
  · exact Nat.toDigits_ne_nil hlist
  · exact List.cons_ne_nil _ _ hlist

/-! ### Case -/

/-- Letters are no blanks in either case. -/
theorem isBlank_toLower (c : Char) : isBlank c.toLower = isBlank c := by
  unfold Char.toLower
  split
  · next h =>
    have hlow : 65 ≤ c.toNat := UInt32.le_iff_toNat_le.mp h.1
    have hhigh : c.toNat ≤ 90 := UInt32.le_iff_toNat_le.mp h.2
    have hval : (c.val + ('a'.val - 'A'.val)).toNat = c.toNat + 32 := by
      rw [UInt32.toNat_add, Char.toNat_val]
      exact Nat.mod_eq_of_lt (Nat.lt_of_le_of_lt (Nat.add_le_add_right hhigh 32) (by decide))
    rw [isBlank_eq_false (c := c) (by omega), isBlank_eq_false]
    rw [← Char.toNat_val, hval]
    omega
  · rfl

theorem lower_trim (s : String) : lower (trim s) = trim (lower s) := by
  have hblank : isBlank ∘ Char.toLower = isBlank := funext isBlank_toLower
  simp only [lower, trim, trimStart, trimEnd, String.toList_ofList, List.dropWhile_map, hblank,
    ← List.map_reverse]

/-- What is equal up to case to a trimmed text is equal up to case to its own trimmed form. -/
theorem sameFold_trim {s t : String} (h : sameFold s (trim t) = true) :
    sameFold s (trim s) = true := by
  simp only [sameFold, beq_iff_eq] at h ⊢
  rw [lower_trim, h, lower_trim, trim_trim]

end ScopedQuery.Text
