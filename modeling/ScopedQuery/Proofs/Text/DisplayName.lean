import ScopedQuery.Proofs.Text.Trim
import ScopedQuery.Text.DisplayName
/-!
# Display names made twice

* `LegalChar` lists the characters of display names; `CleanOf` compares a name with a text place by place,
  and `cleanOf_cleanName` says that so it is with the name that is made of the text.
* `IsDisplayName.displayName_eq`: a text that is not empty and has legal characters only is its own display
  name.
* `isDisplayName_displayName`: a display name with a fallback that is not empty is such a text.
-/

namespace ScopedQuery.Text

/-! ### Legal characters -/

/-- A digit or a letter of ASCII, an underscore or a common Chinese ideograph. -/
def LegalChar (c : Char) : Prop :=
  '0' ≤ c ∧ c ≤ '9' ∨ 'A' ≤ c ∧ c ≤ 'Z' ∨ 'a' ≤ c ∧ c ≤ 'z' ∨ c = '_' ∨
    0x4E00 ≤ c.toNat ∧ c.toNat ≤ 0x9FA5

theorem isNameChar_iff {c : Char} : isNameChar c = true ↔ LegalChar c := by
  have hletter : c.isAlpha = true ↔ 'A' ≤ c ∧ c ≤ 'Z' ∨ 'a' ≤ c ∧ c ≤ 'z' := isAlpha_iff_toNat
  have hdigit : c.isDigit = true ↔ '0' ≤ c ∧ c ≤ '9' := Char.isDigit_iff_toNat
  rw [LegalChar, isNameChar, Bool.or_eq_true, Bool.or_eq_true, Char.isAlphanum, Bool.or_eq_true,
    hletter, hdigit, Bool.and_eq_true, decide_eq_true_eq, decide_eq_true_eq, beq_iff_eq,
    or_comm (b := '0' ≤ c ∧ c ≤ '9'), or_assoc, or_assoc, or_assoc]

theorem isBlank_of_isNameChar {c : Char} (h : isNameChar c = true) : isBlank c = false := by
  simp only [isNameChar, Char.isAlphanum, Bool.or_eq_true, isAlpha_iff_toNat, Bool.and_eq_true,
    decide_eq_true_eq, beq_iff_eq] at h
  rcases h with ((hletter | hdigit) | rfl) | ⟨hlow, hhigh⟩
  · exact isBlank_eq_false (by omega)
  · exact isBlank_of_isDigit hdigit
  · decide
  · simp only [isBlank, inRanges, blankRanges, List.any_cons, List.any_nil, Bool.or_false,
      Bool.or_eq_false_iff, Bool.and_eq_false_iff, decide_eq_false_iff_not]
    omega

/-! ### Clean names -/

theorem toList_cleanName (s : String) :
    (cleanName s).toList = s.toList.map fun c => if isNameChar c then c else '_' := by
  rw [cleanName, String.toList_ofList]

/-- The name has a character for each one of the text: itself if it is legal, and `_` if it is not. -/
structure CleanOf (name text : String) : Prop where
  length : name.length = text.length
  legal : ∀ (i : Nat) c, text.toList[i]? = some c → LegalChar c → name.toList[i]? = some c
  other : ∀ (i : Nat) c, text.toList[i]? = some c → ¬LegalChar c → name.toList[i]? = some '_'

theorem cleanOf_cleanName (s : String) : CleanOf (cleanName s) s where
  length := by
    rw [← String.length_toList, toList_cleanName, List.length_map, String.length_toList]
  legal := by
    intro i c hc hlegal
    rw [toList_cleanName, List.getElem?_map, hc, Option.map_some, if_pos (isNameChar_iff.mpr hlegal)]
  other := by
    intro i c hc hother
    rw [toList_cleanName, List.getElem?_map, hc, Option.map_some,
      if_neg (isNameChar_iff.not.mpr hother)]

/-- The characters next to the ideographs on either side are not legal. -/
example : cleanName "\u4dff一龥\u9fa6" = "_一龥_" := by decide

theorem isNameChar_of_mem_cleanName {s : String} {c : Char} (h : c ∈ (cleanName s).toList) :
    isNameChar c = true := by
  rw [toList_cleanName] at h
  obtain ⟨d, -, rfl⟩ := List.mem_map.mp h
  split
  · assumption
  · decide

theorem cleanName_ne_empty {s : String} (h : s ≠ "") : cleanName s ≠ "" := by
  intro hempty
  rw [← String.toList_inj, toList_cleanName] at hempty
  exact h (by simpa using hempty)

/-- Legal characters are left as they are. -/
theorem cleanName_eq_self {s : String} (h : ∀ c ∈ s.toList, isNameChar c = true) :
    cleanName s = s := by
  rw [← String.toList_inj, toList_cleanName]
  exact (List.map_congr_left fun c hc => if_pos (h c hc)).trans (List.map_id' _)

/-! ### Display names -/

/-- A label that is not blank is cleaned without the blanks around it. -/
theorem displayName_of_filled {label : String} (h : trim label ≠ "") (fallback : String) :
    displayName (some label) fallback = cleanName (trim label) := by
  simp only [displayName, filled?, Option.bind_some, nonBlank?, if_neg h, Option.getD_some]

/-- In place of a blank label the fallback is cleaned. -/
theorem displayName_of_blank {label : String} (h : trim label = "") (fallback : String) :
    displayName (some label) fallback = cleanName fallback := by
  simp only [displayName, filled?, Option.bind_some, nonBlank?, if_pos h, Option.getD_none]

theorem isNameChar_of_mem_displayName {raw : Option String} {fallback : String} {c : Char}
    (h : c ∈ (displayName raw fallback).toList) : isNameChar c = true :=
  isNameChar_of_mem_cleanName h

theorem displayName_ne_empty (raw : Option String) {fallback : String} (h : fallback ≠ "") :
    displayName raw fallback ≠ "" := by
  apply cleanName_ne_empty
  cases hraw : filled? raw with
  | none => exact h
  | some text => exact (filled?_eq_some.mp hraw).choose_spec.2.2

/-- A text that is not empty, of ASCII letters and digits, underscores and common Chinese ideographs. -/
def IsDisplayName (s : String) : Prop :=
  s ≠ "" ∧ ∀ c ∈ s.toList, c.isAlphanum = true ∨ c = '_' ∨ 0x4E00 ≤ c.toNat ∧ c.toNat ≤ 0x9FA5

theorem isDisplayName_iff {s : String} :
    IsDisplayName s ↔ s ≠ "" ∧ ∀ c ∈ s.toList, isNameChar c = true := by
  simp only [IsDisplayName, isNameChar, Bool.or_eq_true, Bool.and_eq_true, decide_eq_true_eq,
    beq_iff_eq, or_assoc]

theorem isDisplayName_of_ne_empty {raw : Option String} {fallback : String}
    (h : displayName raw fallback ≠ "") : IsDisplayName (displayName raw fallback) :=
  isDisplayName_iff.mpr ⟨h, fun _ hc => isNameChar_of_mem_displayName hc⟩

theorem isDisplayName_displayName (raw : Option String) {fallback : String} (h : fallback ≠ "") :
    IsDisplayName (displayName raw fallback) :=
  isDisplayName_of_ne_empty (displayName_ne_empty raw h)

/-- What is a display name already is not changed, whatever the fallback. -/
theorem IsDisplayName.displayName_eq {name : String} (h : IsDisplayName name) (fallback : String) :
    displayName (some name) fallback = name := by
  obtain ⟨hne, hlegal⟩ := isDisplayName_iff.mp h
  have htrim : trim name = name := by
    rw [← String.ofList_toList (s := name)]
    exact trim_ofList fun c hc => isBlank_of_isNameChar (hlegal c hc)
  have hfilled : trim name ≠ "" := by
    rw [htrim]
    exact hne
  rw [displayName_of_filled hfilled, htrim, cleanName_eq_self hlegal]

/-- A display name is its own display name. -/
theorem displayName_displayName (raw : Option String) {first : String} (h : first ≠ "")
    (second : String) : displayName (some (displayName raw first)) second = displayName raw first :=
  (isDisplayName_displayName raw h).displayName_eq second

end ScopedQuery.Text
