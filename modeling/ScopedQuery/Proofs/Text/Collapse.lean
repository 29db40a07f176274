import Mathlib.Tactic.Common
import ScopedQuery.Text.Blank
/-!
# Collapsed blanks

* `squeeze` writes one space for each run of blanks, from the left to the right; `toList_collapse` says
  that `collapse` does the same to a text.
* `Tight` holds of characters that `squeeze` leaves as they are.
-/

namespace ScopedQuery.Text

/-- The characters with one space for each run of blanks, and none at the end; `gap` says that blanks
stand in front of them. -/
def squeeze (gap : Bool) : List Char → List Char
  | [] => []
  | c :: cs =>
    if isBlank c then squeeze true cs
    else if gap then ' ' :: c :: squeeze false cs else c :: squeeze false cs

/-- Blanks are single spaces between other characters. -/
def Tight (cs : List Char) : Prop := squeeze false cs = cs

@[simp] theorem squeeze_nil (gap : Bool) : squeeze gap [] = [] := rfl

theorem squeeze_blank {gap : Bool} {c : Char} {cs : List Char} (h : isBlank c = true) :
    squeeze gap (c :: cs) = squeeze true cs := by
  rw [squeeze, if_pos h]

theorem squeeze_filled {c : Char} {cs : List Char} (h : isBlank c = false) :
    squeeze false (c :: cs) = c :: squeeze false cs := by
  simp [squeeze, h]

theorem squeeze_gap_filled {c : Char} {cs : List Char} (h : isBlank c = false) :
    squeeze true (c :: cs) = ' ' :: c :: squeeze false cs := by
  simp [squeeze, h]

/-- Behind blanks there is nothing more, or a space and what else there is. -/
theorem squeeze_true (cs : List Char) :
    squeeze true cs =
      if trimStart cs = [] then [] else ' ' :: squeeze false (trimStart cs) := by
  induction cs with
  | nil => rfl
  | cons c cs ih =>
    by_cases h : isBlank c = true
    · have htrim : trimStart (c :: cs) = trimStart cs := by simp [trimStart, h]
      rw [squeeze_blank h, ih, htrim]
    · rw [Bool.not_eq_true] at h
      rw [squeeze_gap_filled h, ← squeeze_filled h]
      simp [trimStart, h]

/-- The characters behind a space if there is a gap in front of them. -/
def lead (gap : Bool) (cs : List Char) : List Char := if gap then ' ' :: cs else cs

@[simp] theorem lead_false (cs : List Char) : lead false cs = cs := rfl

@[simp] theorem lead_true (cs : List Char) : lead true cs = ' ' :: cs := rfl

theorem lead_inj {gap : Bool} {cs ds : List Char} : lead gap cs = lead gap ds ↔ cs = ds := by
  cases gap <;> simp

theorem squeeze_lead {gap : Bool} {c : Char} {cs : List Char} (h : isBlank c = false) :
    squeeze gap (c :: cs) = lead gap (c :: squeeze false cs) := by
  cases gap <;> simp [squeeze, h]

/-- Only the first character can be a space that stands for blanks before. -/
theorem squeeze_true_cases (cs : List Char) :
    squeeze true cs = [] ∨ ∃ ds, squeeze true cs = ' ' :: ds := by
  rw [squeeze_true]
  split
  · exact .inl rfl
  · exact .inr ⟨_, rfl⟩

theorem length_squeeze_le (gap : Bool) (cs : List Char) :
    (squeeze gap cs).length ≤ (lead gap cs).length := by
  induction cs generalizing gap with
  | nil => cases gap <;> simp
  | cons c cs ih =>
    by_cases h : isBlank c = true
    · have hle := ih true
      rw [squeeze_blank h]
      cases gap <;> simp only [lead_true, lead_false, List.length_cons] at hle ⊢ <;> omega
    · rw [Bool.not_eq_true] at h
      have hle := ih false
      rw [squeeze_lead h]
      cases gap <;> simp only [lead_true, lead_false, List.length_cons] at hle ⊢ <;> omega

/-! ### Tight characters -/

theorem squeeze_append_of_filled {cs : List Char} (h : ∀ c ∈ cs, isBlank c = false)
    (ds : List Char) : squeeze false (cs ++ ds) = cs ++ squeeze false ds := by
  induction cs with
  | nil => rfl
  | cons c cs ih =>
    rw [List.cons_append, squeeze_filled (h c (by simp)), ih fun d hd => h d (by simp [hd])]
    rfl

theorem tight_of_filled {cs : List Char} (h : ∀ c ∈ cs, isBlank c = false) : Tight cs := by
  have happend := squeeze_append_of_filled h []
  rwa [List.append_nil, squeeze_nil, List.append_nil] at happend

/-- Of all blanks only the space is left. -/
theorem eq_space_of_mem_squeeze {gap : Bool} {cs : List Char} {c : Char}
    (hc : c ∈ squeeze gap cs) (hb : isBlank c = true) : c = ' ' := by
  induction cs generalizing gap with
  | nil => simp at hc
  | cons d cs ih =>
    by_cases h : isBlank d = true
    · exact ih (squeeze_blank h ▸ hc)
    · rw [Bool.not_eq_true] at h
      rw [squeeze_lead h] at hc
      have hrest : c ∈ d :: squeeze false cs → c = ' ' := by
        intro hm
        rcases List.mem_cons.mp hm with rfl | hm
        · rw [h] at hb; cases hb
        · exact ih hm
      cases gap with
      | false => exact hrest hc
      | true => exact (List.mem_cons.mp hc).elim id hrest

theorem Tight.eq_space {cs : List Char} (h : Tight cs) {c : Char} (hc : c ∈ cs)
    (hb : isBlank c = true) : c = ' ' := by
  have hmem : c ∈ squeeze false cs := h.symm ▸ hc
  exact eq_space_of_mem_squeeze hmem hb

/-- Behind a character that is no blank squeezing starts afresh. -/
theorem squeeze_append {gap : Bool} {cs : List Char} {d : Char} (hd : cs.getLast? = some d)
    (h : isBlank d = false) (ds : List Char) :
    squeeze gap (cs ++ ds) = squeeze gap cs ++ squeeze false ds := by
  induction cs generalizing gap with
  | nil => simp at hd
  | cons c cs ih =>
    have hlast : cs = [] ∨ cs.getLast? = some d := by
      cases cs with
      | nil => exact .inl rfl
      | cons c' cs => exact .inr (by simpa using hd)
    rcases hlast with rfl | hlast
    · obtain rfl : c = d := by simpa using hd
      rw [List.singleton_append, squeeze_lead h, squeeze_lead h]
      cases gap <;> rfl
    · by_cases hc : isBlank c = true
      · rw [List.cons_append, squeeze_blank hc, squeeze_blank hc, ih hlast]
      · rw [Bool.not_eq_true] at hc
        rw [List.cons_append, squeeze_lead hc, squeeze_lead hc, ih hlast]
        cases gap <;> rfl

/-! ### Reading ahead -/

/-- The next character is the same, or there is a blank before and a space or nothing after. -/
theorem head?_squeeze (cs : List Char) :
    (squeeze false cs).head? = cs.head? ∨
      (∃ c, cs.head? = some c ∧ isBlank c = true) ∧
        ((squeeze false cs).head? = none ∨ (squeeze false cs).head? = some ' ') := by
  cases cs with
  | nil => exact .inl rfl
  | cons c cs =>
    by_cases h : isBlank c = true
    · refine .inr ⟨⟨c, rfl, h⟩, ?_⟩
      rw [squeeze_blank h]
      rcases squeeze_true_cases cs with hnil | ⟨ds, hds⟩
      · exact .inl (by rw [hnil]; rfl)
      · exact .inr (by rw [hds]; rfl)
    · rw [Bool.not_eq_true] at h
      exact .inl (by rw [squeeze_filled h]; rfl)

/-- A character that is no blank comes next, or does not, before as after. -/
theorem head?_squeeze_eq_some {cs : List Char} {d : Char} (h : isBlank d = false) :
    (squeeze false cs).head? = some d ↔ cs.head? = some d := by
  have hspace : isBlank ' ' = true := by decide
  rcases head?_squeeze cs with heq | ⟨⟨c, hc, hb⟩, hnone | hsome⟩
  · rw [heq]
  · rw [hnone, hc]
    simp only [reduceCtorEq, Option.some.injEq, false_iff]
    rintro rfl
    rw [h] at hb; cases hb
  · rw [hsome, hc]
    simp only [Option.some.injEq]
    constructor
    · rintro rfl
      rw [h] at hspace; cases hspace
    · rintro rfl
      rw [h] at hb; cases hb

/-- A run of characters, none of which is a space, goes on up to its first blank. -/
theorem takeWhile_squeeze {f : Char → Bool} (hf : f ' ' = false) (cs : List Char) :
    (squeeze false cs).takeWhile f = (cs.takeWhile f).takeWhile fun c => !isBlank c := by
  induction cs with
  | nil => rfl
  | cons c cs ih =>
    by_cases h : isBlank c = true
    · rw [squeeze_blank h]
      have hleft : (squeeze true cs).takeWhile f = [] := by
        rcases squeeze_true_cases cs with hnil | ⟨ds, hds⟩
        · rw [hnil]; rfl
        · rw [hds]; simp [hf]
      rw [hleft, List.takeWhile_cons]
      split
      · simp [h]
      · rfl
    · rw [Bool.not_eq_true] at h
      rw [squeeze_filled h, List.takeWhile_cons, List.takeWhile_cons]
      by_cases hc : f c = true
      · simp [hc, h, ih]
      · simp [hc]

/-- A run without blanks is the same, and so is what follows. -/
theorem dropWhile_squeeze {f : Char → Bool} (hf : f ' ' = false) {cs : List Char}
    (h : ∀ c ∈ cs.takeWhile f, isBlank c = false) :
    (squeeze false cs).dropWhile f = squeeze false (cs.dropWhile f) := by
  induction cs with
  | nil => rfl
  | cons c cs ih =>
    by_cases hc : f c = true
    · simp only [List.takeWhile_cons, hc, if_true, List.mem_cons, forall_eq_or_imp] at h
      rw [squeeze_filled h.1, List.dropWhile_cons, if_pos hc, List.dropWhile_cons, if_pos hc]
      exact ih h.2
    · rw [List.dropWhile_cons (x := c), if_neg hc]
      by_cases hb : isBlank c = true
      · rw [squeeze_blank hb]
        rcases squeeze_true_cases cs with hnil | ⟨ds, hds⟩
        · rw [hnil]; rfl
        · rw [hds]; simp [hf]
      · rw [Bool.not_eq_true] at hb
        rw [squeeze_filled hb, List.dropWhile_cons, if_neg hc]

/-- A run that stays the same holds no blank. -/
theorem filled_of_takeWhile_eq {cs : List Char} (h : (cs.takeWhile fun c => !isBlank c) = cs) :
    ∀ c ∈ cs, isBlank c = false := by
  intro c hc
  have hall := List.all_takeWhile (p := fun c => !isBlank c) (l := cs)
  rw [h, List.all_eq_true] at hall
  simpa using hall c hc

/-! ### Collapsing a text -/

theorem wordsFrom_nil_iff (cs : List Char) : wordsFrom [] cs = [] ↔ trimStart cs = [] := by
  induction cs with
  | nil => simp [wordsFrom, trimStart]
  | cons c cs ih =>
    by_cases h : isBlank c = true
    · simpa [wordsFrom, trimStart, h] using ih
    · have hne : ∀ (w ds : List Char), w ≠ [] → wordsFrom w ds ≠ [] := by
        intro w ds
        induction ds generalizing w with
        | nil => intro hw; simp [wordsFrom, hw]
        | cons d ds ihd =>
          intro hw
          by_cases hd : isBlank d = true
          · simp [wordsFrom, hd, hw]
          · simp only [wordsFrom, hd, Bool.false_eq_true, if_false]
            exact ihd _ (by simp)
      simp [wordsFrom, trimStart, h, hne]

/-- The words of a text with single spaces between them, where `word` holds what is read of the
first word, backwards. -/
theorem intercalate_wordsFrom (word cs : List Char) :
    List.intercalate [' '] (wordsFrom word cs) =
      if word = [] then squeeze false (trimStart cs) else word.reverse ++ squeeze false cs := by
  induction cs generalizing word with
  | nil =>
    by_cases hw : word = []
    · simp [wordsFrom, hw, trimStart]
    · simp [wordsFrom, hw]
  | cons c cs ih =>
    by_cases h : isBlank c = true
    · by_cases hw : word = []
      · simp only [wordsFrom, h, hw, List.isEmpty_nil, if_true, ih]
        simp [trimStart, h]
      · simp only [wordsFrom, h, hw, List.isEmpty_iff, if_true, if_false, squeeze_blank h,
          squeeze_true]
        by_cases hrest : trimStart cs = []
        · rw [if_pos hrest, (wordsFrom_nil_iff cs).mpr hrest]
          simp
        · rw [if_neg hrest]
          have hne : wordsFrom [] cs ≠ [] := mt (wordsFrom_nil_iff cs).mp hrest
          obtain ⟨w, ws, hws⟩ := List.exists_cons_of_ne_nil hne
          have hcollapse := ih []
          rw [if_pos rfl] at hcollapse
          rw [hws, List.intercalate_cons_cons, ← hws, hcollapse]
          simp
    · rw [Bool.not_eq_true] at h
      simp only [wordsFrom, h, Bool.false_eq_true, if_false, ih, squeeze_filled h]
      by_cases hw : word = []
      · simp [hw, trimStart, h, squeeze_filled h]
      · simp [hw]

theorem toList_collapse (s : String) :
    (collapse s).toList = squeeze false (trimStart s.toList) := by
  have hmap : ∀ ws : List (List Char), (ws.map String.ofList).map String.toList = ws := by
    intro ws
    simp [Function.comp_def]
  rw [collapse, words, String.toList_intercalate, hmap]
  exact intercalate_wordsFrom [] s.toList

end ScopedQuery.Text
