import ScopedQuery.Proofs.Text.Neat
import ScopedQuery.Text.Lower
/-!
# Lower case and the blanks around a text

A blank has no case, and no word goes on behind it. So the blanks around a text do not matter to the lower
case of its letters, the sigma at the end of a word included.

* `exists_toLower_eq`: lower case changes a text between its blanks only, as it changes the trimmed text.
* `infix_toLower_trim`: whatever neither starts nor ends with a blank occurs in the lower case of a text
  just if it occurs in that of the trimmed text.
-/

namespace ScopedQuery.Text

/-- Every character of the list is a blank. -/
abbrev Blanks (cs : List Char) : Prop := ∀ c ∈ cs, isBlank c = true

/-! ### Lower case -/

/-- The numbers of all blanks. -/
def blanks : List Nat := blankRanges.flatMap fun r => List.range' r.1 (r.2 + 1 - r.1)

theorem mem_blanks {c : Char} (h : isBlank c = true) : c.toNat ∈ blanks := by
  obtain ⟨r, hr, hin⟩ := List.any_eq_true.mp h
  simp only [Bool.and_eq_true, decide_eq_true_eq] at hin
  exact List.mem_flatMap.mpr ⟨r, hr, List.mem_range'_1.mpr (by omega)⟩

/-- A blank has no case, and the test for the end of a word does not skip it. -/
theorem lower_blank {c : Char} (h : isBlank c = true) :
    c ≠ 'Σ' ∧ lowerChar c = [c] ∧ inRanges caseIgnorableRanges c.toNat = false ∧
      inRanges casedRanges c.toNat = false := by
  have hall : ∀ n ∈ blanks, Char.ofNat n ≠ 'Σ' ∧ lowerChar (Char.ofNat n) = [Char.ofNat n] ∧
      inRanges caseIgnorableRanges n = false ∧ inRanges casedRanges n = false := by decide +kernel
  have hc := hall c.toNat (mem_blanks h)
  rwa [Char.ofNat_toNat] at hc

/-- A word ends where blanks follow. -/
theorem startsCased_append {bs : List Char} (h : Blanks bs) (cs : List Char) :
    startsCased (cs ++ bs) = startsCased cs := by
  have hnone : startsCased bs = false := by
    cases bs with
    | nil => rfl
    | cons b bs =>
      obtain ⟨-, -, hskip, hcased⟩ := lower_blank (h b List.mem_cons_self)
      simp only [startsCased, List.dropWhile_cons, hskip, Bool.false_eq_true, if_false, hcased]
  cases hdrop : cs.dropWhile (fun c => inRanges caseIgnorableRanges c.toNat) with
  | nil =>
    simp only [startsCased] at hnone
    simp only [startsCased, List.dropWhile_append, hdrop, List.isEmpty_nil, if_true, hnone]
  | cons c rest =>
    simp only [startsCased, List.dropWhile_append, hdrop, List.isEmpty_cons, Bool.false_eq_true,
      if_false, List.cons_append]

theorem lowerFrom_lead {bs : List Char} (h : Blanks bs) (before cs : List Char) :
    lowerFrom before (bs ++ cs) = bs ++ lowerFrom (bs.reverse ++ before) cs := by
  induction bs generalizing before with
  | nil => rfl
  | cons b bs ih =>
    obtain ⟨hsigma, hlower, -⟩ := lower_blank (h b List.mem_cons_self)
    rw [List.cons_append, lowerFrom, if_neg hsigma, hlower,
      ih fun c hc => h c (List.mem_cons_of_mem b hc)]
    simp

/-- Neither blanks before what comes before a text nor blanks behind the text matter to it. -/
theorem lowerFrom_append {lead trail : List Char} (hlead : Blanks lead) (htrail : Blanks trail)
    (before cs : List Char) :
    lowerFrom (before ++ lead) (cs ++ trail) = lowerFrom before cs ++ trail := by
  induction cs generalizing before with
  | nil =>
    have hblank := lowerFrom_lead htrail (before ++ lead) []
    rw [List.append_nil, lowerFrom, List.append_nil] at hblank
    rw [List.nil_append, hblank, lowerFrom, List.nil_append]
  | cons c cs ih =>
    have hrest := ih (c :: before)
    rw [List.cons_append] at hrest
    rw [List.cons_append, lowerFrom, startsCased_append hlead, startsCased_append htrail, hrest,
      lowerFrom, List.append_assoc]

/-! ### Texts between blanks -/

/-- A text is its trimmed form between blanks. -/
theorem exists_blanks_around (s : String) :
    ∃ lead trail, Blanks lead ∧ Blanks trail ∧ s.toList = lead ++ (trim s).toList ++ trail := by
  have hstart := List.takeWhile_append_dropWhile (p := isBlank) (l := s.toList)
  have hend := List.takeWhile_append_dropWhile (p := isBlank) (l := (trimStart s.toList).reverse)
  refine ⟨s.toList.takeWhile isBlank, ((trimStart s.toList).reverse.takeWhile isBlank).reverse,
    fun c hc => List.mem_takeWhile_imp hc, fun c hc => ?_, ?_⟩
  · exact List.mem_takeWhile_imp (List.mem_reverse.mp hc)
  · have htrim : (trim s).toList = ((trimStart s.toList).reverse.dropWhile isBlank).reverse := by
      rw [trim, String.toList_ofList, trimEnd]
    rw [List.append_assoc, htrim, ← List.reverse_append, hend, List.reverse_reverse, trimStart, hstart]

/-- Lower case changes a text between its blanks only, as it changes the trimmed text. -/
theorem exists_toLower_eq (s : String) :
    ∃ lead trail, Blanks lead ∧ Blanks trail ∧
      (toLower s).toList = lead ++ (toLower (trim s)).toList ++ trail := by
  obtain ⟨lead, trail, hlead, htrail, hs⟩ := exists_blanks_around s
  refine ⟨lead, trail, hlead, htrail, ?_⟩
  have hmiddle := lowerFrom_append (fun c hc => hlead c (List.mem_reverse.mp hc)) htrail [] (trim s).toList
  rw [toLower, toLower, String.toList_ofList, String.toList_ofList, hs, List.append_assoc,
    lowerFrom_lead hlead, List.append_nil, ← List.nil_append lead.reverse, hmiddle, List.append_assoc]

theorem infix_lead_iff {piece lead cs : List Char} (hfirst : piece.head?.any (!isBlank ·) = true)
    (hlead : Blanks lead) : piece <:+: lead ++ cs ↔ piece <:+: cs := by
  induction lead with
  | nil => rfl
  | cons b lead ih =>
    have hno : ¬piece <+: b :: (lead ++ cs) := by
      intro hprefix
      cases piece with
      | nil => cases hfirst
      | cons c piece =>
        obtain rfl := (List.cons_prefix_cons.mp hprefix).1
        simp [hlead c List.mem_cons_self] at hfirst
    rw [List.cons_append, List.infix_cons_iff, ih fun c hc => hlead c (List.mem_cons_of_mem b hc)]
    exact or_iff_right hno

theorem infix_trail_iff {piece trail cs : List Char} (hlast : piece.getLast?.any (!isBlank ·) = true)
    (htrail : Blanks trail) : piece <:+: cs ++ trail ↔ piece <:+: cs := by
  rw [← List.reverse_infix, List.reverse_append, infix_lead_iff ?_ ?_, List.reverse_infix]
  · rwa [List.head?_reverse]
  · exact fun c hc => htrail c (List.mem_reverse.mp hc)

/-- What neither starts nor ends with a blank is not found in the blanks around a text. -/
theorem infix_toLower_trim {piece : String} (h : Neat piece) (s : String) :
    piece.toList <:+: (toLower (trim s)).toList ↔ piece.toList <:+: (toLower s).toList := by
  obtain ⟨lead, trail, hlead, htrail, hs⟩ := exists_toLower_eq s
  rw [hs, infix_trail_iff h.last htrail, infix_lead_iff h.first hlead]

end ScopedQuery.Text
