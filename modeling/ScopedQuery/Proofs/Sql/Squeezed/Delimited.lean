import ScopedQuery.Proofs.Sql.Scan
import ScopedQuery.Proofs.Text.Collapse
import ScopedQuery.Proofs.Text.Trim
/-!
# Squeezed quotations

What becomes of a token when each run of blanks in the text is replaced by one space.

* `Kept` says that a token is read again, and nothing else instead, just if its own characters are
  tight.
* `StaysDelimited`: squeezed, a delimited text is delimited again, and it is the same just if its
  characters are. This holds of all delimited texts (`Delimited.squeezed`).
* `Reads.kept`: quotations and quoted names are kept.
-/

namespace ScopedQuery.Sql.Token

open Text (isBlank squeeze lead Tight)

/-- A token `t`, read off the start of `whole` with `rest` left, is what `read` is again just if the
characters that it was read off are tight. -/
def Kept (whole rest : List Char) (t : Token) (read : Option (Option Token × List Char)) : Prop :=
  ∃ piece, whole = piece ++ rest ∧
    (Tight piece → read = some (some t, squeeze false rest)) ∧
    ∀ token rest', read = some (token, rest') → ∃ t', token = some t' ∧ (t' = t → Tight piece)

/-- A token that is read off characters without blanks, and is read again, is kept. -/
theorem Kept.of_filled {whole : List Char} (piece : List Char) {read read' : Token × List Char}
    (hwhole : whole = piece ++ read.2) (hpiece : ∀ c ∈ piece, isBlank c = false)
    (hread : read' = (read.1, squeeze false read.2)) :
    Kept whole read.2 read.1 (some (some read'.1, read'.2)) := by
  refine ⟨piece, hwhole, fun _ => by rw [hread], fun token rest' h => ?_⟩
  obtain ⟨rfl, rfl⟩ := Prod.mk.inj (Option.some.inj h)
  exact ⟨read'.1, rfl, fun _ => Text.tight_of_filled hpiece⟩

/-- A token is kept too if its own characters are not tight and another one is read instead. -/
theorem Kept.of_loose {whole rest rest' : List Char} {t t' : Token} (piece : List Char)
    (hwhole : whole = piece ++ rest) (hpiece : ¬Tight piece) (hne : t' ≠ t) :
    Kept whole rest t (some (some t', rest')) := by
  refine ⟨piece, hwhole, fun htight => absurd htight hpiece, fun token rest h => ?_⟩
  obtain ⟨rfl, -⟩ := Prod.mk.inj (Option.some.inj h)
  exact ⟨t', rfl, fun heq => absurd heq hne⟩

/-! ### Delimited texts -/

section

variable {mark : Char} {meaning : Option (Char → Char)} {piece text : List Char}

theorem Delimited.getLast? (h : Delimited mark meaning piece text) :
    piece.getLast? = some mark := by
  induction h with
  | close => rfl
  | doubled _ ih => simp [List.getLast?_cons, ih]
  | meant _ _ _ ih => simp [List.getLast?_cons, ih]
  | other _ _ _ ih => simp [List.getLast?_cons, ih]

/-- A delimited text behind a space is delimited too: the space stands for itself. -/
theorem Delimited.lead_gap (hm : isBlank mark = false) (h : Delimited mark meaning piece text) (gap : Bool) :
    Delimited mark meaning (lead gap piece) (lead gap text) := by
  cases gap with
  | false => exact h
  | true =>
    have hspace : ' ' ≠ mark := by
      rintro rfl
      exact absurd hm (by decide)
    exact .other hspace (fun h => absurd h (by decide)) h

theorem Delimited.tail_of_space (hm : isBlank mark = false)
    (h : Delimited mark meaning (' ' :: piece) text) :
    ∃ t, text = ' ' :: t ∧ Delimited mark meaning piece t := by
  cases h with
  | close => exact absurd hm (by decide)
  | doubled => exact absurd hm (by decide)
  | other _ _ inner => exact ⟨_, rfl, inner⟩

/-- What is left of the characters behind a blank is a space and the rest, if it is delimited: at
least the closing mark is left. -/
theorem Delimited.exists_of_squeeze_true (hm : isBlank mark = false)
    (h : Delimited mark meaning (squeeze true piece) text) :
    ∃ q u, squeeze true piece = ' ' :: q ∧ text = ' ' :: u ∧ Delimited mark meaning q u := by
  rcases Text.squeeze_true_cases piece with hnil | ⟨q, hq⟩
  · rw [hnil] at h
    exact nomatch h.getLast?
  · rw [hq] at h
    obtain ⟨u, hu, hqu⟩ := h.tail_of_space hm
    exact ⟨q, u, hq, hu, hqu⟩

variable (mark meaning) in
/-- Squeezed behind a gap, the characters of a text are delimited again. The text is no longer than it
was, and it is the same just if the characters are. -/
def StaysDelimited (gap : Bool) (piece text : List Char) : Prop :=
  ∃ t, Delimited mark meaning (squeeze gap piece) t ∧ t.length ≤ (lead gap text).length ∧
    (t = lead gap text ↔ squeeze gap piece = lead gap piece)

/-- Characters without blanks in front, which are read as one, stay as they are. -/
theorem StaysDelimited.filled (hm : isBlank mark = false) {c d : Char} (cs : List Char)
    (hc : ∀ x ∈ c :: cs, isBlank x = false)
    (hread : ∀ {p t : List Char}, Delimited mark meaning p t →
      Delimited mark meaning (c :: cs ++ p) (d :: t))
    (h : StaysDelimited mark meaning false piece text) (gap : Bool) :
    StaysDelimited mark meaning gap (c :: cs ++ piece) (d :: text) := by
  obtain ⟨t, ht, hlen, hiff⟩ := h
  have hsqueezed : squeeze gap (c :: cs ++ piece) = lead gap (c :: cs ++ squeeze false piece) := by
    rw [← Text.squeeze_append_of_filled hc, List.cons_append, Text.squeeze_lead (hc c (by simp)),
      Text.squeeze_filled (hc c (by simp))]
  refine ⟨lead gap (d :: t), ?_, ?_, ?_⟩
  · rw [hsqueezed]
    exact (hread ht).lead_gap hm gap
  · cases gap <;> simpa using hlen
  · rw [hsqueezed, Text.lead_inj, Text.lead_inj, List.append_cancel_left_eq]
    simpa using hiff

/-- A backslash and a blank: the blank stands for itself, and a space is left of it. -/
theorem StaysDelimited.meant_blank (hm : isBlank mark = false) {f : Char → Char} {d : Char}
    (active : meaning = some f) (differs : '\\' ≠ mark) (hd : isBlank d = true)
    (hf : ∀ d, isBlank d = true → f d = d) (h : StaysDelimited mark meaning true piece text) (gap : Bool) :
    StaysDelimited mark meaning gap ('\\' :: d :: piece) (f d :: text) := by
  have hslash : isBlank '\\' = false := by decide
  obtain ⟨t, ht, hlen, hiff⟩ := h
  obtain ⟨q, u, hq, rfl, hu⟩ := ht.exists_of_squeeze_true hm
  have hsqueezed : squeeze gap ('\\' :: d :: piece) = lead gap ('\\' :: ' ' :: q) := by
    rw [Text.squeeze_lead hslash, Text.squeeze_blank hd, hq]
  refine ⟨lead gap (' ' :: u), ?_, ?_, ?_⟩
  · have hmeant := Delimited.meant (d := ' ') active differs hu
    rw [hf ' ' (by decide)] at hmeant
    rw [hsqueezed]
    exact hmeant.lead_gap hm gap
  · cases gap <;> simpa using hlen
  · rw [hsqueezed, Text.lead_inj, Text.lead_inj, hf d hd]
    rw [hq] at hiff
    simp only [Text.lead_true, List.cons.injEq, true_and] at hiff ⊢
    rw [hiff]

/-- A blank is left out behind a gap, and a space is left of it elsewhere. -/
theorem StaysDelimited.blank (hm : isBlank mark = false) {c : Char} (hc : isBlank c = true)
    (h : StaysDelimited mark meaning true piece text) (gap : Bool) :
    StaysDelimited mark meaning gap (c :: piece) (c :: text) := by
  obtain ⟨t, ht, hlen, hiff⟩ := h
  obtain ⟨q, u, hq, rfl, -⟩ := ht.exists_of_squeeze_true hm
  have hshort := Text.length_squeeze_le true piece
  rw [StaysDelimited, Text.squeeze_blank hc]
  refine ⟨' ' :: u, ht, ?_, ?_⟩
  · cases gap <;> simp at hlen ⊢ <;> omega
  · rw [hq] at hiff hshort ⊢
    cases gap with
    | false =>
      simp only [Text.lead_true, Text.lead_false, List.cons.injEq, true_and] at hiff ⊢
      rw [hiff]
    | true =>
      -- both are too short to have the blank
      simp only [Text.lead_true, List.cons.injEq, true_and, List.length_cons] at hlen hshort ⊢
      constructor
      · rintro rfl
        rw [List.length_cons] at hlen
        omega
      · rintro rfl
        rw [List.length_cons] at hshort
        omega

/-- A delimited text is delimited after squeezing too, and it is the same text just if the characters
are. -/
theorem Delimited.squeezed (hm : isBlank mark = false)
    (hmeaning : ∀ f, meaning = some f → ∀ d, isBlank d = true → f d = d)
    (h : Delimited mark meaning piece text) (gap : Bool) :
    StaysDelimited mark meaning gap piece text := by
  induction h generalizing gap with
  | close =>
    rw [StaysDelimited, Text.squeeze_lead hm]
    exact ⟨lead gap [], Delimited.close.lead_gap hm gap, Nat.le_refl _, by simp⟩
  | doubled _ ih => exact (ih false).filled hm [mark] (by simp [hm]) .doubled gap
  | @meant f d _ _ active differs _ ih =>
    by_cases hd : isBlank d = true
    · exact (ih true).meant_blank hm active differs hd (hmeaning f active) gap
    · have hfilled : ∀ x ∈ ['\\', d], isBlank x = false := by
        rw [Bool.not_eq_true] at hd
        simpa using ⟨by decide, hd⟩
      exact (ih false).filled hm [d] hfilled (.meant active differs) gap
  | @other c _ _ differs inactive _ ih =>
    by_cases hc : isBlank c = true
    · exact (ih true).blank hm hc gap
    · exact (ih false).filled hm [] (by simpa using hc) (.other differs inactive) gap

/-- A delimited text is read again, with the same rest, and as the same just if it is tight. -/
theorem Reads.squeezed {read : List Char → Option (List Char × List Char)}
    (hread : Reads mark meaning read) (hm : isBlank mark = false)
    (hmeaning : ∀ f, meaning = some f → ∀ d, isBlank d = true → f d = d)
    {cs rest : List Char} (h : read cs = some (text, rest)) :
    ∃ p t, cs = p ++ rest ∧ read (squeeze false cs) = some (t, squeeze false rest) ∧
      (t = text ↔ Tight p) := by
  obtain ⟨p, rfl, hp, hrest⟩ := hread.eq_some_iff.mp h
  obtain ⟨t, ht, -, hiff⟩ := hp.squeezed hm hmeaning false
  refine ⟨p, t, rfl, ?_, hiff⟩
  rw [Text.squeeze_append hp.getLast? hm]
  apply hread.eq_some_iff.mpr
  refine ⟨_, rfl, ht, ?_⟩
  rwa [ne_eq, Text.head?_squeeze_eq_some hm]

end

theorem Reads.kept {mark : Char} {meaning : Option (Char → Char)}
    {read : List Char → Option (List Char × List Char)} (hread : Reads mark meaning read)
    (hm : isBlank mark = false)
    (hmeaning : ∀ f, meaning = some f → ∀ d, isBlank d = true → f d = d) {start cs : List Char}
    (hstart : ∀ c ∈ start, isBlank c = false) {text rest : List Char} (make : List Char → Token)
    (hmake : ∀ x y, make x = make y → x = y) (h : read cs = some (text, rest)) :
    Kept (start ++ cs) rest (make text)
      ((read (squeeze false cs)).map fun r => (some (make r.1), r.2)) := by
  obtain ⟨p, t, rfl, hsqueezed, hiff⟩ := hread.squeezed hm hmeaning h
  have htight : Tight (start ++ p) ↔ t = text := by
    rw [hiff, Tight, Text.squeeze_append_of_filled hstart, List.append_cancel_left_eq, Tight]
  rw [hsqueezed, Option.map_some]
  refine ⟨start ++ p, by rw [List.append_assoc], fun h => ?_, fun token rest' h => ?_⟩
  · rw [htight.mp h]
  · obtain ⟨rfl, -⟩ := Prod.mk.inj (Option.some.inj h)
    exact ⟨make t, rfl, fun heq => htight.mpr (hmake _ _ heq)⟩

theorem unescape_of_isBlank {c : Char} (h : isBlank c = true) : unescape c = c := by
  unfold unescape
  split <;> first | rfl | exact absurd rfl (Text.ne_of_isBlank h (by decide))

theorem unescapeLetter_of_isBlank {c : Char} (h : isBlank c = true) : unescapeLetter c = c := by
  rw [unescapeLetter, unescape_of_isBlank h, ite_self]

theorem quotation_inj (form : TextForm) (x y : List Char)
    (h : Token.quotation form (String.ofList x) = .quotation form (String.ofList y)) : x = y := by
  have hlist := congrArg String.toList (Token.quotation.inj h).2
  rwa [String.toList_ofList, String.toList_ofList] at hlist

theorem quotationOf_kept {form : TextForm} (start : List Char) {cs : List Char}
    (hstart : ∀ c ∈ start, isBlank c = false) {mark : Char} (hm : isBlank mark = false)
    {meaning : Option (Char → Char)} {read : List Char → Option (List Char × List Char)}
    (hread : Reads mark meaning read)
    (hmeaning : ∀ f, meaning = some f → ∀ d, isBlank d = true → f d = d) {t : Token}
    {rest : List Char} (h : quotationOf form (read cs) = some (some t, rest)) :
    Kept (start ++ cs) rest t (quotationOf form (read (squeeze false cs))) := by
  obtain ⟨⟨text, r⟩, htext, heq⟩ := Option.map_eq_some_iff.mp h
  obtain ⟨rfl, rfl⟩ : Token.quotation form (String.ofList text) = t ∧ r = rest := by
    simpa using heq
  exact hread.kept hm hmeaning hstart (fun x => .quotation form (String.ofList x))
    (quotation_inj form) htext

end ScopedQuery.Sql.Token
