import Mathlib.Data.List.TakeWhile
import Mathlib.Tactic.Common
import ScopedQuery.Proofs.Json.Grammar
import ScopedQuery.Proofs.Json.Steps
/-!
# Marks behind white space

* `start_gap`, `nextItem_gap` and so on: white space in front of a mark or a value is passed over.
* `exists_of_nextItem`, `exists_of_colon` and so on: where a mark has been read, it stands in the text.

`Consumes step` says that whatever `step` reads is a text of a document.
-/

namespace ScopedQuery.Json

variable {α : Type}

/-! ### Marks behind white space -/

theorem gap_nil : Gap [] := by
  rintro c ⟨⟩

theorem Gap.append {w w' : List Char} (h : Gap w) (h' : Gap w') : Gap (w ++ w') :=
  List.forall_mem_append.mpr ⟨h, h'⟩

theorem Lead.append_gap {first : Bool} {m w : List Char} (hm : Lead first m) (hw : Gap w) :
    Lead first (m ++ w) := by
  cases first with
  | true => exact Gap.append hm hw
  | false =>
    obtain ⟨v, v', hv, hv', rfl⟩ := hm
    exact ⟨v, v' ++ w, hv, hv'.append hw, by simp⟩

/-- Every text has some white space in front, perhaps none. -/
theorem exists_gap (cs : List Char) : ∃ w, Gap w ∧ cs = w ++ cs.dropWhile isSpace :=
  ⟨cs.takeWhile isSpace, fun _ hc => List.mem_takeWhile_imp hc, List.takeWhile_append_dropWhile.symm⟩

/-- A text is white space only, or goes on behind some white space. -/
theorem gap_or_cons (cs : List Char) :
    Gap cs ∨ ∃ w c more, Gap w ∧ isSpace c = false ∧ cs = w ++ c :: more := by
  obtain ⟨w, hw, hcs⟩ := exists_gap cs
  cases hdrop : cs.dropWhile isSpace with
  | nil =>
    rw [hdrop, List.append_nil] at hcs
    exact .inl (hcs ▸ hw)
  | cons c more =>
    have hc := List.head_dropWhile_not isSpace (l := cs) (by simp [hdrop])
    simp only [hdrop, List.head_cons] at hc
    exact .inr ⟨w, c, more, hw, hc, hdrop ▸ hcs⟩

theorem peek_eq (cs : List Char) :
    peek cs = .ok ((cs.dropWhile isSpace).head?, cs.dropWhile isSpace) := rfl

theorem peek_gap {w : List Char} (hw : Gap w) (cs : List Char) : peek (w ++ cs) = peek cs := by
  simp only [peek, bind_apply, modify_apply, andThen_ok, get_apply]
  rw [List.dropWhile_append_of_pos hw]

theorem peek_end {cs : List Char} (h : Gap cs) : peek cs = .ok (none, []) := by
  have hpeek := peek_gap h []
  rw [List.append_nil] at hpeek
  exact hpeek

/-- A step that looks at the next mark, and fails where there is none, finds it behind some white
space. -/
theorem exists_of_peek {f : Option Char → Step α} {cs rest : List Char} {a : α}
    (h : (peek >>= f) cs = .ok (a, rest)) (hend : (f none []).toOption = none) :
    ∃ w c more, Gap w ∧ isSpace c = false ∧ cs = w ++ c :: more ∧
      f (some c) (c :: more) = .ok (a, rest) := by
  rcases gap_or_cons cs with hgap | ⟨w, c, more, hw, hc, rfl⟩
  · rw [bind_apply, peek_end hgap, andThen_ok] at h
    rw [h] at hend
    cases hend
  · rw [bind_apply, peek_gap hw, peek_cons hc, andThen_ok] at h
    exact ⟨w, c, more, hw, hc, rfl, h⟩

section

variable {w : List Char} (hw : Gap w) (cs : List Char)

include hw

/-- White space makes no difference to a step that looks at the next mark. -/
theorem peek_bind_gap (f : Option Char → Step α) : (peek >>= f) (w ++ cs) = (peek >>= f) cs := by
  rw [bind_apply, bind_apply, peek_gap hw]

theorem start_gap : start (w ++ cs) = start cs := peek_bind_gap hw cs _

theorem start_bind_gap (f : Char → Step α) : (start >>= f) (w ++ cs) = (start >>= f) cs := by
  rw [bind_apply, bind_apply, start_gap hw]

theorem nextItem_gap (first : Bool) : nextItem first (w ++ cs) = nextItem first cs :=
  peek_bind_gap hw cs _

theorem closeList_gap : closeList (w ++ cs) = closeList cs := peek_bind_gap hw cs _

theorem nextMember_gap (first : Bool) : nextMember first (w ++ cs) = nextMember first cs :=
  peek_bind_gap hw cs _

theorem colon_gap : colon (w ++ cs) = colon cs := peek_bind_gap hw cs _

end

/-! ### Marks that have been read -/

theorem exists_of_start {cs rest : List Char} {c : Char} (h : start cs = .ok (c, rest)) :
    ∃ w more, Gap w ∧ isSpace c = false ∧ rest = c :: more ∧ cs = w ++ c :: more := by
  obtain ⟨w, d, more, hw, hd, rfl, hread⟩ := exists_of_peek h rfl
  obtain ⟨rfl, rfl⟩ := Prod.mk.inj (Except.ok.inj hread)
  exact ⟨w, more, hw, hd, rfl, rfl⟩

/-- What is wrong after a comma behind the last item of a list. -/
def afterLastComma : Option Char → Step Unit
  | some ']' => fail .trailingComma
  | _ => fail .trailingCharacters

theorem exists_afterLastComma (next : Option Char) : ∃ fault, afterLastComma next = fail fault := by
  unfold afterLastComma
  split
  · exact ⟨_, rfl⟩
  · exact ⟨_, rfl⟩

/-- A list of which no more is wanted ends there. -/
theorem closeList_of_ne {c : Char} (hc : isSpace c = false) (hne : c ≠ ']') (cs : List Char) :
    (closeList (c :: cs)).toOption = none := by
  by_cases hcomma : c = ','
  · subst hcomma
    have hcloses : closeList (',' :: cs) = andThen (peek cs) afterLastComma := rfl
    obtain ⟨fault, hfault⟩ := exists_afterLastComma (cs.dropWhile isSpace).head?
    rw [hcloses, peek_eq, andThen_ok, hfault]
    rfl
  · rw [closeList, bind_apply, peek_cons hc, andThen_ok]
    simp

theorem exists_of_closeList {cs rest : List Char} (h : closeList cs = .ok ((), rest)) :
    ∃ w, Gap w ∧ cs = w ++ ']' :: rest := by
  rcases gap_or_cons cs with hgap | ⟨w, c, more, hw, hc, rfl⟩
  · rw [closeList, bind_apply, peek_end hgap] at h
    cases h
  · rw [closeList_gap hw] at h
    by_cases hclose : c = ']'
    · subst hclose
      obtain ⟨-, rfl⟩ := Prod.mk.inj (Except.ok.inj h)
      exact ⟨w, hw, rfl⟩
    · have hfails := closeList_of_ne hc hclose more
      rw [h] at hfails
      cases hfails

theorem exists_of_closeObject {cs rest : List Char} (h : closeObject cs = .ok ((), rest)) :
    ∃ w, Gap w ∧ cs = w ++ '\x7d' :: rest := by
  obtain ⟨w, c, more, hw, -, rfl, hread⟩ := exists_of_peek h rfl
  by_cases hclose : c = '\x7d'
  · subst hclose
    obtain ⟨-, rfl⟩ := Prod.mk.inj (Except.ok.inj hread)
    exact ⟨w, hw, rfl⟩
  by_cases hcomma : c = ','
  · subst hcomma
    cases hread
  · simp at hread

theorem exists_of_colon {cs rest : List Char} (h : colon cs = .ok ((), rest)) :
    ∃ w, Gap w ∧ cs = w ++ ':' :: rest := by
  obtain ⟨w, c, more, hw, -, rfl, hread⟩ := exists_of_peek h rfl
  by_cases hcolon : c = ':'
  · subst hcolon
    obtain ⟨-, rfl⟩ := Prod.mk.inj (Except.ok.inj hread)
    exact ⟨w, hw, rfl⟩
  · simp at hread

/-- Another item follows behind its lead, or the list is at its end. -/
theorem exists_of_nextItem {first more : Bool} {cs rest : List Char}
    (h : nextItem first cs = .ok (more, rest)) :
    (more = true ∧ ∃ m, Lead first m ∧ cs = m ++ rest) ∨
      (more = false ∧ ∃ w rest', Gap w ∧ rest = ']' :: rest' ∧ cs = w ++ rest) := by
  obtain ⟨w, c, cs, hw, -, rfl, hread⟩ := exists_of_peek h rfl
  simp only [ite_apply] at hread
  split at hread
  · next hclose =>
    obtain ⟨rfl, rfl⟩ := Prod.mk.inj (Except.ok.inj hread)
    exact .inr ⟨rfl, w, cs, hw, by rw [hclose], rfl⟩
  split at hread
  · next hfirst =>
    obtain ⟨rfl, rfl⟩ := Prod.mk.inj (Except.ok.inj hread)
    subst hfirst
    exact .inl ⟨rfl, w, hw, rfl⟩
  · next hfirst =>
    obtain rfl : first = false := by simpa using hfirst
    split at hread
    · next hcomma =>
      rw [bind_apply, advance_cons, andThen_ok] at hread
      obtain ⟨v, d, ds, hv, -, rfl, hnext⟩ := exists_of_peek hread rfl
      by_cases hlast : d = ']'
      · subst hlast
        cases hnext
      · simp at hnext
        obtain ⟨rfl, rfl⟩ := hnext
        exact .inl ⟨rfl, w ++ ',' :: v, ⟨w, v, hw, hv, rfl⟩, by simp [hcomma]⟩
    · cases hread

theorem exists_of_nextMember {first more : Bool} {cs rest : List Char}
    (h : nextMember first cs = .ok (more, rest)) :
    (more = true ∧ ∃ m rest', Lead first m ∧ rest = '"' :: rest' ∧ cs = m ++ rest) ∨
      (more = false ∧ ∃ w rest', Gap w ∧ rest = '\x7d' :: rest' ∧ cs = w ++ rest) := by
  obtain ⟨w, c, cs, hw, -, rfl, hread⟩ := exists_of_peek h rfl
  simp only [ite_apply] at hread
  split at hread
  · next hclose =>
    obtain ⟨rfl, rfl⟩ := Prod.mk.inj (Except.ok.inj hread)
    exact .inr ⟨rfl, w, cs, hw, by rw [hclose], rfl⟩
  split at hread
  · next hfirst =>
    subst hfirst
    split at hread
    · next hquote =>
      obtain ⟨rfl, rfl⟩ := Prod.mk.inj (Except.ok.inj hread)
      exact .inl ⟨rfl, w, cs, hw, by rw [hquote], rfl⟩
    · cases hread
  · next hfirst =>
    obtain rfl : first = false := by simpa using hfirst
    split at hread
    · next hcomma =>
      rw [bind_apply, advance_cons, andThen_ok] at hread
      obtain ⟨v, d, ds, hv, -, rfl, hnext⟩ := exists_of_peek hread rfl
      by_cases hquote : d = '"'
      · subst hquote
        obtain ⟨rfl, rfl⟩ := Prod.mk.inj (Except.ok.inj hnext)
        exact .inl ⟨rfl, w ++ ',' :: v, ds, ⟨w, v, hw, hv, rfl⟩, rfl, by simp [hcomma]⟩
      by_cases hlast : d = '\x7d'
      · subst hlast
        cases hnext
      · simp at hnext
    · cases hread

/-! ### Texts that are read -/

/-- What a step reads is a text of a document, behind some white space. -/
def Consumes (step : Step α) : Prop :=
  ∀ cs a rest, step cs = .ok (a, rest) → ∃ w d t, Gap w ∧ Spells d t ∧ cs = w ++ (t ++ rest)

/-- The letters of a word are read as they stand. -/
theorem append_of_ident {word cs rest : List Char} (h : ident word cs = .ok ((), rest)) :
    cs = word ++ rest := by
  induction word generalizing cs with
  | nil => exact (Prod.mk.inj (Except.ok.inj h)).2
  | cons c word ih =>
    cases cs with
    | nil => cases h
    | cons d cs =>
      rw [ident, bind_apply, get_apply, andThen_ok] at h
      simp only [bind_apply, set_apply, andThen_ok, ite_apply] at h
      split at h
      · next hc => rw [hc, ih h, List.cons_append]
      · cases h

end ScopedQuery.Json
