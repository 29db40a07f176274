import Mathlib.Tactic.Common
import ScopedQuery.Sql.Token
/-!
# Delimited texts

How quotations and quoted names are read.

* `Delimited` pairs the characters up to a closing mark with the text that they are read as.
* `Reads` lists the equations of a function that reads such texts, and `Reads.eq_some_iff` says that it
  reads exactly the delimited pieces.
-/

namespace ScopedQuery.Sql.Token

/-- The first characters, up to the closing mark, are read as the second ones. A doubled mark stands
for one mark; if the backslash has a meaning, it gives that to the next character. -/
inductive Delimited (mark : Char) (meaning : Option (Char → Char)) :
    List Char → List Char → Prop
  | close : Delimited mark meaning [mark] []
  | doubled {piece text : List Char} (inner : Delimited mark meaning piece text) :
      Delimited mark meaning (mark :: mark :: piece) (mark :: text)
  | meant {f : Char → Char} {d : Char} {piece text : List Char} (active : meaning = some f)
      (differs : '\\' ≠ mark) (inner : Delimited mark meaning piece text) :
      Delimited mark meaning ('\\' :: d :: piece) (f d :: text)
  | other {c : Char} {piece text : List Char} (differs : c ≠ mark)
      (inactive : c = '\\' → meaning = none) (inner : Delimited mark meaning piece text) :
      Delimited mark meaning (c :: piece) (c :: text)

/-- A function that reads delimited texts: its equations. -/
structure Reads (mark : Char) (meaning : Option (Char → Char))
    (read : List Char → Option (List Char × List Char)) : Prop where
  nil : read [] = none
  close : read [mark] = some ([], [])
  doubled (cs : List Char) :
    read (mark :: mark :: cs) = (read cs).map fun r => (mark :: r.1, r.2)
  ended (d : Char) (ds : List Char) (differs : d ≠ mark) :
    read (mark :: d :: ds) = some ([], d :: ds)
  broken (f : Char → Char) (active : meaning = some f) (differs : '\\' ≠ mark) :
    read ['\\'] = none
  meant (f : Char → Char) (active : meaning = some f) (differs : '\\' ≠ mark) (d : Char)
    (cs : List Char) : read ('\\' :: d :: cs) = (read cs).map fun r => (f d :: r.1, r.2)
  other (c : Char) (cs : List Char) (differs : c ≠ mark) (inactive : c = '\\' → meaning = none) :
    read (c :: cs) = (read cs).map fun r => (c :: r.1, r.2)

section

variable {mark : Char} {meaning : Option (Char → Char)}
  {read : List Char → Option (List Char × List Char)}

theorem Reads.eq_some_of_delimited (h : Reads mark meaning read) {piece text rest : List Char}
    (hd : Delimited mark meaning piece text) (hrest : rest.head? ≠ some mark) :
    read (piece ++ rest) = some (text, rest) := by
  induction hd with
  | close =>
    cases rest with
    | nil => exact h.close
    | cons d ds =>
      refine h.ended d ds ?_
      rintro rfl
      exact hrest rfl
  | doubled _ ih => rw [List.cons_append, List.cons_append, h.doubled, ih]; rfl
  | meant active differs _ ih =>
    rw [List.cons_append, List.cons_append, h.meant _ active differs, ih]; rfl
  | other differs inactive _ ih => rw [List.cons_append, h.other _ _ differs inactive, ih]; rfl

/-- What is read first: the closing mark, or characters for one of the text. -/
theorem Reads.exists_first (h : Reads mark meaning read) {cs text rest : List Char}
    (hread : read cs = some (text, rest)) :
    (cs = mark :: rest ∧ text = [] ∧ rest.head? ≠ some mark) ∨
      ∃ c front later t, cs = c :: front ++ later ∧ read later = some (t, rest) ∧
        ∀ {piece : List Char}, Delimited mark meaning piece t →
          Delimited mark meaning (c :: front ++ piece) text := by
  rcases cs with _ | ⟨c, cs⟩
  · rw [h.nil] at hread
    cases hread
  by_cases hc : c = mark
  · subst hc
    rcases cs with _ | ⟨d, ds⟩
    · rw [h.close] at hread
      obtain ⟨rfl, rfl⟩ := Prod.mk.inj (Option.some.inj hread)
      exact .inl ⟨rfl, rfl, by simp⟩
    by_cases hd : d = c
    · subst hd
      rw [h.doubled] at hread
      obtain ⟨⟨t, r⟩, ht, heq⟩ := Option.map_eq_some_iff.mp hread
      obtain ⟨rfl, rfl⟩ := Prod.mk.inj heq
      exact .inr ⟨d, [d], ds, t, rfl, ht, .doubled⟩
    · rw [h.ended d ds hd] at hread
      obtain ⟨rfl, rfl⟩ := Prod.mk.inj (Option.some.inj hread)
      exact .inl ⟨rfl, rfl, by simpa using hd⟩
  by_cases hb : c = '\\' ∧ meaning ≠ none
  · obtain ⟨rfl, hm⟩ := hb
    obtain ⟨f, hf⟩ := Option.ne_none_iff_exists'.mp hm
    rcases cs with _ | ⟨d, ds⟩
    · rw [h.broken f hf hc] at hread
      cases hread
    rw [h.meant f hf hc] at hread
    obtain ⟨⟨t, r⟩, ht, heq⟩ := Option.map_eq_some_iff.mp hread
    obtain ⟨rfl, rfl⟩ := Prod.mk.inj heq
    exact .inr ⟨'\\', [d], ds, t, rfl, ht, .meant hf hc⟩
  · have hinactive : c = '\\' → meaning = none := by
      intro hc'
      by_contra hm
      exact hb ⟨hc', hm⟩
    rw [h.other c cs hc hinactive] at hread
    obtain ⟨⟨t, r⟩, ht, heq⟩ := Option.map_eq_some_iff.mp hread
    obtain ⟨rfl, rfl⟩ := Prod.mk.inj heq
    exact .inr ⟨c, [], cs, t, rfl, ht, .other hc hinactive⟩

theorem Reads.exists_delimited (h : Reads mark meaning read) {cs text rest : List Char}
    (hread : read cs = some (text, rest)) :
    ∃ piece, cs = piece ++ rest ∧ Delimited mark meaning piece text ∧ rest.head? ≠ some mark := by
  induction hn : cs.length using Nat.strongRecOn generalizing cs text with
  | _ n ih =>
    obtain ⟨rfl, rfl, hrest⟩ | ⟨c, front, later, t, rfl, hlater, hfirst⟩ := h.exists_first hread
    · exact ⟨[mark], rfl, .close, hrest⟩
    · have hlt : later.length < n := by
        rw [← hn, List.length_append, List.length_cons]
        omega
      obtain ⟨piece, rfl, hpiece, hrest⟩ := ih later.length hlt hlater rfl
      exact ⟨c :: front ++ piece, (List.append_assoc _ _ _).symm, hfirst hpiece, hrest⟩

/-- What is read is the text of a delimited piece behind which no mark follows. -/
theorem Reads.eq_some_iff (h : Reads mark meaning read) {cs text rest : List Char} :
    read cs = some (text, rest) ↔
      ∃ piece, cs = piece ++ rest ∧ Delimited mark meaning piece text ∧
        rest.head? ≠ some mark := by
  constructor
  · exact h.exists_delimited
  · rintro ⟨piece, rfl, hpiece, hrest⟩
    exact h.eq_some_of_delimited hpiece hrest

end

theorem reads_quoted (mark : Char) : Reads mark (some unescape) (quoted mark) where
  nil := rfl
  close := by simp [quoted]
  doubled cs := by simp [quoted]
  ended d ds hd := by simp [quoted, hd]
  broken f _ differs := by simp [quoted, differs]
  meant f active differs d cs := by
    obtain rfl := Option.some.inj active
    simp [quoted, differs]
  other c cs differs inactive := by
    have hc : c ≠ '\\' := fun hc => by simpa using inactive hc
    rw [quoted.eq_def]
    simp [differs, hc]

theorem reads_quotedName (mark : Char) : Reads mark none (quotedName mark) where
  nil := rfl
  close := by simp [quotedName]
  doubled cs := by simp [quotedName]
  ended d ds hd := by simp [quotedName, hd]
  broken f active := nomatch active
  meant f active := nomatch active
  other c cs differs _ := by
    rw [quotedName.eq_def]
    simp [differs]

/-- What a backslash makes of a character in an `E` quotation. -/
def unescapeLetter (c : Char) : Char := if c = 'n' || c = 'r' || c = 't' then unescape c else c

theorem reads_escaped : Reads '\'' (some unescapeLetter) (escaped false) where
  nil := rfl
  close := by simp [escaped]
  doubled cs := by simp [escaped]
  ended d ds hd := by simp [escaped, hd]
  broken f _ _ := by simp [escaped]
  meant f active _ d cs := by
    obtain rfl := Option.some.inj active
    have hd : escaped true (d :: cs) =
        (escaped false cs).map fun r => (unescapeLetter d :: r.1, r.2) := by
      rw [escaped.eq_def]
      simp [unescapeLetter]
    rw [← hd, escaped.eq_def]
    simp
  other c cs differs inactive := by
    have hc : c ≠ '\\' := fun hc => by simpa using inactive hc
    rw [escaped.eq_def]
    simp [differs, hc]

end ScopedQuery.Sql.Token
