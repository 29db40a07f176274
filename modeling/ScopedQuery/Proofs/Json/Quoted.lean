import ScopedQuery.Proofs.Json.Grammar
import ScopedQuery.Proofs.Json.Text
/-!
# Texts wherever they stand

* `Body.skipRest` and `exists_of_skipTextRest`: what stands between quotation marks is passed over, and
  nothing else.
* `Body.read` and `exists_of_textRest`: a text is read by the characters between its quotation marks alone.
-/

namespace ScopedQuery.Json

/-- Most characters stand for themselves. -/
theorem body_of_plain {cs : List Char}
    (h : cs.all (fun c => c ≠ '"' ∧ c ≠ '\\' ∧ 0x20 ≤ c.toNat) = true) : Body cs := by
  induction cs with
  | nil => exact .done
  | cons c cs ih =>
    rw [List.all_cons, Bool.and_eq_true, decide_eq_true_iff] at h
    obtain ⟨⟨hquote, hslash, hcontrol⟩, hcs⟩ := h
    exact .plain hquote hslash hcontrol (ih hcs)

theorem Body.skip {body : List Char} (h : Body body) (rest : List Char) :
    skipText (body ++ '"' :: rest) = .ok rest := by
  induction h with
  | done => rfl
  | @plain c cs hquote hslash hcontrol _ ih =>
    rw [List.cons_append, skipText_plain hquote hslash (Nat.not_lt.mpr hcontrol), ih]
  | @letter c cs hc _ ih =>
    have hu : c ≠ 'u' := by
      rintro rfl
      cases hc
    simp [skipText, hu, hc, ih]
  | @number a b c d cs hhex _ ih => simp [skipText, hhex, ih]

theorem exists_of_skipText {cs rest : List Char} (h : skipText cs = .ok rest) :
    ∃ body, Body body ∧ cs = body ++ '"' :: rest := by
  fun_induction skipText cs with
  | case3 =>
    obtain rfl := Except.ok.inj h
    exact ⟨[], .done, rfl⟩
  | case4 a b c d more hhex ih =>
    obtain ⟨body, hbody, rfl⟩ := ih h
    exact ⟨_, .number hhex hbody, rfl⟩
  | case7 c more _ _ hc ih =>
    obtain ⟨body, hbody, rfl⟩ := ih h
    exact ⟨_, .letter hc hbody, rfl⟩
  | case10 c more hnil hquote _ _ hslash hcontrol ih =>
    obtain ⟨body, hbody, hmore⟩ := ih h
    have hplain : c ≠ '\\' := by
      intro hc
      cases more with
      | nil => exact hnil hc rfl
      | cons d more => exact hslash d more hc rfl
    exact ⟨c :: body, .plain hquote hplain (Nat.not_lt.mp hcontrol) hbody, by rw [hmore]; rfl⟩
  | _ => cases h

theorem skipTextRest_eq (cs : List Char) :
    skipTextRest cs = (skipText cs).map fun rest => ((), rest) := by
  simp only [skipTextRest, bind_apply, get_apply, andThen_ok]
  cases skipText cs <;> rfl

theorem Body.skipRest {body : List Char} (h : Body body) (rest : List Char) :
    skipTextRest (body ++ '"' :: rest) = .ok ((), rest) := by
  rw [skipTextRest_eq, h.skip]
  rfl

theorem exists_of_skipTextRest {cs rest : List Char} (h : skipTextRest cs = .ok ((), rest)) :
    ∃ body, Body body ∧ cs = body ++ '"' :: rest := by
  rw [skipTextRest_eq] at h
  cases hskip : skipText cs with
  | error fault =>
    rw [hskip] at h
    cases h
  | ok left =>
    rw [hskip] at h
    obtain rfl := (Prod.mk.inj (Except.ok.inj h)).2
    exact exists_of_skipText hskip

theorem prepend_eq_ok {c : Char} {r : Except Fault (List Char × List Char)} {s rest : List Char} :
    prepend c r = .ok (s, rest) ↔ ∃ s', r = .ok (s', rest) ∧ s = c :: s' := by
  cases r with
  | error fault => simp [prepend]
  | ok p =>
    obtain ⟨s', rest'⟩ := p
    simp only [prepend, Except.ok.injEq, Prod.mk.injEq]
    constructor
    · rintro ⟨rfl, rfl⟩
      exact ⟨s', ⟨rfl, rfl⟩, rfl⟩
    · rintro ⟨_, ⟨rfl, rfl⟩, rfl⟩
      exact ⟨rfl, rfl⟩

/-- A text is read the same way whatever follows it. -/
theorem exists_of_textBody {cs s rest : List Char} (h : textBody cs = .ok (s, rest)) :
    ∃ body, Body body ∧ cs = body ++ '"' :: rest ∧
      ∀ more, textBody (body ++ '"' :: more) = .ok (s, more) := by
  fun_induction textBody cs generalizing s with
  | case3 =>
    obtain ⟨rfl, rfl⟩ := Prod.mk.inj (Except.ok.inj h)
    exact ⟨[], .done, rfl, fun _ => rfl⟩
  | case7 a b c d n hn hlow hhigh e f g h' cs m hm hpair ih =>
    obtain ⟨s', hs', rfl⟩ := prepend_eq_ok.mp h
    obtain ⟨body, hbody, rfl, hread⟩ := ih hs'
    refine ⟨_, .number (Option.isSome_of_eq_some hn) (.number (Option.isSome_of_eq_some hm) hbody), rfl,
      fun more => ?_⟩
    simp [textBody, hn, hlow, hhigh, hm, hpair, hread, prepend]
  | case10 a b c d cs n hn hlow hhigh ih =>
    obtain ⟨s', hs', rfl⟩ := prepend_eq_ok.mp h
    obtain ⟨body, hbody, rfl, hread⟩ := ih hs'
    refine ⟨_, .number (Option.isSome_of_eq_some hn) hbody, rfl, fun more => ?_⟩
    simp only [List.cons_append]
    rw [textBody_number hn (by simpa using hlow) (by simpa using hhigh), hread]
    rfl
  | case12 c cs _ hu d hd ih =>
    obtain ⟨s', hs', rfl⟩ := prepend_eq_ok.mp h
    obtain ⟨body, hbody, rfl, hread⟩ := ih hs'
    refine ⟨_, .letter (Option.isSome_of_eq_some hd) hbody, rfl, fun more => ?_⟩
    rw [List.cons_append, List.cons_append, textBody_letter hu hd, hread]
    rfl
  | case15 c cs hnil hquote _ _ hslash hcontrol ih =>
    obtain ⟨s', hs', rfl⟩ := prepend_eq_ok.mp h
    obtain ⟨body, hbody, hcs, hread⟩ := ih hs'
    have hplain : c ≠ '\\' := by
      intro hc
      cases cs with
      | nil => exact hnil hc rfl
      | cons d cs => exact hslash d cs hc rfl
    refine ⟨c :: body, .plain hquote hplain (Nat.not_lt.mp hcontrol) hbody, by rw [hcs]; rfl, fun more => ?_⟩
    rw [List.cons_append, textBody_plain hquote hplain hcontrol, hread]
    rfl
  | _ => cases h

/-- The text between quotation marks that a body stands for, if it stands for one. -/
def decode (body : List Char) : Option String :=
  (textRest (body ++ ['"'])).toOption.map Prod.fst

theorem textRest_eq (cs : List Char) :
    (textRest cs).toOption = (textBody cs).toOption.map fun p => (String.ofList p.1, p.2) := by
  simp only [textRest, bind_apply, get_apply, andThen_ok]
  cases textBody cs <;> rfl

theorem Body.append_inj {body body' rest rest' : List Char} (h : Body body) (h' : Body body')
    (heq : body ++ '"' :: rest = body' ++ '"' :: rest') : body = body' ∧ rest = rest' := by
  have hrest : rest = rest' := by
    have hskip := h.skip rest
    rw [heq, h'.skip rest'] at hskip
    exact (Except.ok.inj hskip).symm
  rw [hrest] at heq
  exact ⟨List.append_cancel_right heq, hrest⟩

theorem Body.read {body : List Char} (h : Body body) (rest : List Char) :
    (textRest (body ++ '"' :: rest)).toOption = (decode body).map fun s => (s, rest) := by
  have hagain {rest s left : List Char} (more : List Char)
      (hread : textBody (body ++ '"' :: rest) = .ok (s, left)) :
      left = rest ∧ textBody (body ++ '"' :: more) = .ok (s, more) := by
    obtain ⟨body', hbody', heq, hsame⟩ := exists_of_textBody hread
    obtain ⟨rfl, rfl⟩ := h.append_inj hbody' heq
    exact ⟨rfl, hsame more⟩
  rw [decode, textRest_eq, textRest_eq]
  cases hread : textBody (body ++ '"' :: rest) with
  | ok p =>
    obtain ⟨rfl, hclosed⟩ := hagain [] hread
    rw [hclosed]
    rfl
  | error fault =>
    cases hclosed : textBody (body ++ ['"']) with
    | error fault => rfl
    | ok p =>
      obtain ⟨-, hmore⟩ := hagain rest hclosed
      rw [hread] at hmore
      cases hmore

theorem exists_of_textRest {cs rest : List Char} {s : String} (h : textRest cs = .ok (s, rest)) :
    ∃ body, Body body ∧ decode body = some s ∧ cs = body ++ '"' :: rest := by
  have heq := textRest_eq cs
  rw [h, toOption_ok, eq_comm, Option.map_eq_some_iff] at heq
  obtain ⟨⟨t, more⟩, hread, hp⟩ := heq
  obtain ⟨rfl, rfl⟩ := Prod.mk.inj hp
  obtain ⟨body, hbody, rfl, hsame⟩ := exists_of_textBody (toOption_eq_some.mp hread)
  refine ⟨body, hbody, ?_, rfl⟩
  rw [decode, textRest_eq, hsame]
  rfl

end ScopedQuery.Json
