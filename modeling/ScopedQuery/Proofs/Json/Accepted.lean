import ScopedQuery.Proofs.Json.Numeral
import ScopedQuery.Proofs.Json.Passing
import ScopedQuery.Proofs.Json.Reads
/-!
# Texts that are read are texts of documents

* `consumes_textOf`, `consumes_boolean` and so on: scalars are read from texts of documents.
* `Consumes.optional`, `Consumes.list` and `Consumes.record`: so is what is made of parts, if the parts are.
* `consumes_value`: so is any value.
* `exists_isText_of_run`: a whole text that is read is a text of a document.
-/

namespace ScopedQuery.Json

variable {α β σ : Type}

/-! ### Readers -/

theorem Consumes.map {step : Step α} (h : Consumes step) (f : α → Step β)
    (hf : ∀ a cs b rest, f a cs = .ok (b, rest) → rest = cs) : Consumes (step >>= f) := by
  intro cs b rest hread
  obtain ⟨a, more, hstep, hlast⟩ := bind_eq_ok.mp hread
  obtain rfl := hf a more b rest hlast
  exact h cs a _ hstep

theorem append_of_word {word cs rest : List Char} {c : Char} {a b : α}
    (h : (do advance; ident word; return a : Step α) (c :: cs) = .ok (b, rest)) : cs = word ++ rest := by
  rw [advance_bind] at h
  obtain ⟨_, more, hword, hlast⟩ := bind_eq_ok.mp h
  obtain rfl := (Prod.mk.inj (Except.ok.inj hlast)).2
  exact append_of_ident hword

/-- A value of another kind is not read. -/
theorem mismatch_fails (c : Char) (expected : String) (cs : List Char) :
    (mismatch c expected cs : Except Fault (α × List Char)).toOption = none := by
  have hfail (fault : Fault) (cs : List Char) :
      (fail fault cs : Except Fault (α × List Char)).toOption = none := rfl
  unfold mismatch
  simp only [ite_apply]
  split
  · exact toOption_bind_none (fun _ => toOption_bind_none fun _ => hfail _) cs
  split
  · exact toOption_bind_none (fun _ => toOption_bind_none fun _ => hfail _) cs
  split
  · exact toOption_bind_none (fun _ => toOption_bind_none fun _ => hfail _) cs
  split
  · exact toOption_bind_none (fun _ => hfail _) cs
  split
  · exact toOption_bind_none (fun _ => toOption_bind_none fun _ => hfail _) cs
  repeat' split
  all_goals rfl

/-- A reader looks at the first character of a value behind the white space. -/
theorem Consumes.of_start {f : Char → Step α}
    (h : ∀ c more a rest, f c (c :: more) = .ok (a, rest) → ∃ d t, Spells d t ∧ c :: more = t ++ rest) :
    Consumes (start >>= f) := by
  intro cs a rest hread
  obtain ⟨c, more, hstart, hvalue⟩ := bind_eq_ok.mp hread
  obtain ⟨w, more, hw, -, rfl, rfl⟩ := exists_of_start hstart
  obtain ⟨d, t, ht, hmore⟩ := h c more a rest hvalue
  exact ⟨w, d, t, hw, ht, by rw [hmore]⟩

theorem not_mismatch {c : Char} {expected : String} {cs : List Char} {p : α × List Char} :
    mismatch c expected cs ≠ .ok p := by
  intro h
  have hfails := mismatch_fails (α := α) c expected cs
  rw [h] at hfails
  cases hfails

theorem consumes_textOf (expected : String) (levels : Nat) : Consumes (textOf expected levels) := by
  refine .of_start fun c more s rest h => ?_
  simp only [ite_apply] at h
  split at h
  · next hquote =>
    rw [advance_bind] at h
    obtain ⟨body, hbody, -, rfl⟩ := exists_of_textRest h
    exact ⟨.string body, _, .string hbody, by simp [hquote]⟩
  · exact absurd h not_mismatch

theorem consumes_boolean (levels : Nat) : Consumes (boolean levels) := by
  refine .of_start fun c more b rest h => ?_
  simp only [ite_apply] at h
  split at h
  · next hc => exact ⟨.bool true, _, .isTrue, by rw [append_of_word h, hc]; rfl⟩
  split at h
  · next hc => exact ⟨.bool false, _, .isFalse, by rw [append_of_word h, hc]; rfl⟩
  · exact absurd h not_mismatch

theorem consumes_integer (low high : Int) (expected : String) (levels : Nat) :
    Consumes (integer low high expected levels) := by
  refine .of_start fun c more n rest h => ?_
  simp only [ite_apply] at h
  split at h
  · obtain ⟨x, left, hnumber, hlast⟩ := bind_eq_ok.mp h
    have hleft : left = rest := by
      cases x with
      | int m =>
        simp only [ite_apply] at hlast
        split at hlast
        · exact (Prod.mk.inj (Except.ok.inj hlast)).2
        · cases hlast
      | float x => cases hlast
    obtain ⟨t, ht, hcs⟩ := exists_of_signedNumeral hnumber
    exact ⟨.number t, t, .number ht, hleft ▸ hcs⟩
  · exact absurd h not_mismatch

theorem consumes_word (levels : Nat) : Consumes (word levels) :=
  (consumes_integer _ _ _ levels).map _ fun _ _ _ _ h => ((Prod.mk.inj (Except.ok.inj h)).2).symm

theorem optional_gap {w : List Char} (hw : Gap w) (item : Reader α) (levels : Nat) (cs : List Char) :
    Json.optional item levels (w ++ cs) = Json.optional item levels cs :=
  peek_bind_gap hw cs _

theorem optional_null (item : Reader α) (levels : Nat) (cs : List Char) :
    Json.optional item levels ('n' :: cs) =
      (do advance; ident "ull".toList; return none : Step (Option α)) ('n' :: cs) := rfl

theorem optional_of_ne {c : Char} (hspace : isSpace c = false) (hc : c ≠ 'n') (item : Reader α)
    (levels : Nat) (cs : List Char) :
    Json.optional item levels (c :: cs) = (some <$> item levels) (c :: cs) := by
  simp [Json.optional, peek_cons hspace, hc]

theorem Consumes.optional {item : Reader α} {levels : Nat} (h : Consumes (item levels)) :
    Consumes (Json.optional item levels) := by
  have hitem : ∀ w cs o rest, Gap w → (some <$> item levels) cs = .ok (o, rest) →
      ∃ v d t, Gap v ∧ Spells d t ∧ w ++ cs = v ++ (t ++ rest) := by
    intro w cs o rest hw hread
    rw [map_apply] at hread
    obtain ⟨⟨x, left⟩, hitem, hlast⟩ := andThen_eq_ok.mp hread
    obtain rfl := (Prod.mk.inj (Except.ok.inj hlast)).2
    obtain ⟨v, d, t, hv, ht, rfl⟩ := h _ _ _ hitem
    exact ⟨w ++ v, d, t, hw.append hv, ht, (List.append_assoc _ _ _).symm⟩
  intro cs o rest hread
  rcases gap_or_cons cs with hgap | ⟨w, c, more, hw, hc, rfl⟩
  · have hnone : Json.optional item levels cs = (some <$> item levels) [] := by
      rw [Json.optional, bind_apply, peek_end hgap]
      rfl
    have hcs := hitem cs [] o rest hgap (hnone ▸ hread)
    rwa [List.append_nil] at hcs
  · rw [optional_gap hw] at hread
    by_cases hn : c = 'n'
    · subst hn
      rw [optional_null] at hread
      exact ⟨w, .null, _, hw, .null, by rw [append_of_word hread]; rfl⟩
    · rw [optional_of_ne hc hn] at hread
      exact hitem w _ o rest hw hread

/-! ### Lists and objects -/

section

variable {fuel : Nat} {first : Bool} {cs more rest : List Char}

theorem Consumes.many {item : Step α} (h : Consumes item) {xs : List α}
    (hread : Json.many item fuel first cs = .ok (xs, more)) (hclose : closeList more = .ok ((), rest)) :
    ∃ ds t, SpellsItems first ds t ∧ cs = t ++ rest := by
  induction fuel generalizing first cs xs with
  | zero =>
    obtain ⟨-, rfl⟩ := Prod.mk.inj (Except.ok.inj hread)
    obtain ⟨w, hw, rfl⟩ := exists_of_closeList hclose
    exact ⟨[], w ++ [']'], .close hw, by simp⟩
  | succ fuel ih =>
    rw [Json.many] at hread
    obtain ⟨goes, left, hnext, hitems⟩ := bind_eq_ok.mp hread
    rcases exists_of_nextItem hnext with ⟨rfl, m, hm, rfl⟩ | ⟨rfl, w, rest', hw, rfl, rfl⟩
    · rw [if_pos rfl] at hitems
      obtain ⟨x, more', hitem, hothers⟩ := bind_eq_ok.mp hitems
      obtain ⟨xs', more'', hmany, hlast⟩ := bind_eq_ok.mp hothers
      obtain rfl := (Prod.mk.inj (Except.ok.inj hlast)).2
      obtain ⟨w, d, t, hw, ht, rfl⟩ := h left x more' hitem
      obtain ⟨ds, ts, hts, rfl⟩ := ih hmany
      exact ⟨d :: ds, _, .item (hm.append_gap hw) ht hts, by simp⟩
    · obtain rfl := (Prod.mk.inj (Except.ok.inj hitems)).2
      rw [closeList_close] at hclose
      obtain rfl := (Prod.mk.inj (Except.ok.inj hclose)).2
      exact ⟨[], w ++ [']'], .close hw, by simp⟩

/-- What a step reads behind the name of a member is a colon and a value. -/
def ConsumesMember (member : String → σ → Step σ) : Prop :=
  ∀ name s cs s' rest, member name s cs = .ok (s', rest) →
    ∃ w w' d t, Gap w ∧ Gap w' ∧ Spells d t ∧ cs = w ++ ':' :: (w' ++ (t ++ rest))

theorem ConsumesMember.members {member : String → σ → Step σ} (h : ConsumesMember member) {s s' : σ}
    (hread : Json.members member fuel first s cs = .ok (s', more))
    (hclose : closeObject more = .ok ((), rest)) :
    ∃ ms t, SpellsMembers first ms t ∧ cs = t ++ rest := by
  induction fuel generalizing first cs s with
  | zero =>
    obtain ⟨-, rfl⟩ := Prod.mk.inj (Except.ok.inj hread)
    obtain ⟨w, hw, rfl⟩ := exists_of_closeObject hclose
    exact ⟨[], w ++ ['\x7d'], .close hw, by simp⟩
  | succ fuel ih =>
    rw [Json.members] at hread
    obtain ⟨goes, left, hnext, hmembers⟩ := bind_eq_ok.mp hread
    rcases exists_of_nextMember hnext with ⟨rfl, m, left, hm, rfl, rfl⟩ | ⟨rfl, w, rest', hw, rfl, rfl⟩
    · rw [if_pos rfl, bind_apply, advance_cons, andThen_ok] at hmembers
      obtain ⟨name, more', hname, hothers⟩ := bind_eq_ok.mp hmembers
      obtain ⟨s'', more'', hmember, hlast⟩ := bind_eq_ok.mp hothers
      obtain ⟨body, hbody, -, hleft⟩ := exists_of_textRest hname
      obtain ⟨w, w', d, t, hw, hw', ht, rfl⟩ := h name s more' s'' more'' hmember
      obtain ⟨ms, ts, hts, rfl⟩ := ih hlast
      dsimp only at hleft
      exact ⟨(body, d) :: ms, _, .member hm hbody hw hw' ht hts, by simp [hleft]⟩
    · obtain rfl := (Prod.mk.inj (Except.ok.inj hmembers)).2
      rw [closeObject_close] at hclose
      obtain rfl := (Prod.mk.inj (Except.ok.inj hclose)).2
      exact ⟨[], w ++ ['\x7d'], .close hw, by simp⟩

end

theorem exists_of_enter {body : Reader α} {levels : Nat} {c : Char} {cs rest : List Char} {a : α}
    (h : enter body levels (c :: cs) = .ok (a, rest)) : body (levels - 1) cs = .ok (a, rest) := by
  by_cases hlevels : levels ≤ 1
  · rw [enter, if_pos hlevels] at h
    cases h
  · rwa [enter_cons (Nat.lt_of_not_le hlevels)] at h

theorem Consumes.list {item : Reader α} (h : ∀ levels, Consumes (item levels)) (levels : Nat) :
    Consumes (Json.list item levels) := by
  refine .of_start fun c more xs rest hread => ?_
  simp only [ite_apply] at hread
  split at hread
  · next hc =>
    have hitems := exists_of_enter hread
    rw [itemsOf, bind_apply, get_apply, andThen_ok] at hitems
    obtain ⟨xs', left, hmany, hend⟩ := bind_eq_ok.mp hitems
    obtain ⟨_, left', hclose, hlast⟩ := bind_eq_ok.mp hend
    obtain rfl := (Prod.mk.inj (Except.ok.inj hlast)).2
    obtain ⟨ds, t, ht, hcs⟩ := (h (levels - 1)).many hmany hclose
    exact ⟨.array ds, _, .array ht, by rw [hc, List.cons_append]; exact congrArg _ hcs⟩
  · exact absurd hread not_mismatch

/-! ### Any value -/

theorem ConsumesMember.anyMember {value : Step Value} (h : Consumes value) :
    ConsumesMember (Json.anyMember value) := by
  intro name s cs s' rest hread
  obtain ⟨_, left, hcolon, hafter⟩ := bind_eq_ok.mp hread
  obtain ⟨v, left', hvalue, hlast⟩ := bind_eq_ok.mp hafter
  obtain rfl := (Prod.mk.inj (Except.ok.inj hlast)).2
  obtain ⟨w, hw, rfl⟩ := exists_of_colon hcolon
  obtain ⟨w', d, t, hw', ht, rfl⟩ := h _ _ _ hvalue
  exact ⟨w, w', d, t, hw, hw', ht, rfl⟩

theorem consumes_value (levels : Nat) : Consumes (value levels) := by
  induction levels with
  | zero =>
    intro cs v rest h
    cases h
  | succ levels ih =>
    rw [value]
    refine .of_start fun c more v rest h => ?_
    simp only [ite_apply] at h
    split at h
    · next hc => exact ⟨.null, _, .null, by rw [append_of_word h, hc]; rfl⟩
    split at h
    · next hc => exact ⟨.bool true, _, .isTrue, by rw [append_of_word h, hc]; rfl⟩
    split at h
    · next hc => exact ⟨.bool false, _, .isFalse, by rw [append_of_word h, hc]; rfl⟩
    split at h
    · obtain ⟨x, left, hnumber, hlast⟩ := bind_eq_ok.mp h
      have hleft : left = rest := by
        cases x <;> exact (Prod.mk.inj (Except.ok.inj hlast)).2
      obtain ⟨t, ht, hcs⟩ := exists_of_signedNumeral hnumber
      exact ⟨.number t, t, .number ht, hleft ▸ hcs⟩
    split at h
    · next hc =>
      rw [advance_bind] at h
      obtain ⟨s, left, htext, hlast⟩ := bind_eq_ok.mp h
      obtain rfl := (Prod.mk.inj (Except.ok.inj hlast)).2
      obtain ⟨body, hbody, -, rfl⟩ := exists_of_textRest htext
      exact ⟨.string body, _, .string hbody, by simp [hc]⟩
    split at h
    · next hc =>
      by_cases hlevels : levels = 0
      · rw [if_pos hlevels] at h
        cases h
      rw [if_neg hlevels, advance_bind, bind_apply, get_apply, andThen_ok] at h
      obtain ⟨xs, left, hmany, hend⟩ := bind_eq_ok.mp h
      obtain ⟨_, left', hclose, hlast⟩ := bind_eq_ok.mp hend
      obtain rfl := (Prod.mk.inj (Except.ok.inj hlast)).2
      obtain ⟨ds, t, ht, rfl⟩ := ih.many hmany hclose
      exact ⟨.array ds, _, .array ht, by rw [hc]; rfl⟩
    split at h
    · next hc =>
      by_cases hlevels : levels = 0
      · rw [if_pos hlevels] at h
        cases h
      rw [if_neg hlevels, advance_bind, bind_apply, get_apply, andThen_ok] at h
      obtain ⟨ms, left, hmembers, hend⟩ := bind_eq_ok.mp h
      obtain ⟨_, left', hclose, hlast⟩ := bind_eq_ok.mp hend
      obtain rfl := (Prod.mk.inj (Except.ok.inj hlast)).2
      obtain ⟨ds, t, ht, rfl⟩ := (ConsumesMember.anyMember ih).members hmembers hclose
      exact ⟨.object ds, _, .object ht, by rw [hc]; rfl⟩
    · cases h

/-! ### Records -/

section

variable {fields : List (Field σ)} (hfields : ∀ f ∈ fields, ∀ levels, Consumes (f.read levels))

include hfields

theorem ConsumesMember.recordMember (levels : Nat) : ConsumesMember (Json.recordMember fields levels) := by
  intro name s cs s' rest h
  rw [Json.recordMember] at h
  cases hfind : fields.find? (·.name == name) with
  | none =>
    simp only [hfind] at h
    obtain ⟨_, left, hcolon, hafter⟩ := bind_eq_ok.mp h
    obtain ⟨_, left', hskip, hlast⟩ := bind_eq_ok.mp hafter
    obtain rfl := (Prod.mk.inj (Except.ok.inj hlast)).2
    obtain ⟨w, hw, rfl⟩ := exists_of_colon hcolon
    obtain ⟨w', d, t, hw', ht, rfl⟩ := consumes_skip _ _ _ hskip
    exact ⟨w, w', d, t, hw, hw', ht, rfl⟩
  | some f =>
    simp only [hfind] at h
    by_cases hseen : s.seen.contains name = true
    · rw [if_pos hseen] at h
      cases h
    rw [unless_apply hseen] at h
    obtain ⟨_, left, hcolon, hafter⟩ := bind_eq_ok.mp h
    obtain ⟨put, left', hread, hlast⟩ := bind_eq_ok.mp hafter
    obtain rfl := (Prod.mk.inj (Except.ok.inj hlast)).2
    obtain ⟨w, hw, rfl⟩ := exists_of_colon hcolon
    obtain ⟨w', d, t, hw', ht, rfl⟩ := hfields f (List.mem_of_find?_eq_some hfind) levels _ _ _ hread
    exact ⟨w, w', d, t, hw, hw', ht, rfl⟩

theorem exists_of_recordItems {expected : String} {levels index : Nat} {a b : σ} {cs more rest : List Char}
    (hread : recordItems expected levels fields index a cs = .ok (b, more))
    (hclose : closeList more = .ok ((), rest)) :
    ∃ ds t, SpellsItems (index == 0) ds t ∧ cs = t ++ rest := by
  induction fields generalizing index a cs with
  | nil =>
    obtain rfl := (Prod.mk.inj (Except.ok.inj hread)).2
    obtain ⟨w, hw, rfl⟩ := exists_of_closeList hclose
    exact ⟨[], w ++ [']'], .close hw, by simp⟩
  | cons f fields ih =>
    rw [recordItems] at hread
    obtain ⟨goes, left, hnext, hitems⟩ := bind_eq_ok.mp hread
    rcases exists_of_nextItem hnext with ⟨rfl, m, hm, rfl⟩ | ⟨rfl, w, rest', hw, rfl, rfl⟩
    · rw [if_pos rfl] at hitems
      obtain ⟨put, more', hitem, hothers⟩ := bind_eq_ok.mp hitems
      obtain ⟨w, d, t, hw, ht, rfl⟩ := hfields f List.mem_cons_self levels _ _ _ hitem
      obtain ⟨ds, ts, hts, rfl⟩ := ih (fun g hg => hfields g (List.mem_cons_of_mem f hg)) hothers
      exact ⟨d :: ds, _, .item (hm.append_gap hw) ht hts, by simp⟩
    · have hmore : more = ']' :: rest' := by
        rw [if_neg (by decide)] at hitems
        cases hmissing : (f :: fields).find? (·.required) with
        | none =>
          simp only [hmissing] at hitems
          exact (Prod.mk.inj (Except.ok.inj hitems)).2.symm
        | some g =>
          simp only [hmissing] at hitems
          cases hitems
      rw [hmore, closeList_close] at hclose
      obtain rfl := (Prod.mk.inj (Except.ok.inj hclose)).2
      exact ⟨[], w ++ [']'], .close hw, by simp⟩

theorem Consumes.record (name : String) (initial : σ) (levels : Nat) :
    Consumes (Json.record name fields initial levels) := by
  refine .of_start fun c more a rest h => ?_
  simp only [ite_apply] at h
  split at h
  · next hc =>
    have hitems := exists_of_enter h
    obtain ⟨b, left, hread, hend⟩ := bind_eq_ok.mp hitems
    obtain ⟨_, left', hclose, hlast⟩ := bind_eq_ok.mp hend
    obtain rfl := (Prod.mk.inj (Except.ok.inj hlast)).2
    obtain ⟨ds, t, ht, rfl⟩ := exists_of_recordItems hfields hread hclose
    exact ⟨.array ds, _, .array ht, by rw [hc]; rfl⟩
  split at h
  · next hc =>
    have hmembers := exists_of_enter h
    rw [bind_apply, get_apply, andThen_ok] at hmembers
    obtain ⟨s, left, hread, hend⟩ := bind_eq_ok.mp hmembers
    cases hmissing : fields.find? fun f => f.required && !s.seen.contains f.name with
    | some f =>
      simp only [hmissing] at hend
      cases hend
    | none =>
      simp only [hmissing] at hend
      obtain ⟨_, left', hclose, hlast⟩ := bind_eq_ok.mp hend
      obtain rfl := (Prod.mk.inj (Except.ok.inj hlast)).2
      obtain ⟨ms, t, ht, rfl⟩ := (ConsumesMember.recordMember hfields _).members hread hclose
      exact ⟨.object ms, _, .object ht, by rw [hc]; rfl⟩
  · exact absurd h not_mismatch

end

/-! ### Whole texts -/

theorem isEmpty_dropWhile_isSpace {w : List Char} :
    (w.dropWhile isSpace).isEmpty = true ↔ Gap w := by
  rw [List.isEmpty_iff, List.dropWhile_eq_nil_iff]
  rfl

theorem run_eq_ok {reader : Reader α} {text : String} {a : α} :
    reader.run text = .ok a ↔ ∃ w, Gap w ∧ reader depthLimit text.toList = .ok (a, w) := by
  have hrun : reader.run text = (reader depthLimit text.toList).bind fun p =>
      if (p.2.dropWhile isSpace).isEmpty then .ok p.1 else .error .trailingCharacters := rfl
  rw [hrun]
  cases reader depthLimit text.toList with
  | error fault => simp [Except.bind]
  | ok p =>
    obtain ⟨b, rest⟩ := p
    simp only [Except.bind, Except.ok.injEq, Prod.mk.injEq]
    constructor
    · intro h
      split at h
      · next hrest => exact ⟨rest, isEmpty_dropWhile_isSpace.mp hrest, Except.ok.inj h, rfl⟩
      · cases h
    · rintro ⟨w, hw, rfl, rfl⟩
      exact if_pos (isEmpty_dropWhile_isSpace.mpr hw)

/-- A text that is read is a text of a document. -/
theorem exists_isText_of_run {reader : Reader α} (h : Consumes (reader depthLimit)) {text : String} {a : α}
    (hread : reader.run text = .ok a) : ∃ d : Doc, d.IsText text := by
  obtain ⟨w', hw', hread⟩ := run_eq_ok.mp hread
  obtain ⟨w, d, t, hw, ht, htext⟩ := h _ _ _ hread
  exact ⟨d, w, t, w', hw, hw', ht, htext⟩

end ScopedQuery.Json
