import ScopedQuery.Proofs.Json.Gaps
import ScopedQuery.Proofs.Json.Quoted
import ScopedQuery.Proofs.Json.Reads
import ScopedQuery.Proofs.Json.Skipped
/-!
# Values that are passed over

* `consumes_skip`: what is passed over is a text of a document.
* `skip_spelled`: every text of a document is passed over, whatever ends it.
-/

namespace ScopedQuery.Json

/-! ### First characters -/

theorem Unsigned.exists_digit {t : List Char} (h : Unsigned t) :
    ∃ c cs, t = c :: cs ∧ c.isDigit = true := by
  obtain ⟨hw, -, -⟩ := h
  cases hw with
  | zero => exact ⟨'0', _, rfl, rfl⟩
  | @digits ds hds _ =>
    obtain ⟨hne, hall⟩ := hds
    obtain ⟨c, cs, rfl⟩ := List.exists_cons_of_ne_nil hne
    exact ⟨c, _, rfl, hall c List.mem_cons_self⟩

theorem Number.exists_head {t : List Char} (h : Number t) :
    ∃ c cs, t = c :: cs ∧ (c = '-' ∨ c.isDigit = true) := by
  cases h with
  | plain h =>
    obtain ⟨c, cs, rfl, hc⟩ := h.exists_digit
    exact ⟨c, cs, rfl, .inr hc⟩
  | minus h => exact ⟨'-', _, rfl, .inl rfl⟩

theorem Spells.exists_head {d : Doc} {t : List Char} (h : Spells d t) :
    ∃ c cs, t = c :: cs ∧ startsValue c = true := by
  cases h with
  | number h =>
    obtain ⟨c, cs, rfl, hc⟩ := h.exists_head
    exact ⟨c, cs, rfl, startsValue_of_number hc⟩
  | _ => exact ⟨_, _, rfl, by decide⟩

theorem stops_append {w : List Char} (hw : Gap w) {c : Char} (hc : c = ',' ∨ c = ']' ∨ c = '\x7d')
    (cs : List Char) : Stops (w ++ c :: cs) := by
  intro d hd
  cases w with
  | nil => exact .inr (Option.some.inj hd ▸ hc)
  | cons e w => exact .inl (Option.some.inj hd ▸ hw e List.mem_cons_self)

/-- Behind an item stands what ends it. -/
theorem SpellsItems.stops {ds : List Doc} {t : List Char} (h : SpellsItems false ds t) (rest : List Char) :
    Stops (t ++ rest) := by
  cases h with
  | close hw => simpa using stops_append hw (.inr (.inl rfl)) rest
  | item hm _ _ =>
    obtain ⟨w, w', hw, -, rfl⟩ := hm
    simpa using stops_append hw (.inl rfl) _

theorem SpellsMembers.stops {ms : List (List Char × Doc)} {t : List Char} (h : SpellsMembers false ms t)
    (rest : List Char) : Stops (t ++ rest) := by
  cases h with
  | close hw => simpa using stops_append hw (.inr (.inr rfl)) rest
  | member hm _ _ _ _ _ =>
    obtain ⟨w, w', hw, -, rfl⟩ := hm
    simpa using stops_append hw (.inl rfl) _

/-! ### The parts of lists and objects -/

/-- What is passed over behind the bracket that opens a list. -/
def skipList (fuel : Nat) : Step Unit := do
  match ← peek with
  | none => fail .endInList
  | some ']' => advance
  | some _ => skipItems fuel

/-- The mark behind an item that is passed over, and the items after it. -/
def skipItemsEnd (fuel : Nat) : Step Unit := do
  match ← peek with
  | none => fail .endInList
  | some ']' => advance
  | some ',' => advance; skipItems fuel
  | some _ => fail .expectedItemEnd

/-- What is passed over behind the brace that opens an object. -/
def skipObject (fuel : Nat) : Step Unit := do
  match ← peek with
  | none => fail .endInObject
  | some '\x7d' => advance
  | some _ => skipMembers fuel

/-- The mark behind a member that is passed over, and the members after it. -/
def skipMembersEnd (fuel : Nat) : Step Unit := do
  match ← peek with
  | none => fail .endInObject
  | some '\x7d' => advance
  | some ',' => advance; skipMembers fuel
  | some _ => fail .expectedMemberEnd

section

variable {fuel : Nat} {w cs rest : List Char}

theorem skipItems_eq (fuel : Nat) : skipItems (fuel + 1) = (do skipValue fuel; skipItemsEnd fuel) :=
  rfl

theorem skipMembers_gap (hw : Gap w) (cs : List Char) :
    skipMembers (fuel + 1) (w ++ cs) = skipMembers (fuel + 1) cs :=
  peek_bind_gap hw cs _

theorem skipMembers_quote (fuel : Nat) (cs : List Char) :
    skipMembers (fuel + 1) ('"' :: cs) =
      (do skipTextRest; colon; skipValue fuel; skipMembersEnd fuel : Step Unit) cs := by
  rw [skipMembers, bind_apply, peek_cons (by decide), andThen_ok]
  simp only [bind_apply, advance_cons, andThen_ok]
  congr 1
  funext _ ds
  rcases gap_or_cons ds with hgap | ⟨w, c, ds, hw, hc, rfl⟩
  · rw [bind_apply, peek_end hgap, bind_apply, colon, bind_apply, peek_end hgap]
    rfl
  · rw [bind_apply, peek_gap hw, peek_cons hc, bind_apply, colon_gap hw, colon, bind_apply, peek_cons hc]
    by_cases hcolon : c = ':'
    · subst hcolon
      rfl
    · simp
      rfl

theorem skipMembers_of_ne {c : Char} (hc : isSpace c = false) (hquote : c ≠ '"') (fuel : Nat)
    (cs : List Char) : (skipMembers fuel (c :: cs)).toOption = none := by
  cases fuel with
  | zero => rfl
  | succ fuel =>
    rw [skipMembers, bind_apply, peek_cons hc, andThen_ok]
    simp
    rfl

/-! ### What has been passed over -/

/-- The items that are passed over up to the end of a list, behind the mark in front of them. -/
def SkipsItems (fuel : Nat) : Prop :=
  ∀ cs rest, skipItems fuel cs = .ok ((), rest) → ∀ first m, Lead first m →
    ∃ ds t, SpellsItems first ds t ∧ m ++ cs = t ++ rest

/-- The members that are passed over up to the end of an object, behind the mark in front of them. -/
def SkipsMembers (fuel : Nat) : Prop :=
  ∀ cs rest, skipMembers fuel cs = .ok ((), rest) → ∀ first m, Lead first m →
    ∃ ms t, SpellsMembers first ms t ∧ m ++ cs = t ++ rest

theorem lead_comma (hw : Gap w) : Lead false (w ++ [',']) := ⟨w, [], hw, gap_nil, rfl⟩

section

variable (hitems : SkipsItems fuel)

include hitems

theorem exists_of_skipItemsEnd (h : skipItemsEnd fuel cs = .ok ((), rest)) :
    ∃ ds t, SpellsItems false ds t ∧ cs = t ++ rest := by
  obtain ⟨w, c, more, hw, -, rfl, hread⟩ := exists_of_peek h rfl
  by_cases hclose : c = ']'
  · subst hclose
    obtain rfl := (Prod.mk.inj (Except.ok.inj hread)).2
    exact ⟨[], _, .close hw, by simp⟩
  by_cases hcomma : c = ','
  · subst hcomma
    obtain ⟨ds, ts, hts, hcs⟩ := hitems more rest hread false (w ++ [',']) (lead_comma hw)
    exact ⟨ds, ts, hts, by simpa using hcs⟩
  · simp at hread

theorem exists_of_skipList (h : skipList fuel cs = .ok ((), rest)) :
    ∃ ds t, SpellsItems true ds t ∧ cs = t ++ rest := by
  obtain ⟨w, c, more, hw, -, rfl, hread⟩ := exists_of_peek h rfl
  by_cases hclose : c = ']'
  · subst hclose
    obtain rfl := (Prod.mk.inj (Except.ok.inj hread)).2
    exact ⟨[], _, .close hw, by simp⟩
  · simp at hread
    exact hitems _ _ hread true w hw

theorem skipsItems_succ (hvalue : Consumes (skipValue fuel)) : SkipsItems (fuel + 1) := by
  intro cs rest h first m hm
  rw [skipItems_eq] at h
  obtain ⟨_, left, hskip, hend⟩ := bind_eq_ok.mp h
  obtain ⟨w, d, t, hw, ht, rfl⟩ := hvalue _ _ _ hskip
  obtain ⟨ds, ts, hts, rfl⟩ := exists_of_skipItemsEnd hitems hend
  exact ⟨d :: ds, _, .item (hm.append_gap hw) ht hts, by simp⟩

end

section

variable (hmembers : SkipsMembers fuel)

include hmembers

theorem exists_of_skipMembersEnd (h : skipMembersEnd fuel cs = .ok ((), rest)) :
    ∃ ms t, SpellsMembers false ms t ∧ cs = t ++ rest := by
  obtain ⟨w, c, more, hw, -, rfl, hread⟩ := exists_of_peek h rfl
  by_cases hclose : c = '\x7d'
  · subst hclose
    obtain rfl := (Prod.mk.inj (Except.ok.inj hread)).2
    exact ⟨[], _, .close hw, by simp⟩
  by_cases hcomma : c = ','
  · subst hcomma
    obtain ⟨ms, ts, hts, hcs⟩ := hmembers more rest hread false (w ++ [',']) (lead_comma hw)
    exact ⟨ms, ts, hts, by simpa using hcs⟩
  · simp at hread

theorem exists_of_skipObject (h : skipObject fuel cs = .ok ((), rest)) :
    ∃ ms t, SpellsMembers true ms t ∧ cs = t ++ rest := by
  obtain ⟨w, c, more, hw, -, rfl, hread⟩ := exists_of_peek h rfl
  by_cases hclose : c = '\x7d'
  · subst hclose
    obtain rfl := (Prod.mk.inj (Except.ok.inj hread)).2
    exact ⟨[], _, .close hw, by simp⟩
  · simp at hread
    exact hmembers _ _ hread true w hw

theorem skipsMembers_succ (hvalue : Consumes (skipValue fuel)) : SkipsMembers (fuel + 1) := by
  intro cs rest h first m hm
  rcases gap_or_cons cs with hgap | ⟨w, c, cs, hw, hc, rfl⟩
  · rw [skipMembers, bind_apply, peek_end hgap] at h
    cases h
  rw [skipMembers_gap hw] at h
  by_cases hquote : c = '"'
  · subst hquote
    rw [skipMembers_quote] at h
    obtain ⟨_, left, hname, hafter⟩ := bind_eq_ok.mp h
    obtain ⟨_, left', hcolon, hlast⟩ := bind_eq_ok.mp hafter
    obtain ⟨_, left'', hskip, hend⟩ := bind_eq_ok.mp hlast
    obtain ⟨body, hbody, rfl⟩ := exists_of_skipTextRest hname
    obtain ⟨u, hu, rfl⟩ := exists_of_colon hcolon
    obtain ⟨v, d, t, hv, ht, rfl⟩ := hvalue _ _ _ hskip
    obtain ⟨ms, ts, hts, rfl⟩ := exists_of_skipMembersEnd hmembers hend
    exact ⟨(body, d) :: ms, _, .member (hm.append_gap hw) hbody hu hv ht hts, by simp⟩
  · have hfails := skipMembers_of_ne hc hquote (fuel + 1) cs
    rw [h] at hfails
    cases hfails

end

theorem consumes_skipValue_succ (hitems : SkipsItems fuel) (hmembers : SkipsMembers fuel) :
    Consumes (skipValue (fuel + 1)) := by
  intro cs a rest hskip
  rw [skipValue] at hskip
  obtain ⟨w, c, more, hw, -, rfl, h⟩ := exists_of_peek hskip rfl
  simp only [ite_apply] at h
  split at h
  · next heq =>
    rw [advance_bind] at h
    exact ⟨w, .null, _, hw, .null, by rw [append_of_ident h, heq]; rfl⟩
  split at h
  · next heq =>
    rw [advance_bind] at h
    exact ⟨w, .bool true, _, hw, .isTrue, by rw [append_of_ident h, heq]; rfl⟩
  split at h
  · next heq =>
    rw [advance_bind] at h
    exact ⟨w, .bool false, _, hw, .isFalse, by rw [append_of_ident h, heq]; rfl⟩
  split at h
  · next heq =>
    rw [advance_bind] at h
    obtain ⟨t, ht, hmore⟩ := exists_of_skipNumeral h
    exact ⟨w, .number ('-' :: t), _, hw, .number (.minus ht), by rw [hmore, heq]; rfl⟩
  split at h
  · obtain ⟨t, ht, hmore⟩ := exists_of_skipNumeral h
    exact ⟨w, .number t, _, hw, .number (.plain ht), by rw [hmore]⟩
  split at h
  · next heq =>
    rw [advance_bind] at h
    obtain ⟨body, hbody, hmore⟩ := exists_of_skipTextRest h
    exact ⟨w, .string body, _, hw, .string hbody, by simp [heq, hmore]⟩
  split at h
  · next heq =>
    rw [advance_bind] at h
    obtain ⟨ds, ts, hts, hmore⟩ := exists_of_skipList hitems h
    exact ⟨w, .array ds, _, hw, .array hts, by rw [heq, hmore]; rfl⟩
  split at h
  · next heq =>
    rw [advance_bind] at h
    obtain ⟨ms, ts, hts, hmore⟩ := exists_of_skipObject hmembers h
    exact ⟨w, .object ms, _, hw, .object hts, by rw [heq, hmore]; rfl⟩
  · cases h

end

/-- What is passed over is a value; the fuel only bounds how much. -/
theorem consumes_skipValue (fuel : Nat) :
    Consumes (skipValue fuel) ∧ SkipsItems fuel ∧ SkipsMembers fuel := by
  induction fuel with
  | zero =>
    refine ⟨fun _ _ _ h => ?_, fun _ _ h => ?_, fun _ _ h => ?_⟩ <;> cases h
  | succ fuel ih =>
    obtain ⟨hvalue, hitems, hmembers⟩ := ih
    exact ⟨consumes_skipValue_succ hitems hmembers, skipsItems_succ hitems hvalue,
      skipsMembers_succ hmembers hvalue⟩

theorem consumes_skip : Consumes skip := by
  intro cs a rest h
  rw [skip, bind_apply, get_apply, andThen_ok] at h
  exact (consumes_skipValue _).1 cs a rest h

/-! ### Texts of documents are passed over -/

section

variable {fuel : Nat} {w cs rest : List Char}

theorem skipItemsEnd_close (hw : Gap w) : skipItemsEnd fuel (w ++ ']' :: rest) = .ok ((), rest) := by
  rw [skipItemsEnd, bind_apply, peek_gap hw]
  rfl

theorem skipItemsEnd_comma (hw : Gap w) : skipItemsEnd fuel (w ++ ',' :: cs) = skipItems fuel cs := by
  rw [skipItemsEnd, bind_apply, peek_gap hw]
  rfl

theorem skipMembersEnd_close (hw : Gap w) : skipMembersEnd fuel (w ++ '\x7d' :: rest) = .ok ((), rest) := by
  rw [skipMembersEnd, bind_apply, peek_gap hw]
  rfl

theorem skipMembersEnd_comma (hw : Gap w) :
    skipMembersEnd fuel (w ++ ',' :: cs) = skipMembers fuel cs := by
  rw [skipMembersEnd, bind_apply, peek_gap hw]
  rfl

theorem skipList_close (hw : Gap w) : skipList fuel (w ++ ']' :: rest) = .ok ((), rest) := by
  rw [skipList, bind_apply, peek_gap hw]
  rfl

theorem skipList_start (hw : Gap w) {c : Char} (hc : startsValue c = true) :
    skipList fuel (w ++ c :: cs) = skipItems fuel (c :: cs) := by
  have hclose := ne_of_startsValue hc
  rw [skipList, bind_apply, peek_gap hw, peek_cons (isSpace_of_startsValue hc)]
  simp

theorem skipObject_close (hw : Gap w) : skipObject fuel (w ++ '\x7d' :: rest) = .ok ((), rest) := by
  rw [skipObject, bind_apply, peek_gap hw]
  rfl

theorem skipObject_quote (hw : Gap w) : skipObject fuel (w ++ '"' :: cs) = skipMembers fuel ('"' :: cs) := by
  rw [skipObject, bind_apply, peek_gap hw]
  rfl

theorem skipValue_gap (hw : Gap w) : skipValue (fuel + 1) (w ++ cs) = skipValue (fuel + 1) cs :=
  peek_bind_gap hw cs _

theorem skipValue_number {t : List Char} (h : Number t) (hrest : Stops rest) (fuel : Nat) :
    skipValue (fuel + 1) (t ++ rest) = .ok ((), rest) := by
  rw [skipValue]
  cases h with
  | plain h =>
    have hskip := h.skip hrest
    obtain ⟨c, cs, rfl, hc⟩ := h.exists_digit
    have hne : ∀ e : Char, e.isDigit = false → c ≠ e := fun e he => Decimal.ne_of_isDigit hc he
    rw [List.cons_append] at hskip ⊢
    rw [bind_apply, peek_cons (isSpace_of_startsValue (startsValue_of_number (.inr hc))), andThen_ok]
    simp only [ite_apply, hne 'n' rfl, hne 't' rfl, hne 'f' rfl, hne '-' rfl, hc, if_false, if_true]
    exact hskip
  | minus h => exact h.skip hrest

theorem skipValue_quote : skipValue (fuel + 1) ('"' :: cs) = skipTextRest cs := rfl

theorem skipValue_bracket : skipValue (fuel + 1) ('[' :: cs) = skipList fuel cs := rfl

theorem skipValue_brace : skipValue (fuel + 1) ('\x7b' :: cs) = skipObject fuel cs := rfl

end

/-- So much fuel passes over every value whose text is not longer than half of it. -/
def PassesValue (fuel : Nat) : Prop :=
  ∀ d t w rest, Spells d t → Gap w → Stops rest → 2 * t.length ≤ fuel →
    skipValue fuel (w ++ (t ++ rest)) = .ok ((), rest)

def PassesItems (fuel : Nat) : Prop :=
  ∀ d t ds ts w rest, Spells d t → SpellsItems false ds ts → Gap w → 2 * (t.length + ts.length) ≤ fuel →
    skipItems fuel (w ++ (t ++ (ts ++ rest))) = .ok ((), rest)

def PassesMembers (fuel : Nat) : Prop :=
  ∀ name d t ms ts w u v rest, Body name → Spells d t → SpellsMembers false ms ts → Gap w → Gap u →
    Gap v → 2 * (t.length + ts.length) ≤ fuel →
    skipMembers fuel (w ++ '"' :: (name ++ '"' :: (u ++ ':' :: (v ++ (t ++ (ts ++ rest)))))) = .ok ((), rest)

theorem Spells.length_pos {d : Doc} {t : List Char} (h : Spells d t) : 0 < t.length := by
  obtain ⟨c, cs, rfl, -⟩ := h.exists_head
  exact Nat.succ_pos _

theorem SpellsItems.length_pos {first : Bool} {ds : List Doc} {t : List Char} (h : SpellsItems first ds t) :
    0 < t.length := by
  cases h with
  | close hw => simp
  | item hm ht hts =>
    have hpos := ht.length_pos
    simp only [List.length_append]
    omega

theorem SpellsMembers.length_pos {first : Bool} {ms : List (List Char × Doc)} {t : List Char}
    (h : SpellsMembers first ms t) : 0 < t.length := by
  cases h with
  | close hw => simp
  | member hm hname hu hv ht hts =>
    simp only [List.length_append, List.length_cons]
    omega

section

variable {fuel : Nat}

theorem passesValue_succ (hitems : PassesItems fuel) (hmembers : PassesMembers fuel) :
    PassesValue (fuel + 1) := by
  intro d t w rest ht hw hrest hfuel
  rw [skipValue_gap hw]
  cases ht with
  | null => rfl
  | isTrue => rfl
  | isFalse => rfl
  | number h => exact skipValue_number h hrest fuel
  | string h =>
    rw [List.cons_append, List.append_assoc, skipValue_quote]
    exact h.skipRest rest
  | @array ds ts h =>
    rw [List.cons_append, skipValue_bracket]
    cases h with
    | close hw =>
      rw [List.append_assoc]
      exact skipList_close hw
    | @item _ d ds m t ts hm ht hts =>
      have hrest := hitems d t ds ts [] rest ht hts gap_nil
        (by simp only [List.length_cons, List.length_append] at hfuel; omega)
      obtain ⟨c, cs, rfl, hc⟩ := ht.exists_head
      simp only [List.append_assoc, List.cons_append, List.nil_append] at hrest ⊢
      rw [skipList_start hm hc, hrest]
  | @object ms ts h =>
    rw [List.cons_append, skipValue_brace]
    cases h with
    | close hw =>
      rw [List.append_assoc]
      exact skipObject_close hw
    | @member _ name d ms m u v t ts hm hname hu hv ht hts =>
      have hrest := hmembers name d t ms ts [] u v rest hname ht hts gap_nil hu hv
        (by simp only [List.length_cons, List.length_append] at hfuel; omega)
      simp only [List.append_assoc, List.cons_append, List.nil_append] at hrest ⊢
      rw [skipObject_quote hm, hrest]

theorem passesItems_succ (hvalue : PassesValue fuel) (hitems : PassesItems fuel) :
    PassesItems (fuel + 1) := by
  intro d t ds ts w rest ht hts hw hfuel
  have hpos := hts.length_pos
  have hread := hvalue d t w (ts ++ rest) ht hw (hts.stops rest) (by omega)
  rw [skipItems_eq, bind_apply, hread, andThen_ok]
  cases hts with
  | close hw =>
    rw [List.append_assoc]
    exact skipItemsEnd_close hw
  | @item _ d ds m t ts hm ht' hts =>
    obtain ⟨w, w', hw, hw', rfl⟩ := hm
    have hrest := hitems d t ds ts w' rest ht' hts hw'
      (by simp only [List.length_cons, List.length_append] at hfuel; omega)
    simp only [List.append_assoc, List.cons_append]
    rw [skipItemsEnd_comma hw, hrest]

theorem passesMembers_succ (hvalue : PassesValue fuel) (hmembers : PassesMembers fuel) :
    PassesMembers (fuel + 1) := by
  intro name d t ms ts w u v rest hname ht hts hw hu hv hfuel
  have hpos := hts.length_pos
  have hread := hvalue d t v (ts ++ rest) ht hv (hts.stops rest) (by omega)
  rw [skipMembers_gap hw, skipMembers_quote, bind_apply, hname.skipRest, andThen_ok, bind_apply,
    colon_gap hu, colon_colon, andThen_ok, bind_apply, hread, andThen_ok]
  cases hts with
  | close hw =>
    rw [List.append_assoc]
    exact skipMembersEnd_close hw
  | @member _ name d ms m u v t ts hm hname hu hv ht' hts =>
    obtain ⟨w, w', hw, hw', rfl⟩ := hm
    have hrest := hmembers name d t ms ts w' u v rest hname ht' hts hw' hu hv
      (by simp only [List.length_cons, List.length_append] at hfuel; omega)
    simp only [List.append_assoc, List.cons_append]
    rw [skipMembersEnd_comma hw, hrest]

end

theorem passes (fuel : Nat) : PassesValue fuel ∧ PassesItems fuel ∧ PassesMembers fuel := by
  induction fuel with
  | zero =>
    refine ⟨fun d t w rest ht _ _ hfuel => ?_, fun d t ds ts w rest ht _ _ hfuel => ?_,
      fun name d t ms ts w u v rest _ ht _ _ _ _ hfuel => ?_⟩
    all_goals
      have hpos := ht.length_pos
      omega
  | succ fuel ih =>
    obtain ⟨hvalue, hitems, hmembers⟩ := ih
    exact ⟨passesValue_succ hitems hmembers, passesItems_succ hvalue hitems,
      passesMembers_succ hvalue hmembers⟩

/-- Every text of a document is passed over, whatever ends it. -/
theorem skip_spelled {d : Doc} {t w rest : List Char} (ht : Spells d t) (hw : Gap w) (hrest : Stops rest) :
    skip (w ++ (t ++ rest)) = .ok ((), rest) := by
  rw [skip, bind_apply, get_apply, andThen_ok]
  exact (passes _).1 d t w rest ht hw hrest (by simp only [List.length_append]; omega)

end ScopedQuery.Json
