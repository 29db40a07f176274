import ScopedQuery.CommandLine.Execution
import ScopedQuery.Proofs.Plan.Denoted
import ScopedQuery.Proofs.Text.Trim
/-!
# Fences around plans

* `Bracketed`: a text stands between brackets; the JSON text of a plan does, but for white space around it
  (`exists_bracketed`).
* `unfenced_bare`, `unfenced_open` and `unfenced_closed`: such a text is found without a fence, in a fence that
  is never closed, and in one that is.
* `ofModelOutput_fenced`: a plan is read in a fence as it is read without one.
-/

namespace ScopedQuery.Plan

open Json (Doc Spells SpellsItems SpellsMembers Gap)
open Text (isBlank trimStart trimEnd Blank)

/-! ### Texts between brackets -/

/-- The text starts with an opening bracket or brace and ends with a closing one. -/
structure Bracketed (t : List Char) : Prop where
  first : t.head? = some '[' ∨ t.head? = some '\x7b'
  last : t.getLast? = some ']' ∨ t.getLast? = some '\x7d'

theorem getLast?_items {first : Bool} {ds : List Doc} {t : List Char} (h : SpellsItems first ds t) :
    t.getLast? = some ']' := by
  induction ds generalizing first t with
  | nil =>
    cases h
    simp
  | cons d ds ih =>
    cases h with
    | item _ _ hts => simp [List.getLast?_append, ih hts]

theorem getLast?_members {first : Bool} {ms : List (List Char × Doc)} {t : List Char}
    (h : SpellsMembers first ms t) : t.getLast? = some '\x7d' := by
  induction ms generalizing first t with
  | nil =>
    cases h
    simp
  | cons m ms ih =>
    cases h with
    | member _ _ _ _ _ hts => simp [List.getLast?_append, List.getLast?_cons, ih hts]

/-- A plan is an object, or a list of what its fields are. -/
theorem bracketed_of_ofDoc? {d : Doc} {p : Plan} (h : ofDoc? d = some p) {t : List Char} (ht : Spells d t) :
    Bracketed t := by
  cases ht with
  | array hts => exact ⟨.inl rfl, .inl (by simp [List.getLast?_cons, getLast?_items hts])⟩
  | object hts => exact ⟨.inr rfl, .inr (by simp [List.getLast?_cons, getLast?_members hts])⟩
  | _ => cases h

theorem isBlank_of_gap {w : List Char} (hw : Gap w) : ∀ c ∈ w, isBlank c = true := by
  intro c hc
  have hspace := hw c hc
  simp only [Json.isSpace, Bool.or_eq_true, beq_iff_eq] at hspace
  rcases hspace with ((rfl | rfl) | rfl) | rfl <;> decide

/-- The text of a plan, without what stands around its brackets, is a text of the same plan. -/
theorem exists_bracketed {text : String} {p : Plan} (h : ofJson text = .ok p) :
    ∃ v t v', text.toList = v ++ (t ++ v') ∧ (∀ c ∈ v, isBlank c = true) ∧ (∀ c ∈ v', isBlank c = true) ∧
      Bracketed t ∧ ofJson (String.ofList t) = .ok p := by
  obtain ⟨d, v, t, v', hv, hv', ht, htext⟩ := exists_isText_of_ofJson h
  have hp : ofDoc? d = some p := by
    rw [← ofJson_isText ⟨v, t, v', hv, hv', ht, htext⟩, h, Json.toOption_ok]
  have hcore : d.IsText (String.ofList t) :=
    ⟨[], t, [], Json.gap_nil, Json.gap_nil, ht, by rw [String.toList_ofList, List.append_nil]; rfl⟩
  refine ⟨v, t, v', htext, isBlank_of_gap hv, isBlank_of_gap hv', bracketed_of_ofDoc? hp ht, ?_⟩
  rw [← Json.toOption_eq_some, ofJson_isText hcore, hp]

/-! ### Trimming -/

section

variable {t v w : List Char} (ht : Bracketed t) (hv : ∀ c ∈ v, isBlank c = true)
  (hw : ∀ c ∈ w, isBlank c = true)

include ht in
theorem Bracketed.isBlank_first : ∀ c, t.head? = some c → isBlank c = false := by
  intro c hc
  rcases ht.first with h | h
  all_goals
    obtain rfl := Option.some.inj (h.symm.trans hc)
    decide

include ht in
theorem Bracketed.isBlank_last : ∀ c, t.getLast? = some c → isBlank c = false := by
  intro c hc
  rcases ht.last with h | h
  all_goals
    obtain rfl := Option.some.inj (h.symm.trans hc)
    decide

include ht in
theorem Bracketed.exists_cons : ∃ c cs, t = c :: cs ∧ (c = '[' ∨ c = '\x7b') := by
  cases t with
  | nil => rcases ht.first with h | h <;> cases h
  | cons c cs =>
    refine ⟨c, cs, rfl, ?_⟩
    rcases ht.first with h | h
    · exact .inl (Option.some.inj h)
    · exact .inr (Option.some.inj h)

include ht hv hw in
/-- What is between brackets is all that is left after trimming. -/
theorem Bracketed.trim : trimEnd (trimStart (v ++ (t ++ w))) = t := by
  rw [Text.trim_around hv hw, Text.trim_eq_self ht.isBlank_first ht.isBlank_last]

end

/-! ### Openers -/

theorem after?_append (bs cs : List Char) : after? bs (bs ++ cs) = some cs := by
  induction bs with
  | nil => rfl
  | cons b bs ih => rw [List.cons_append, after?, if_pos rfl, ih]

theorem after?_of_ne {b : Char} {bs cs : List Char} (h : cs.head? ≠ some b) : after? (b :: bs) cs = none := by
  cases cs with
  | nil => rfl
  | cons c cs => exact if_neg fun heq => h (congrArg some heq.symm)

theorem after?_append_left (as bs cs : List Char) : after? (as ++ bs) (as ++ cs) = after? bs cs := by
  induction as with
  | nil => rfl
  | cons a as ih => rw [List.cons_append, List.cons_append, after?, if_pos rfl, ih]

/-- What may stand behind the three back quotes that open a fence. -/
def tags : List String := ["", "json", "JSON"]

/-- An opener is taken off whole, as no plan goes on with the letter of another one. -/
theorem afterOpener?_append {tag : String} (htag : tag ∈ tags) {rest : List Char}
    (hsmall : rest.head? ≠ some 'j') (hlarge : rest.head? ≠ some 'J') :
    afterOpener? (fence ++ (tag.toList ++ rest)) = some rest := by
  simp only [afterOpener?, after?_append_left]
  simp only [tags, List.mem_cons, List.not_mem_nil, or_false] at htag
  rcases htag with rfl | rfl | rfl
  · have hnone : after? "json".toList rest = none := after?_of_ne hsmall
    have hnone' : after? "JSON".toList rest = none := after?_of_ne hlarge
    have hsome : after? fence (fence ++ rest) = some rest := after?_append fence rest
    show ((after? "json".toList rest).orElse fun _ => (after? "JSON".toList rest).orElse fun _ =>
      after? fence (fence ++ rest)) = some rest
    rw [hnone, hnone', hsome]
    rfl
  · rw [after?_append]
    rfl
  · have hnone : after? "json".toList ("JSON".toList ++ rest) = none := rfl
    rw [hnone, after?_append]
    rfl

theorem after?_fence_of_ne {cs : List Char} (h : cs.head? ≠ some '\x60') (bs : List Char) :
    after? (fence ++ bs) cs = none := by
  have hfence : fence ++ bs = '\x60' :: ('\x60' :: '\x60' :: bs) := rfl
  rw [hfence, after?_of_ne h]

/-- No opener stands in front of a bracket. -/
theorem Bracketed.afterOpener? {t : List Char} (ht : Bracketed t) : Plan.afterOpener? t = none := by
  have hquote : t.head? ≠ some '\x60' := by
    intro h
    rcases ht.first with h' | h' <;> rw [h'] at h <;> cases h
  have hfence : after? fence t = none := after?_fence_of_ne hquote []
  rw [Plan.afterOpener?, after?_fence_of_ne hquote, after?_fence_of_ne hquote, hfence]
  rfl

/-! ### Closers -/

/-- No closer stands behind a bracket. -/
theorem beforeCloser_bracketed {t : List Char} (ht : Bracketed t) (w : List Char) :
    beforeCloser (w ++ t) = w ++ t := by
  have hlast : (w ++ t).getLast? = t.getLast? := by
    obtain ⟨c, cs, rfl, -⟩ := ht.exists_cons
    rw [List.getLast?_append_of_ne_nil _ (List.cons_ne_nil c cs)]
  have hquote : (w ++ t).reverse.head? ≠ some '\x60' := by
    rw [List.head?_reverse, hlast]
    intro h
    rcases ht.last with h' | h' <;> rw [h'] at h <;> cases h
  have hnone : after? fence (w ++ t).reverse = none := after?_fence_of_ne hquote []
  rw [beforeCloser, Text.trimEnd_eq_self (by rw [hlast]; exact ht.isBlank_last), hnone]

theorem beforeCloser_fence (cs : List Char) : beforeCloser (cs ++ fence) = cs := by
  have htrim : trimEnd (cs ++ fence) = cs ++ fence := by
    apply Text.trimEnd_eq_self
    intro c hc
    have hlast : (cs ++ fence).getLast? = some '\x60' := List.getLast?_append_of_ne_nil _ (by decide)
    obtain rfl := Option.some.inj (hlast.symm.trans hc)
    decide
  have hreverse : (cs ++ fence).reverse = fence ++ cs.reverse := List.reverse_append
  rw [beforeCloser, htrim, hreverse, after?_append]
  exact List.reverse_reverse cs

/-! ### Fences -/

/-- Behind an opener, what is left is what stands in front of the closer, if there is one. -/
theorem unfenced_append {tag : String} (htag : tag ∈ tags) {v w inner : List Char}
    (hv : ∀ c ∈ v, isBlank c = true) (hw : ∀ c ∈ w, isBlank c = true) (hsmall : inner.head? ≠ some 'j')
    (hlarge : inner.head? ≠ some 'J') (hne : inner ≠ [])
    (hlast : ∀ c, inner.getLast? = some c → isBlank c = false) :
    unfenced (String.ofList (v ++ (fence ++ (tag.toList ++ inner) ++ w))) =
      String.ofList (trimEnd (trimStart (beforeCloser inner))) := by
  have htrim : trimEnd (trimStart (v ++ (fence ++ (tag.toList ++ inner) ++ w))) =
      fence ++ (tag.toList ++ inner) := by
    rw [Text.trim_around hv hw]
    apply Text.trim_eq_self
    · intro c hc
      have hfence : (fence ++ (tag.toList ++ inner)).head? = some '\x60' := rfl
      obtain rfl := Option.some.inj (hfence.symm.trans hc)
      decide
    · rwa [← List.append_assoc, List.getLast?_append_of_ne_nil _ hne]
  rw [unfenced, String.toList_ofList, htrim, afterOpener?_append htag hsmall hlarge]

section

variable {t v w u : List Char} (ht : Bracketed t) (hv : ∀ c ∈ v, isBlank c = true)
  (hw : ∀ c ∈ w, isBlank c = true) (hu : ∀ c ∈ u, isBlank c = true)

include ht

/-- Blanks and a bracket do not start with a letter. -/
theorem Bracketed.head?_ne (hw : ∀ c ∈ w, isBlank c = true) (u : List Char) {c : Char}
    (hc : isBlank c = false ∧ c ≠ '[' ∧ c ≠ '\x7b') : (w ++ (t ++ u)).head? ≠ some c := by
  intro h
  obtain ⟨b, cs, rfl, hb⟩ := ht.exists_cons
  cases w with
  | nil =>
    obtain rfl := Option.some.inj h
    rcases hb with rfl | rfl
    · exact hc.2.1 rfl
    · exact hc.2.2 rfl
  | cons a w =>
    obtain rfl := Option.some.inj h
    rw [hw a List.mem_cons_self] at hc
    exact Bool.noConfusion hc.1

include hv hw

theorem unfenced_bare : unfenced (String.ofList (v ++ (t ++ w))) = String.ofList t := by
  rw [unfenced, String.toList_ofList, ht.trim hv hw, ht.afterOpener?]

include hu

theorem unfenced_open {tag : String} (htag : tag ∈ tags) :
    unfenced (String.ofList (v ++ (fence ++ (tag.toList ++ (w ++ t)) ++ u))) = String.ofList t := by
  have hempty : ∀ c ∈ ([] : List Char), isBlank c = true := fun c hc => absurd hc List.not_mem_nil
  have hne : t ≠ [] := by
    obtain ⟨c, cs, rfl, -⟩ := ht.exists_cons
    exact List.cons_ne_nil c cs
  have hletter := fun c => @Bracketed.head?_ne t w ht hw [] c
  have htrim := ht.trim hw hempty
  rw [List.append_nil] at hletter htrim
  rw [unfenced_append htag hv hu (hletter 'j' (by decide)) (hletter 'J' (by decide)) (by simp [hne])
    (by rw [List.getLast?_append_of_ne_nil _ hne]; exact ht.isBlank_last), beforeCloser_bracketed ht, htrim]

theorem unfenced_closed {tag : String} (htag : tag ∈ tags) {x : List Char} (hx : ∀ c ∈ x, isBlank c = true) :
    unfenced (String.ofList (v ++ (fence ++ (tag.toList ++ (w ++ (t ++ u) ++ fence)) ++ x))) =
      String.ofList t := by
  have hletter : ∀ {c : Char}, isBlank c = false ∧ c ≠ '[' ∧ c ≠ '\x7b' →
      (w ++ (t ++ u) ++ fence).head? ≠ some c := by
    intro c hc
    rw [List.append_assoc, List.append_assoc]
    exact ht.head?_ne hw _ hc
  have hlast : (w ++ (t ++ u) ++ fence).getLast? = some '\x60' :=
    List.getLast?_append_of_ne_nil _ (by decide)
  have hquote : ∀ c, (w ++ (t ++ u) ++ fence).getLast? = some c → isBlank c = false := by
    intro c hc
    obtain rfl := Option.some.inj (hlast.symm.trans hc)
    decide
  have hne : w ++ (t ++ u) ++ fence ≠ [] := List.append_ne_nil_of_right_ne_nil _ (by decide)
  rw [unfenced_append htag hv hx (hletter (by decide)) (hletter (by decide)) hne hquote, beforeCloser_fence,
    ht.trim hw hu]

end

/-! ### The output of a model -/

/-- A plan is read whatever blanks are around it, in a fence or without one, and the fence may have no end.
Where a plan cannot be read, the command line stops because of the planner. -/
theorem ofModelOutput_fenced :
    (∀ {j : String} {p : Plan}, ofJson j = .ok p → ∀ {w₁ w₂ w₃ w₄ : String}, Blank w₁ → Blank w₂ → Blank w₃ →
      Blank w₄ →
      ofModelOutput (w₁ ++ j ++ w₂) = .ok p ∧
        ∀ tag ∈ tags,
          ofModelOutput (w₁ ++ (String.ofList fence ++ tag) ++ w₂ ++ j ++ w₃) = .ok p ∧
          ofModelOutput (w₁ ++ (String.ofList fence ++ tag) ++ w₂ ++ j ++ w₃ ++ String.ofList fence ++ w₄) =
            .ok p) ∧
    ∀ {m : Type → Type} [Monad m] [LawfulMonad m] (s : CommandLine.Surroundings m) (path : Option String)
      (text : String), CommandLine.readPlanText s path = pure text →
      (∃ p, ofModelOutput text = .ok p ∧ CommandLine.readPlan s path = pure p) ∨
        ∃ fault, ofModelOutput text = .error fault ∧
          CommandLine.readPlan s path = throw (.ofFailure (.planner (.unreadable fault))) := by
  refine ⟨fun {j p} h w₁ w₂ w₃ w₄ h₁ h₂ h₃ h₄ => ?_, fun s path text htext => ?_⟩
  · obtain ⟨v, t, v', hj, hv, hv', ht, hread⟩ := exists_bracketed h
    have hfound : ∀ {text : String} {cs : List Char}, text.toList = cs →
        unfenced (String.ofList cs) = String.ofList t → ofModelOutput text = .ok p := by
      rintro text _ rfl hunfenced
      rw [String.ofList_toList] at hunfenced
      rw [ofModelOutput, hunfenced, hread]
    have hbefore : ∀ {w : String}, Blank w → ∀ c ∈ w.toList ++ v, isBlank c = true := fun hw =>
      List.forall_mem_append.mpr ⟨hw, hv⟩
    have hafter : ∀ {w : String}, Blank w → ∀ c ∈ v' ++ w.toList, isBlank c = true := fun hw =>
      List.forall_mem_append.mpr ⟨hv', hw⟩
    refine ⟨hfound ?_ (unfenced_bare ht (hbefore h₁) (hafter h₂)), fun tag htag =>
      ⟨hfound ?_ (unfenced_open ht h₁ (hbefore h₂) (hafter h₃) htag),
        hfound ?_ (unfenced_closed ht h₁ (hbefore h₂) (hafter h₃) htag h₄)⟩⟩
    all_goals simp only [String.toList_append, String.toList_ofList, hj, List.append_assoc]
  · have hread : CommandLine.readPlan s path =
        CommandLine.orStop ((ofModelOutput text).mapError fun fault => .planner (.unreadable fault)) := by
      rw [CommandLine.readPlan, htext, pure_bind]
    cases hplan : ofModelOutput text with
    | ok p => exact .inl ⟨p, rfl, by rw [hread, hplan]; rfl⟩
    | error fault => exact .inr ⟨fault, rfl, by rw [hread, hplan]; rfl⟩

/-- Neither the back quotes in a plan nor the blanks around it, which are no spaces, stand in the way. -/
theorem ofModelOutput_fenced_with_back_quotes :
    let j := "\x7b\"dataset\":\"\x60\x60\x60\"\x7d"
    let p : Plan := { dataset := some "\x60\x60\x60" }
    let s : CommandLine.Surroundings Id :=
      { arguments := [], environment := fun _ => none, variableFile := none,
        fileText := fun _ => .error .missing, inputText := .ok "I think you want tasks",
        openDatabase := fun _ => .error .unsupported, requestId := "" }
    ofModelOutput ("\n" ++ j ++ "\u00a0") = .ok p ∧
      ofModelOutput (" " ++ (String.ofList fence ++ "json") ++ "\n" ++ j ++ "\u2003") = .ok p ∧
      ofModelOutput
        ("" ++ (String.ofList fence ++ "JSON") ++ "\n" ++ j ++ "\n" ++ String.ofList fence ++ "\n") = .ok p ∧
      ∃ fault, ofModelOutput "I think you want tasks" = .error fault ∧
        CommandLine.readPlan s none = throw (.ofFailure (.planner (.unreadable fault))) := by
  intro j p s
  have hread : ofJson "\x7b\"dataset\":\"\x60\x60\x60\"\x7d" =
      .ok { dataset := some "\x60\x60\x60" } := by
    rw [← Json.toOption_eq_some]
    decide +kernel
  have hblank : Blank "\n" := by decide
  have hspace : Blank "\u00a0" := by decide
  have hspace' : Blank "\u2003" := by decide
  have hspace'' : Blank " " := by decide
  have hempty : Blank "" := by decide
  obtain ⟨hfenced, hfails⟩ := ofModelOutput_fenced
  refine ⟨(hfenced hread hblank hspace hblank hblank).1,
    ((hfenced hread hspace'' hblank hspace' hblank).2 "json" (by decide)).1,
    ((hfenced hread hempty hblank hblank hblank).2 "JSON" (by decide)).2, ?_⟩
  have hnone : (ofModelOutput "I think you want tasks").toOption = none := by decide
  obtain ⟨p, hp, -⟩ | h := hfails s none "I think you want tasks" rfl
  · rw [hp] at hnone
    cases hnone
  · exact h

end ScopedQuery.Plan
