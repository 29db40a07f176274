import ScopedQuery.Proofs.Sql.Reading.Steps
/-!
# Calm readers

A reader crashes only behind a few keywords, where something has to follow. That it does so nowhere else is
proved reader by reader.

* `Harmless` tokens hold none of these keywords.
* `Calm` readers do not crash on harmless tokens, and what they leave is harmless again: this is what
  carries the property from one step of a reader to the next.
* The steps of readers are calm, and the combinators are if what they are given is. Every loop has an
  induction on its fuel.
* `Grammar.Calm` says it of the readers of a level of nesting.

The proofs follow the readers step by step. Where a reader has many branches, what several of them have in
common is set apart by name and dealt with first; the branches are left to `grind`, for which the lemmas are
tagged.
-/

namespace ScopedQuery.Sql

open Parsing

/-- The keywords behind which something has to follow. -/
def demanding : List String := ["DIV", "TOP", "GRANTED", "AUTO_INCREMENT"]

/-- None of the tokens is a keyword behind which a reader can crash. -/
def Harmless (ts : List Token) : Prop := ∀ t ∈ ts, ∀ word ∈ keywordOf t, word ∉ demanding

instance (ts : List Token) : Decidable (Harmless ts) :=
  inferInstanceAs (Decidable (∀ t ∈ ts, ∀ word ∈ keywordOf t, word ∉ demanding))

theorem Harmless.tail {t : Token} {ts : List Token} (h : Harmless (t :: ts)) : Harmless ts :=
  (List.forall_mem_cons.mp h).2

/-- What is picked from harmless tokens is harmless. -/
theorem Harmless.of_subset {ts us : List Token} (h : Harmless ts) (hsub : us ⊆ ts) : Harmless us :=
  fun t ht => h t (hsub ht)

/-- On harmless tokens the reader does not crash, and it leaves harmless tokens. -/
def Calm {α : Type} (read : Parsing α) : Prop :=
  ∀ ts, Harmless ts → read ts ≠ .crashed ∧ ∀ a rest, read ts = .ok (a, rest) → Harmless rest

variable {α β : Type}

/-! ### Chains -/

theorem Calm.of_ok {read : Parsing α}
    (h : ∀ ts, Harmless ts → ∃ a rest, read ts = .ok (a, rest) ∧ Harmless rest) : Calm read := by
  intro ts hts
  obtain ⟨a, rest, hread, hrest⟩ := h ts hts
  rw [hread]
  refine ⟨nofun, ?_⟩
  intro b rest' heq
  cases heq
  exact hrest

@[grind ←] protected theorem Calm.bind {x : Parsing α} {f : α → Parsing β} (hx : Calm x)
    (hf : ∀ a, Calm (f a)) : Calm (x >>= f) := by
  intro ts hts
  rw [bind_apply]
  obtain ⟨hcrash, hrest⟩ := hx ts hts
  cases h : x ts with
  | ok r => exact hf r.1 r.2 (hrest r.1 r.2 h)
  | error e => exact ⟨nofun, nofun⟩
  | crashed => exact absurd h hcrash

@[grind ←] theorem calm_pure (a : α) : Calm (pure a : Parsing α) :=
  .of_ok fun ts hts => ⟨a, ts, rfl, hts⟩

@[grind ←] theorem calm_failure : Calm (failure : Parsing α) := fun _ _ => ⟨nofun, nofun⟩

@[grind ←] theorem calm_guard (p : Prop) [Decidable p] : Calm (guard p : Parsing Unit) := by
  unfold guard
  split
  · exact calm_pure ()
  · exact calm_failure

protected theorem Calm.ite {c : Prop} [Decidable c] {x y : Parsing α} (hx : Calm x)
    (hy : Calm y) : Calm (if c then x else y) := by
  split
  · exact hx
  · exact hy

@[grind ←] protected theorem Calm.discard {x : Parsing α} (hx : Calm x) : Calm (discard x) :=
  hx.bind fun _ => calm_pure _

/-! ### The tokens that remain -/

/-- What is done with the tokens that remain can count on their being harmless. -/
theorem calm_get_bind {f : List Token → Parsing α} (hf : ∀ ts, Harmless ts → Calm (f ts)) :
    Calm (get >>= f) :=
  fun ts hts => hf ts hts ts hts

@[grind ←] theorem calm_get : Calm (get : Parsing (List Token)) :=
  .of_ok fun ts hts => ⟨ts, ts, rfl, hts⟩

@[grind ←] theorem calm_set {ts : List Token} (hts : Harmless ts) :
    Calm (set ts : Parsing PUnit) :=
  .of_ok fun _ _ => ⟨⟨⟩, ts, rfl, hts⟩

theorem calm_modify {f : List Token → List Token} (hf : ∀ ts, f ts ⊆ ts) :
    Calm (modify f : Parsing PUnit) :=
  .of_ok fun ts hts => ⟨⟨⟩, f ts, rfl, hts.of_subset (hf ts)⟩

/-! ### Single tokens -/

@[grind ←] theorem calm_peek : Calm peek := calm_get.bind fun _ => calm_pure _

@[grind ←] theorem calm_peekSecond : Calm peekSecond := calm_get.bind fun _ => calm_pure _

@[grind ←] theorem calm_next : Calm next := by
  intro ts hts
  cases ts with
  | nil => exact ⟨nofun, nofun⟩
  | cons t ts =>
    refine ⟨nofun, ?_⟩
    intro a rest h
    cases h
    exact hts.tail

@[grind ←] theorem calm_symbol? (text : String) : Calm (symbol? text) := by
  refine .of_ok fun ts hts => ?_
  unfold symbol?
  split
  · split
    · exact ⟨_, _, rfl, hts.tail⟩
    · exact ⟨_, _, rfl, hts⟩
  · exact ⟨_, _, rfl, hts⟩

@[grind ←] theorem calm_symbol (text : String) : Calm (Parsing.symbol text) :=
  (calm_symbol? text).bind fun _ => calm_guard _

@[grind ←] theorem calm_peekKeyword : Calm peekKeyword := calm_peek.bind fun _ => calm_pure _

@[grind ←] theorem calm_atKeyword (words : List String) : Calm (atKeyword words) :=
  calm_peekKeyword.bind fun _ => calm_pure _

@[grind ←] theorem calm_atSymbol (text : String) : Calm (atSymbol text) :=
  calm_peek.bind fun _ => calm_pure _

@[grind ←] theorem calm_anyKeyword? (words : List String) : Calm (anyKeyword? words) := by
  refine .of_ok fun ts hts => ?_
  unfold anyKeyword?
  split
  · split
    · exact ⟨_, _, rfl, hts.tail⟩
    · exact ⟨_, _, rfl, hts⟩
  · exact ⟨_, _, rfl, hts⟩

@[grind ←] theorem calm_anyKeyword (words : List String) : Calm (anyKeyword words) := by
  unfold anyKeyword
  grind

@[grind ←] theorem calm_keyword? (word : String) : Calm (keyword? word) :=
  (calm_anyKeyword? _).bind fun _ => calm_pure _

@[grind ←] theorem calm_keyword (word : String) : Calm (keyword word) :=
  (calm_keyword? word).bind fun _ => calm_guard _

theorem afterKeywords?_subset {words : List String} {ts rest : List Token}
    (h : afterKeywords? words ts = some rest) : rest ⊆ ts := by
  fun_induction afterKeywords? words ts with
  | case1 => cases h; exact List.Subset.refl _
  | case2 words text quote tokens keyword ih =>
    exact List.subset_cons_of_subset _ (ih h)
  | case3 => cases h
  | case4 => cases h

@[grind ←] theorem calm_keywords? (words : List String) : Calm (keywords? words) := by
  refine .of_ok fun ts hts => ?_
  unfold keywords?
  split
  · next rest h => exact ⟨_, _, rfl, hts.of_subset (afterKeywords?_subset h)⟩
  · exact ⟨_, _, rfl, hts⟩

@[grind ←] theorem calm_keywords (words : List String) : Calm (keywords words) :=
  (calm_keywords? words).bind fun _ => calm_guard _

@[grind ←] theorem calm_anyPhrase? (phrases : List (List String)) : Calm (anyPhrase? phrases) := by
  induction phrases with
  | nil => exact calm_pure none
  | cons words phrases ih =>
    unfold anyPhrase?
    grind

/-! ### Combinators -/

variable {read : Parsing α}

@[grind ←] protected theorem Calm.maybe (h : Calm read) : Calm (maybe read) := by
  refine .of_ok fun ts hts => ?_
  obtain ⟨hcrash, hrest⟩ := h ts hts
  unfold maybe
  cases hread : read ts with
  | ok r => exact ⟨_, _, rfl, hrest r.1 r.2 hread⟩
  | error e => exact ⟨_, _, rfl, hts⟩
  | crashed => exact absurd hread hcrash

@[grind ←] protected theorem Calm.behind? (word : String) (h : Calm read) : Calm (behind? word read) := by
  unfold behind?
  grind

@[grind ←] protected theorem Calm.parenthesised (h : Calm read) : Calm (parenthesised read) := by
  unfold parenthesised
  grind

protected theorem Calm.separatedUpTo (mark : String) (h : Calm read) (fuel : Nat) :
    Calm (separatedUpTo mark read fuel) := by
  induction fuel with
  | zero => exact calm_failure
  | succ fuel ih =>
    unfold separatedUpTo
    grind

@[grind ←] protected theorem Calm.separated (mark : String) (h : Calm read) : Calm (separated mark read) :=
  calm_get.bind fun _ => h.separatedUpTo mark _

@[grind ←] protected theorem Calm.commaList (h : Calm read) : Calm (commaList read) := h.separated ","

protected theorem Calm.listToEndUpTo (h : Calm read) (fuel : Nat) : Calm (listToEndUpTo read fuel) := by
  induction fuel with
  | zero => exact calm_failure
  | succ fuel ih =>
    unfold listToEndUpTo
    grind

@[grind ←] protected theorem Calm.listToEnd (h : Calm read) : Calm (listToEnd read) := by
  unfold listToEnd
  grind [Calm.listToEndUpTo]

@[grind ←] protected theorem Calm.listBehind (words : List String) (h : Calm read) :
    Calm (listBehind words read) := by
  unfold listBehind
  grind

protected theorem Calm.repeatedUpTo {read : Parsing (Option α)} (h : Calm read) (fuel : Nat) :
    Calm (repeatedUpTo read fuel) := by
  induction fuel with
  | zero => exact calm_failure
  | succ fuel ih =>
    unfold repeatedUpTo
    grind

@[grind ←] protected theorem Calm.repeated {read : Parsing (Option α)} (h : Calm read) :
    Calm (repeated read) :=
  calm_get.bind fun _ => h.repeatedUpTo _

/-! ### Demanding keywords -/

section

variable {word : String} (hword : word ∈ demanding)

include hword

theorem Harmless.head_ne {ts : List Token} (hts : Harmless ts) :
    ts.head?.bind keywordOf ≠ some word := by
  cases ts with
  | nil => exact nofun
  | cons t ts => exact fun h => hts t List.mem_cons_self word h hword

theorem keyword?_of_harmless {ts : List Token} (hts : Harmless ts) :
    keyword? word ts = .ok (false, ts) := by
  unfold keyword?
  simp only [bind_apply, anyKeyword?_apply]
  cases hhead : ts.head?.bind keywordOf with
  | none => rfl
  | some k =>
    have hk : k ≠ word := fun h => hts.head_ne hword (h ▸ hhead)
    simp [hk]

theorem keywords?_of_harmless (words : List String) {ts : List Token} (hts : Harmless ts) :
    keywords? (word :: words) ts = .ok (false, ts) := by
  have hafter : afterKeywords? (word :: words) ts = none := by
    have hhead := hts.head_ne hword
    cases ts with
    | nil => rfl
    | cons t ts =>
      cases t with
      | word text quote keyword =>
        cases keyword with
        | none => rfl
        | some k => exact if_neg fun h => hhead (congrArg some h)
      | _ => rfl
  rw [keywords?, hafter]

/-- What follows the keyword is never read, so that it may crash. -/
theorem calm_keyword?_bind {f : Bool → Parsing α} (hf : Calm (f false)) :
    Calm (keyword? word >>= f) := by
  intro ts hts
  rw [bind_apply, keyword?_of_harmless hword hts]
  exact hf ts hts

theorem calm_keywords?_bind (words : List String) {f : Bool → Parsing α} (hf : Calm (f false)) :
    Calm (keywords? (word :: words) >>= f) := by
  intro ts hts
  rw [bind_apply, keywords?_of_harmless hword words hts]
  exact hf ts hts

theorem calm_behind?_of_demanding (read : Parsing α) : Calm (behind? word read) :=
  calm_keyword?_bind hword (calm_pure none)

end

/-! ### Levels of nesting -/

/-- The readers of a level are calm. -/
structure Grammar.Calm (g : Grammar) : Prop where
  expr : Sql.Calm g.expr
  query : Sql.Calm g.query
  statement : Sql.Calm g.statement
  tight : ∀ logic floor, Sql.Calm (g.tight logic floor)

attribute [grind ←] Grammar.Calm.expr Grammar.Calm.query Grammar.Calm.statement Grammar.Calm.tight

theorem Grammar.calm_exhausted : Grammar.exhausted.Calm where
  expr := calm_failure
  query := calm_failure
  statement := calm_failure
  tight _ _ := calm_failure

end ScopedQuery.Sql
