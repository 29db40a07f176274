import Mathlib.Tactic.Common
import ScopedQuery.Proofs.Decimal.Written
import ScopedQuery.Proofs.Json.Grammar
import ScopedQuery.Proofs.Json.Steps
/-!
# Numbers that are passed over

* `Unsigned.skip`: a number is passed over up to a character that ends values.
* `exists_of_skipNumeral`: what is passed over as a number is one.
-/

namespace ScopedQuery.Json

/-! ### Digits -/

/-- The text is at its end, or does not go on with a digit. -/
def NoDigit (rest : List Char) : Prop := ∀ c, rest.head? = some c → c.isDigit = false

theorem dropWhile_digits {ds rest : List Char} (hds : ∀ c ∈ ds, c.isDigit = true) (hrest : NoDigit rest) :
    (ds ++ rest).dropWhile Char.isDigit = rest := by
  rw [List.dropWhile_append_of_pos hds]
  cases rest with
  | nil => rfl
  | cons c cs => exact List.dropWhile_cons_of_neg (by simp [hrest c rfl])

theorem skipDigits_append {ds rest : List Char} (hds : Digits ds) (hrest : NoDigit rest) :
    skipDigits (ds ++ rest) = .ok ((), rest) := by
  obtain ⟨hne, hall⟩ := hds
  have hdrop := dropWhile_digits hall hrest
  cases ds with
  | nil => exact absurd rfl hne
  | cons d ds =>
    rw [List.cons_append] at hdrop ⊢
    simp [skipDigits, hall d List.mem_cons_self, hdrop]

theorem exists_of_skipDigits {cs rest : List Char} (h : skipDigits cs = .ok ((), rest)) :
    ∃ ds, Digits ds ∧ cs = ds ++ rest := by
  cases cs with
  | nil => cases h
  | cons c cs =>
    simp only [skipDigits, bind_apply, get_apply, andThen_ok] at h
    by_cases hc : c.isDigit = true
    · rw [if_pos hc] at h
      obtain ⟨-, rfl⟩ := Prod.mk.inj (Except.ok.inj h)
      refine ⟨(c :: cs).takeWhile Char.isDigit, ⟨?_, ?_⟩, List.takeWhile_append_dropWhile.symm⟩
      · simp [hc]
      · exact fun d hd => List.mem_takeWhile_imp hd
    · rw [if_neg hc] at h
      cases h

/-! ### Exponents -/

theorem Digits.noDigit_cons {c : Char} (hc : c.isDigit = false) (cs : List Char) : NoDigit (c :: cs) := by
  rintro d ⟨⟩
  exact hc

theorem Stops.noDigit {rest : List Char} (h : Stops rest) : NoDigit rest := by
  intro c hc
  rcases h c hc with hspace | rfl | rfl | rfl
  · simp only [isSpace, Bool.or_eq_true, beq_iff_eq] at hspace
    rcases hspace with ((rfl | rfl) | rfl) | rfl <;> rfl
  all_goals rfl

/-- A character that ends a value is none of the marks inside of a number. -/
theorem Stops.ne {rest : List Char} (h : Stops rest) {c d : Char} (hc : rest.head? = some c)
    (hd : d = '.' ∨ d = 'e' ∨ d = 'E' ∨ d = '+' ∨ d = '-') : c ≠ d := by
  rcases h c hc with hspace | rfl | rfl | rfl
  · simp only [isSpace, Bool.or_eq_true, beq_iff_eq] at hspace
    rcases hspace with ((rfl | rfl) | rfl) | rfl <;> rcases hd with rfl | rfl | rfl | rfl | rfl <;> decide
  all_goals rcases hd with rfl | rfl | rfl | rfl | rfl <;> decide

theorem skipExponent_of_ne {rest : List Char} (h : rest.head? ≠ some 'e') (h' : rest.head? ≠ some 'E') :
    skipExponent rest = .ok ((), rest) := by
  cases rest with
  | nil => rfl
  | cons c cs =>
    have hc : ¬(c = 'e' ∨ c = 'E') := by
      rintro (rfl | rfl)
      · exact h rfl
      · exact h' rfl
    simp [skipExponent, hc]

/-- What follows the letter of an exponent, without its sign. -/
def afterSign : List Char → List Char
  | '+' :: cs => cs
  | '-' :: cs => cs
  | cs => cs

theorem afterSign_append {sign ds : List Char} (hsign : sign = [] ∨ sign = ['+'] ∨ sign = ['-'])
    (hds : Digits ds) (rest : List Char) : afterSign (sign ++ ds ++ rest) = ds ++ rest := by
  obtain ⟨hne, hall⟩ := hds
  rcases hsign with rfl | rfl | rfl
  · cases ds with
    | nil => exact absurd rfl hne
    | cons d ds =>
      have hd := hall d List.mem_cons_self
      have hplus : d ≠ '+' := Decimal.ne_of_isDigit hd rfl
      have hminus : d ≠ '-' := Decimal.ne_of_isDigit hd rfl
      simp [afterSign, hplus, hminus]
  · rfl
  · rfl

theorem exists_sign (cs : List Char) :
    ∃ sign, (sign = [] ∨ sign = ['+'] ∨ sign = ['-']) ∧ cs = sign ++ afterSign cs := by
  unfold afterSign
  split
  · exact ⟨['+'], .inr (.inl rfl), rfl⟩
  · exact ⟨['-'], .inr (.inr rfl), rfl⟩
  · exact ⟨[], .inl rfl, rfl⟩

theorem skipExponent_cons {e : Char} (he : e = 'e' ∨ e = 'E') (cs : List Char) :
    skipExponent (e :: cs) = skipDigits (afterSign cs) := by
  simp only [skipExponent, bind_apply, get_apply, andThen_ok, ite_apply, he, if_true]
  cases cs with
  | nil => rfl
  | cons c cs =>
    by_cases hplus : c = '+'
    · subst hplus
      rfl
    · by_cases hminus : c = '-'
      · subst hminus
        rfl
      · simp [afterSign, hplus, hminus]

theorem Exponent.skip {e rest : List Char} (he : Exponent e) (hrest : Stops rest) :
    skipExponent (e ++ rest) = .ok ((), rest) := by
  cases he with
  | absent =>
    exact skipExponent_of_ne (fun h => hrest.ne h (.inr (.inl rfl)) rfl)
      fun h => hrest.ne h (.inr (.inr (.inl rfl))) rfl
  | digits he hsign hds =>
    rw [List.cons_append, skipExponent_cons he, afterSign_append hsign hds,
      skipDigits_append hds hrest.noDigit]

theorem exists_of_skipExponent {cs rest : List Char} (h : skipExponent cs = .ok ((), rest)) :
    ∃ e, Exponent e ∧ cs = e ++ rest := by
  cases cs with
  | nil =>
    obtain ⟨-, rfl⟩ := Prod.mk.inj (Except.ok.inj h)
    exact ⟨[], .absent, rfl⟩
  | cons c cs =>
    by_cases hc : c = 'e' ∨ c = 'E'
    · rw [skipExponent_cons hc] at h
      obtain ⟨ds, hds, hcs⟩ := exists_of_skipDigits h
      obtain ⟨sign, hsign, hsigned⟩ := exists_sign cs
      refine ⟨c :: (sign ++ ds), .digits hc hsign hds, ?_⟩
      rw [List.cons_append, List.append_assoc, ← hcs, ← hsigned]
    · rw [not_or] at hc
      rw [skipExponent_of_ne (by simpa using hc.1) (by simpa using hc.2)] at h
      obtain ⟨-, rfl⟩ := Prod.mk.inj (Except.ok.inj h)
      exact ⟨[], .absent, rfl⟩

/-! ### Numbers -/

/-- The end of a number, after its first digits. -/
def skipEnd : Step Unit := fun
  | '.' :: rest => andThen (skipDigits rest) fun _ => skipExponent
  | cs => skipExponent cs

theorem skipEnd_point (cs : List Char) :
    skipEnd ('.' :: cs) = andThen (skipDigits cs) fun _ => skipExponent := rfl

theorem skipNumeral_eq (cs : List Char) :
    skipNumeral cs = match cs with
      | '0' :: rest =>
        if (rest.head?.map Char.isDigit).getD false then .error .invalidNumber else skipEnd rest
      | cs => andThen (skipDigits cs) fun _ => skipEnd := by
  have hend : ∀ cs : List Char, (do
      match ← get with
      | '.' :: rest => set rest; skipDigits; skipExponent
      | _ => skipExponent : Step Unit) cs = skipEnd cs := by
    intro cs
    simp only [bind_apply, get_apply, andThen_ok]
    unfold skipEnd
    split <;> rfl
  have hdigits : ∀ cs : List Char, (skipDigits >>= fun _ => do
      match ← get with
      | '.' :: rest => set rest; skipDigits; skipExponent
      | _ => skipExponent : Step Unit) cs = andThen (skipDigits cs) fun _ => skipEnd := fun cs =>
    congrArg (andThen _) (funext fun _ => funext hend)
  simp only [skipNumeral, bind_apply, get_apply, andThen_ok]
  cases cs with
  | nil => exact hdigits []
  | cons c cs =>
    by_cases hzero : c = '0'
    · subst hzero
      simp only [bind_apply, set_apply, andThen_ok, ite_apply]
      split
      · rfl
      · exact hend cs
    · simp only [List.cons.injEq, hzero, false_and, imp_self, implies_true, bind_apply]
      exact hdigits (c :: cs)

theorem Fraction.skip {f e rest : List Char} (hf : Fraction f) (he : Exponent e) (hrest : Stops rest) :
    skipEnd (f ++ (e ++ rest)) = .ok ((), rest) := by
  have hskip := he.skip hrest
  cases hf with
  | absent =>
    have hpoint : ∀ cs, e ++ rest ≠ '.' :: cs := by
      intro cs hcs
      cases he with
      | absent =>
        rw [List.nil_append] at hcs
        exact hrest.ne (congrArg List.head? hcs) (.inl rfl) rfl
      | digits he _ _ =>
        rw [List.cons_append, List.cons.injEq] at hcs
        rcases he with rfl | rfl <;> exact absurd hcs.1 (by decide)
    rw [List.nil_append]
    unfold skipEnd
    split
    · next h => exact absurd h (hpoint _)
    · exact hskip
  | digits hds =>
    have hnodigit : NoDigit (e ++ rest) := by
      cases he with
      | absent => exact hrest.noDigit
      | digits he _ _ => rcases he with rfl | rfl <;> exact Digits.noDigit_cons rfl _
    rw [List.cons_append, skipEnd_point, skipDigits_append hds hnodigit]
    exact hskip

theorem Unsigned.skip {t rest : List Char} (ht : Unsigned t) (hrest : Stops rest) :
    skipNumeral (t ++ rest) = .ok ((), rest) := by
  obtain @⟨w, f, e, hw, hf, he⟩ := ht
  have hnodigit : NoDigit (f ++ (e ++ rest)) := by
    cases hf with
    | digits _ => exact Digits.noDigit_cons rfl _
    | absent =>
      cases he with
      | absent => exact hrest.noDigit
      | digits he _ _ => rcases he with rfl | rfl <;> exact Digits.noDigit_cons rfl _
  have hend := hf.skip he hrest
  rw [List.append_assoc, List.append_assoc]
  cases hw with
  | zero =>
    have hnone : ¬((f ++ (e ++ rest)).head?.map Char.isDigit).getD false = true := by
      cases hhead : (f ++ (e ++ rest)).head? with
      | none => simp
      | some c => simp [hnodigit c hhead]
    rw [skipNumeral_eq]
    exact (if_neg hnone).trans hend
  | digits hds hzero =>
    rw [skipNumeral_eq]
    split
    · next h =>
      obtain ⟨hne, -⟩ := hds
      cases w with
      | nil => exact absurd rfl hne
      | cons d ds => exact absurd (congrArg some (List.cons.inj h).1) hzero
    · rw [skipDigits_append hds hnodigit]
      exact hend

theorem exists_of_skipEnd {cs rest : List Char} (h : skipEnd cs = .ok ((), rest)) :
    ∃ f e, Fraction f ∧ Exponent e ∧ cs = f ++ (e ++ rest) := by
  unfold skipEnd at h
  split at h
  · next cs =>
    obtain ⟨⟨⟨⟩, more⟩, hdigits, hexponent⟩ := andThen_eq_ok.mp h
    obtain ⟨ds, hds, rfl⟩ := exists_of_skipDigits hdigits
    obtain ⟨e, he, rfl⟩ := exists_of_skipExponent hexponent
    exact ⟨'.' :: ds, e, .digits hds, he, by simp⟩
  · obtain ⟨e, he, rfl⟩ := exists_of_skipExponent h
    exact ⟨[], e, .absent, he, rfl⟩

theorem exists_of_skipNumeral {cs rest : List Char} (h : skipNumeral cs = .ok ((), rest)) :
    ∃ t, Unsigned t ∧ cs = t ++ rest := by
  rw [skipNumeral_eq] at h
  split at h
  · split at h
    · cases h
    · obtain ⟨f, e, hf, he, rfl⟩ := exists_of_skipEnd h
      exact ⟨['0'] ++ (f ++ e), .parts .zero hf he, by simp⟩
  · next hzero =>
    obtain ⟨⟨⟨⟩, more⟩, hdigits, hend⟩ := andThen_eq_ok.mp h
    obtain ⟨ds, hds, rfl⟩ := exists_of_skipDigits hdigits
    obtain ⟨f, e, hf, he, rfl⟩ := exists_of_skipEnd hend
    refine ⟨ds ++ (f ++ e), .parts (.digits hds ?_) hf he, by simp⟩
    intro hhead
    cases ds with
    | nil => cases hhead
    | cons d ds =>
      obtain rfl := Option.some.inj hhead
      exact hzero _ rfl

end ScopedQuery.Json
