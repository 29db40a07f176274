import ScopedQuery.Json.Reader
import ScopedQuery.Proofs.Json.Passing
/-!
# Numbers wherever they stand

* `numeral_passes`: where a number is read, it can be passed over with the same rest.
* `numeral_append`: what ends values does not belong to a number in front of it.
* `Number.read` and `exists_of_signedNumeral`: numbers are read by their own characters alone, and nothing but
  numbers is read.
-/

namespace ScopedQuery.Json

/-! ### Numerals -/

/-- What is left of a text has more behind it. -/
def keep (more : List Char) {α : Type} (r : Option (α × List Char)) : Option (α × List Char) :=
  r.map fun p => (p.1, p.2 ++ more)

/-- The value of an exponent by its digits. -/
def exponentOf (ds : List Char) : Int := ds.foldl (fun v d => 10 * v + (d.toNat - 48)) 0

/-- The float of a numeral, if it is in range. -/
def floatOf (negative : Bool) (n : Nat) (e : Int) (rest : List Char) :
    Except Fault (Numeral × List Char) :=
  (scaled n e).map fun x => (.float (signed negative x), rest)

theorem floatOf_rest {negative : Bool} {n : Nat} {e : Int} {cs rest : List Char} {x : Numeral}
    (h : floatOf negative n e cs = .ok (x, rest)) : rest = cs := by
  unfold floatOf at h
  cases hscaled : scaled n e with
  | error fault =>
    rw [hscaled] at h
    cases h
  | ok y =>
    rw [hscaled] at h
    exact (Prod.mk.inj (Except.ok.inj h)).2.symm

theorem floatOf_append (negative : Bool) (n : Nat) (e : Int) (cs rest : List Char) :
    (floatOf negative n e (cs ++ rest)).toOption = keep rest (floatOf negative n e cs).toOption := by
  unfold floatOf
  cases scaled n e <;> rfl

/-- What an exponent reads after its sign, which is a minus sign if it goes `down`. -/
def exponentDigits (negative : Bool) (n : Nat) (e : Int) (down : Bool) : Step Numeral := do
  match ← get with
  | [] => fail .endInValue
  | c :: _ =>
    if !c.isDigit then fail .invalidNumber
    let digits := (← get).takeWhile Char.isDigit
    modify (·.dropWhile Char.isDigit)
    let size : Int := digits.foldl (fun v d => 10 * v + (d.toNat - 48)) 0
    match scaled n (if down then e - size else e + size) with
    | .ok x => return .float (signed negative x)
    | .error fault => fail fault

theorem exponentDigits_eq (negative : Bool) (n : Nat) (e : Int) (down : Bool) (ds : List Char) :
    (exponentDigits negative n e down ds).toOption =
      (andThen (skipDigits ds) fun _ rest =>
        let size := exponentOf (ds.takeWhile Char.isDigit)
        floatOf negative n (if down then e - size else e + size) rest).toOption := by
  cases ds with
  | nil => rfl
  | cons c ds =>
    simp only [exponentDigits, bind_apply, get_apply, andThen_ok, skipDigits, ite_apply]
    by_cases hc : c.isDigit = true
    · simp only [hc, Bool.not_true, Bool.false_eq_true, if_false, if_true, modify_apply, andThen_ok,
        exponentOf, floatOf]
      cases scaled n _ <;> rfl
    · simp only [hc]
      rfl

/-- An exponent reads the digits that are passed over, and its sign. -/
theorem exponentPart_eq (negative : Bool) (n : Nat) (e : Int) (cs : List Char) :
    (exponentPart negative n e cs).toOption =
      (andThen (skipDigits (afterSign cs)) fun _ rest =>
        let size := exponentOf ((afterSign cs).takeWhile Char.isDigit)
        floatOf negative n (if cs.head? = some '-' then e - size else e + size) rest).toOption := by
  have hdigits := exponentDigits_eq negative n e
  simp only [exponentPart, bind_apply, get_apply, andThen_ok]
  cases cs with
  | nil => rfl
  | cons c cs =>
    by_cases hplus : c = '+'
    · subst hplus
      exact hdigits false cs
    · by_cases hminus : c = '-'
      · subst hminus
        exact hdigits true cs
      · have hsign : afterSign (c :: cs) = c :: cs := by simp [afterSign, hplus, hminus]
        simp only [hsign, List.cons.injEq, hplus, hminus, false_and, imp_self, implies_true,
          List.head?_cons, Option.some.injEq, if_false]
        exact hdigits false (c :: cs)

@[simp] theorem keep_nil {α : Type} (r : Option (α × List Char)) : keep [] r = r := by
  cases r <;> simp [keep]

section

variable {rest : List Char} (hrest : Stops rest)

include hrest

theorem takeWhile_append_stops (cs : List Char) :
    (cs ++ rest).takeWhile Char.isDigit = cs.takeWhile Char.isDigit := by
  induction cs with
  | nil =>
    cases rest with
    | nil => rfl
    | cons c rest => simp [hrest.noDigit c rfl]
  | cons c cs ih => simp [List.takeWhile_cons, ih]

theorem dropWhile_append_stops (cs : List Char) :
    (cs ++ rest).dropWhile Char.isDigit = cs.dropWhile Char.isDigit ++ rest := by
  induction cs with
  | nil =>
    cases rest with
    | nil => rfl
    | cons c rest => simp [hrest.noDigit c rfl]
  | cons c cs ih =>
    rw [List.cons_append, List.dropWhile_cons, List.dropWhile_cons]
    split
    · exact ih
    · rfl

theorem collect_append (n count : Nat) (cs : List Char) :
    collect n count (cs ++ rest) =
      ((collect n count cs).1, (collect n count cs).2.1, (collect n count cs).2.2 ++ rest) := by
  induction cs generalizing n count with
  | nil =>
    cases rest with
    | nil => rfl
    | cons c rest => simp [collect, hrest.noDigit c rfl]
  | cons c cs ih =>
    rw [List.cons_append, collect, collect]
    split
    · exact ih _ _
    · rfl

theorem skipDigits_append_stops (cs : List Char) :
    (skipDigits (cs ++ rest)).toOption = keep rest (skipDigits cs).toOption := by
  cases cs with
  | nil =>
    cases rest with
    | nil => rfl
    | cons c rest => simp [skipDigits, hrest.noDigit c rfl, keep]
  | cons c cs =>
    have hdrop := dropWhile_append_stops hrest (c :: cs)
    rw [List.cons_append] at hdrop ⊢
    simp only [skipDigits, bind_apply, get_apply, andThen_ok, ite_apply, modify_apply, hdrop]
    split <;> rfl

theorem afterSign_append_stops (cs : List Char) : afterSign (cs ++ rest) = afterSign cs ++ rest := by
  cases cs with
  | nil =>
    cases rest with
    | nil => rfl
    | cons c rest =>
      have hplus := hrest.ne (c := c) (d := '+') rfl (by simp)
      have hminus := hrest.ne (c := c) (d := '-') rfl (by simp)
      simp [afterSign, hplus, hminus]
  | cons c cs =>
    unfold afterSign
    rw [List.cons_append]
    split <;> simp_all

theorem head?_append_stops {c : Char} (hc : c = '.' ∨ c = 'e' ∨ c = 'E' ∨ c = '+' ∨ c = '-')
    (cs : List Char) : (cs ++ rest).head? = some c ↔ cs.head? = some c := by
  cases cs with
  | nil =>
    rw [List.nil_append]
    exact iff_of_false (fun h => hrest.ne h hc rfl) (by simp)
  | cons d cs => rfl

theorem exponentPart_append (negative : Bool) (n : Nat) (e : Int) (cs : List Char) :
    (exponentPart negative n e (cs ++ rest)).toOption =
      keep rest (exponentPart negative n e cs).toOption := by
  rw [exponentPart_eq, exponentPart_eq, afterSign_append_stops hrest, takeWhile_append_stops hrest,
    toOption_andThen, skipDigits_append_stops hrest, toOption_andThen]
  simp only [head?_append_stops hrest (c := '-') (by simp)]
  cases skipDigits (afterSign cs) with
  | error fault => rfl
  | ok r => exact floatOf_append _ _ _ _ rest

end

/-! ### Ends of numerals -/

theorem numeralEnd_letter {l : Char} (hl : l = 'e' ∨ l = 'E') (negative : Bool) (n : Nat) (e : Int)
    (cs : List Char) : numeralEnd negative n e (l :: cs) = exponentPart negative n e cs := by
  rcases hl with rfl | rfl <;> rfl

theorem numeralEnd_of_ne {cs : List Char} (h : cs.head? ≠ some 'e') (h' : cs.head? ≠ some 'E')
    (negative : Bool) (n : Nat) (e : Int) : numeralEnd negative n e cs = floatOf negative n e cs := by
  simp only [numeralEnd, bind_apply, get_apply, andThen_ok]
  split
  · exact absurd rfl h
  · exact absurd rfl h'
  · unfold floatOf
    cases scaled n e <;> rfl

theorem numeralEnd_append {rest : List Char} (hrest : Stops rest) (negative : Bool) (n : Nat) (e : Int)
    (cs : List Char) :
    (numeralEnd negative n e (cs ++ rest)).toOption = keep rest (numeralEnd negative n e cs).toOption := by
  by_cases hl : cs.head? = some 'e' ∨ cs.head? = some 'E'
  · cases cs with
    | nil => rcases hl with hl | hl <;> cases hl
    | cons c cs =>
      have hc : c = 'e' ∨ c = 'E' := by simpa using hl
      rw [List.cons_append, numeralEnd_letter hc, numeralEnd_letter hc, exponentPart_append hrest]
  · rw [not_or] at hl
    have hmore : ∀ c, c = 'e' ∨ c = 'E' → (cs ++ rest).head? = some c → cs.head? = some c := fun c hc =>
      (head?_append_stops hrest (by tauto) cs).mp
    rw [numeralEnd_of_ne hl.1 hl.2, numeralEnd_of_ne (fun h => hl.1 (hmore _ (.inl rfl) h))
      fun h => hl.2 (hmore _ (.inr rfl) h), floatOf_append]

theorem exists_of_collect {n count m total : Nat} {cs rest : List Char}
    (h : collect n count cs = (m, total, rest)) :
    ∃ ds, cs = ds ++ rest ∧ (∀ c ∈ ds, c.isDigit = true) ∧ total = count + ds.length := by
  induction cs generalizing n count with
  | nil =>
    obtain ⟨-, rfl, rfl⟩ := by simpa [collect] using h
    exact ⟨[], rfl, by simp, rfl⟩
  | cons c cs ih =>
    rw [collect] at h
    split at h
    · next hc =>
      obtain ⟨ds, rfl, hds, rfl⟩ := ih h
      rw [Bool.and_eq_true] at hc
      exact ⟨c :: ds, rfl, List.forall_mem_cons.mpr ⟨hc.1, hds⟩, by simp; omega⟩
    · obtain ⟨-, rfl, rfl⟩ := by simpa using h
      exact ⟨[], rfl, by simp, rfl⟩

theorem fractionPart_append {rest : List Char} (hrest : Stops rest) (negative : Bool) (n : Nat) (e : Int)
    (cs : List Char) :
    (fractionPart negative n e (cs ++ rest)).toOption =
      keep rest (fractionPart negative n e cs).toOption := by
  simp only [fractionPart, bind_apply, get_apply, andThen_ok, collect_append hrest, set_apply]
  obtain ⟨m, count, more⟩ := collect n 0 cs
  simp only
  have hend := numeralEnd_append hrest negative m (e - count)
  cases more with
  | nil =>
    have hnil := hend []
    rw [List.nil_append] at hnil ⊢
    cases rest with
    | nil => simp only [keep_nil]
    | cons c rest =>
      simp only [ite_apply, bind_apply, set_apply, andThen_ok, hrest.noDigit c rfl, Bool.false_eq_true,
        if_false]
      split
      · rfl
      · exact hnil
  | cons c more =>
    have hdrop := dropWhile_append_stops hrest (c :: more)
    rw [List.cons_append] at hdrop
    simp only [List.cons_append, ite_apply, bind_apply, set_apply, andThen_ok, hdrop]
    split
    · exact hend _
    split
    · rfl
    · exact hend (c :: more)

/-! ### Numerals are passed over -/

theorem skipDigits_of_isDigit {c : Char} (hc : c.isDigit = true) (cs : List Char) :
    skipDigits (c :: cs) = .ok ((), (c :: cs).dropWhile Char.isDigit) := by
  simp [skipDigits, hc]

theorem exponentPart_passes {negative : Bool} {n : Nat} {e : Int} {cs rest : List Char} {x : Numeral}
    (h : exponentPart negative n e cs = .ok (x, rest)) : skipDigits (afterSign cs) = .ok ((), rest) := by
  have heq := exponentPart_eq negative n e cs
  rw [h, toOption_ok, eq_comm, toOption_eq_some] at heq
  obtain ⟨⟨⟨⟩, more⟩, hdigits, hfloat⟩ := andThen_eq_ok.mp heq
  rw [hdigits, floatOf_rest hfloat]

theorem numeralEnd_passes {negative : Bool} {n : Nat} {e : Int} {cs rest : List Char} {x : Numeral}
    (h : numeralEnd negative n e cs = .ok (x, rest)) : skipExponent cs = .ok ((), rest) := by
  by_cases hl : cs.head? = some 'e' ∨ cs.head? = some 'E'
  · cases cs with
    | nil => rcases hl with hl | hl <;> cases hl
    | cons c cs =>
      have hc : c = 'e' ∨ c = 'E' := by simpa using hl
      rw [numeralEnd_letter hc] at h
      rw [skipExponent_cons hc]
      exact exponentPart_passes h
  · rw [not_or] at hl
    rw [numeralEnd_of_ne hl.1 hl.2] at h
    rw [floatOf_rest h]
    exact skipExponent_of_ne hl.1 hl.2

/-- The digits that are collected are passed over, with all the others. -/
theorem dropWhile_of_collect {n count m total : Nat} {cs rest : List Char}
    (h : collect n count cs = (m, total, rest)) :
    cs.dropWhile Char.isDigit = rest.dropWhile Char.isDigit := by
  obtain ⟨ds, rfl, hds, -⟩ := exists_of_collect h
  exact List.dropWhile_append_of_pos hds

theorem fractionPart_passes {negative : Bool} {n : Nat} {e : Int} {cs rest : List Char} {x : Numeral}
    (h : fractionPart negative n e cs = .ok (x, rest)) :
    andThen (skipDigits cs) (fun _ => skipExponent) = .ok ((), rest) := by
  simp only [fractionPart, bind_apply, get_apply, andThen_ok, set_apply] at h
  cases hcollect : collect n 0 cs with
  | mk m more =>
    obtain ⟨count, more⟩ := more
    rw [hcollect] at h
    have hdrop := dropWhile_of_collect hcollect
    obtain ⟨ds, rfl, hds, hcount⟩ := exists_of_collect hcollect
    cases ds with
    | nil =>
      obtain rfl : count = 0 := hcount
      rw [List.nil_append]
      cases more with
      | nil => cases h
      | cons c more =>
        simp only [ite_apply, bind_apply, set_apply, andThen_ok] at h
        split at h
        · next hc =>
          rw [skipDigits_of_isDigit hc]
          exact numeralEnd_passes h
        · cases h
    | cons d ds =>
      have hsome : count ≠ 0 := by
        rw [hcount, List.length_cons]
        omega
      have hend : numeralEnd negative m (e - count) (more.dropWhile Char.isDigit) = .ok (x, rest) := by
        cases more with
        | nil =>
          simp only [if_neg hsome] at h
          exact h
        | cons c more =>
          simp only [ite_apply, bind_apply, set_apply, andThen_ok, if_neg hsome] at h
          split at h
          · exact h
          · next hc =>
            rw [List.dropWhile_cons_of_neg hc]
            exact h
      rw [List.cons_append] at hdrop ⊢
      rw [skipDigits_of_isDigit (hds d List.mem_cons_self), hdrop]
      exact numeralEnd_passes hend

/-! ### Whole numerals -/

/-- The end of a numeral, after its first digits, of which so many are not collected. -/
def numeralRest (negative : Bool) (n dropped : Nat) : Step Numeral := fun
  | '.' :: rest => fractionPart negative n dropped rest
  | rest =>
    if dropped = 0 ∧ rest.head? ≠ some 'e' ∧ rest.head? ≠ some 'E' then
      .ok (wholeNumeral negative n, rest)
    else numeralEnd negative n dropped rest

theorem numeral_cons {c : Char} {cs : List Char} (hc : c.isDigit = true)
    (hzero : ¬(c = '0' ∧ (cs.head?.map Char.isDigit).getD false = true)) (negative : Bool) :
    numeral negative (c :: cs) =
      numeralRest negative (collect 0 0 (c :: cs)).1
        ((collect 0 0 (c :: cs)).2.2.takeWhile Char.isDigit).length
        ((collect 0 0 (c :: cs)).2.2.dropWhile Char.isDigit) := by
  have hlead : ¬(decide (c = '0') && (cs.head?.map Char.isDigit).getD false) = true := by
    rwa [Bool.and_eq_true, decide_eq_true_eq]
  simp only [numeral, bind_apply, get_apply, andThen_ok, ite_apply, hc, Bool.not_true, Bool.false_eq_true,
    if_false, if_neg hlead]
  unfold numeralRest
  generalize (collect 0 0 (c :: cs)).2.2.dropWhile Char.isDigit = rest
  by_cases hpoint : rest.head? = some '.'
  · cases rest with
    | nil => cases hpoint
    | cons d rest =>
      obtain rfl := Option.some.inj hpoint
      rfl
  · cases rest with
    | nil => simp [List.length_eq_zero_iff]
    | cons d rest =>
      have hd : d ≠ '.' := by simpa using hpoint
      simp [List.length_eq_zero_iff, hd, and_assoc]

theorem numeral_eq_error {c : Char} {cs : List Char}
    (h : ¬c.isDigit = true ∨ c = '0' ∧ (cs.head?.map Char.isDigit).getD false = true) (negative : Bool) :
    (numeral negative (c :: cs)).toOption = none := by
  simp only [numeral, bind_apply, get_apply, andThen_ok, ite_apply]
  rcases h with h | ⟨rfl, h⟩
  · simp [h]
  · rw [if_neg (by decide), if_pos (by simp [h])]
    rfl

theorem numeralRest_of_ne {cs : List Char} (h : cs.head? ≠ some '.') (negative : Bool) (n dropped : Nat) :
    numeralRest negative n dropped cs =
      if dropped = 0 ∧ cs.head? ≠ some 'e' ∧ cs.head? ≠ some 'E' then
        .ok (wholeNumeral negative n, cs)
      else numeralEnd negative n dropped cs := by
  unfold numeralRest
  split
  · exact absurd rfl h
  · rfl

theorem numeralRest_append {rest : List Char} (hrest : Stops rest) (negative : Bool) (n dropped : Nat)
    (cs : List Char) :
    (numeralRest negative n dropped (cs ++ rest)).toOption =
      keep rest (numeralRest negative n dropped cs).toOption := by
  by_cases hpoint : cs.head? = some '.'
  · cases cs with
    | nil => cases hpoint
    | cons d cs =>
      obtain rfl := Option.some.inj hpoint
      exact fractionPart_append hrest negative n dropped cs
  · have hmore : (cs ++ rest).head? ≠ some '.' := fun h =>
      hpoint ((head?_append_stops hrest (.inl rfl) cs).mp h)
    rw [numeralRest_of_ne hpoint, numeralRest_of_ne hmore]
    simp only [ne_eq, head?_append_stops hrest (c := 'e') (by simp),
      head?_append_stops hrest (c := 'E') (by simp)]
    split
    · rfl
    · exact numeralEnd_append hrest _ _ _ _

theorem numeralRest_passes {negative : Bool} {n dropped : Nat} {cs rest : List Char} {x : Numeral}
    (h : numeralRest negative n dropped cs = .ok (x, rest)) : skipEnd cs = .ok ((), rest) := by
  unfold numeralRest at h
  split at h
  · exact fractionPart_passes h
  · next hpoint =>
    unfold skipEnd
    split
    · exact absurd rfl (hpoint _)
    split at h
    · next hl =>
      obtain ⟨-, rfl⟩ := Prod.mk.inj (Except.ok.inj h)
      exact skipExponent_of_ne hl.2.1 hl.2.2
    · exact numeralEnd_passes h

theorem numeral_passes {negative : Bool} {cs rest : List Char} {x : Numeral}
    (h : numeral negative cs = .ok (x, rest)) : skipNumeral cs = .ok ((), rest) := by
  cases cs with
  | nil => cases h
  | cons c cs =>
    by_cases hbad : ¬c.isDigit = true ∨ c = '0' ∧ (cs.head?.map Char.isDigit).getD false = true
    · have hnone := numeral_eq_error hbad negative
      rw [h] at hnone
      cases hnone
    rw [not_or, not_not] at hbad
    obtain ⟨hc, hzero⟩ := hbad
    rw [numeral_cons hc hzero] at h
    have hend := numeralRest_passes h
    rw [← dropWhile_of_collect rfl] at hend
    rw [skipNumeral_eq]
    split
    · next hcons =>
      obtain ⟨rfl, rfl⟩ := List.cons.inj hcons
      have hnone : ¬(cs.head?.map Char.isDigit).getD false = true := fun h => hzero ⟨rfl, h⟩
      have hdrop : ('0' :: cs).dropWhile Char.isDigit = cs := by
        rw [List.dropWhile_cons_of_pos rfl]
        cases cs with
        | nil => rfl
        | cons d cs => exact List.dropWhile_cons_of_neg (by simpa using hnone)
      rw [if_neg hnone, ← hdrop]
      exact hend
    · rw [skipDigits_of_isDigit hc]
      exact hend

theorem numeral_append {rest : List Char} (hrest : Stops rest) (negative : Bool) (cs : List Char) :
    (numeral negative (cs ++ rest)).toOption = keep rest (numeral negative cs).toOption := by
  have hhead : ∀ cs : List Char, ((cs ++ rest).head?.map Char.isDigit).getD false =
      (cs.head?.map Char.isDigit).getD false := by
    intro cs
    cases cs with
    | nil =>
      cases rest with
      | nil => rfl
      | cons c rest => exact hrest.noDigit c rfl
    | cons c cs => rfl
  cases cs with
  | nil =>
    cases rest with
    | nil => rfl
    | cons c rest => exact numeral_eq_error (.inl (by simp [hrest.noDigit c rfl])) negative
  | cons c cs =>
    by_cases hbad : ¬c.isDigit = true ∨ c = '0' ∧ (cs.head?.map Char.isDigit).getD false = true
    · rw [numeral_eq_error hbad, List.cons_append, numeral_eq_error (by rwa [hhead])]
      rfl
    rw [not_or, not_not] at hbad
    obtain ⟨hc, hzero⟩ := hbad
    have hcollect := collect_append hrest 0 0 (c :: cs)
    rw [List.cons_append] at hcollect ⊢
    rw [numeral_cons hc hzero, numeral_cons hc (by rwa [hhead]), hcollect]
    simp only [takeWhile_append_stops hrest, dropWhile_append_stops hrest]
    exact numeralRest_append hrest _ _ _ _

/-! ### Numbers with a sign -/

/-- The number that a text stands for, if it is in range. -/
def numeralOf : List Char → Option Numeral
  | [] => none
  | c :: cs => (signedNumeral c (c :: cs)).toOption.map Prod.fst

/-- Behind a number without a sign, nothing of it is left. -/
theorem Unsigned.numeral {t rest : List Char} (h : Unsigned t) (hrest : Stops rest) (negative : Bool) :
    (Json.numeral negative (t ++ rest)).toOption =
      (Json.numeral negative t).toOption.map fun p => (p.1, rest) := by
  rw [numeral_append hrest]
  cases hread : Json.numeral negative t with
  | error fault => rfl
  | ok p =>
    obtain ⟨x, left⟩ := p
    have hnil : Stops [] := by rintro c ⟨⟩
    have hskip := h.skip hnil
    rw [List.append_nil, numeral_passes hread, Except.ok.injEq, Prod.mk.injEq] at hskip
    rw [hskip.2]
    rfl

theorem Number.read {t rest : List Char} (h : Number t) (hrest : Stops rest) :
    ∃ c cs, t = c :: cs ∧ (c = '-' ∨ c.isDigit = true) ∧
      (signedNumeral c (t ++ rest)).toOption = (numeralOf t).map fun x => (x, rest) := by
  cases h with
  | plain h =>
    have hnumeral := h.numeral hrest false
    obtain ⟨c, cs, rfl, hc⟩ := h.exists_digit
    have hminus : c ≠ '-' := Decimal.ne_of_isDigit hc rfl
    refine ⟨c, cs, rfl, .inr hc, ?_⟩
    rw [numeralOf, signedNumeral, if_neg hminus, hnumeral, Option.map_map]
    rfl
  | @minus t h =>
    refine ⟨'-', t, rfl, .inl rfl, ?_⟩
    rw [numeralOf, signedNumeral, if_pos rfl, bind_apply, bind_apply, List.cons_append, advance_cons,
      advance_cons, andThen_ok, andThen_ok, h.numeral hrest true, Option.map_map]
    rfl

theorem exists_of_signedNumeral {c : Char} {cs rest : List Char} {x : Numeral}
    (h : signedNumeral c (c :: cs) = .ok (x, rest)) : ∃ t, Number t ∧ c :: cs = t ++ rest := by
  unfold signedNumeral at h
  split at h
  · next hminus =>
    obtain ⟨t, ht, rfl⟩ := exists_of_skipNumeral (numeral_passes h)
    exact ⟨'-' :: t, .minus ht, by rw [hminus]; rfl⟩
  · obtain ⟨t, ht, hcs⟩ := exists_of_skipNumeral (numeral_passes h)
    exact ⟨t, .plain ht, hcs⟩

end ScopedQuery.Json
