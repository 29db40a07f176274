import Mathlib.Data.List.Find
import Mathlib.Data.List.TakeWhile
import ScopedQuery.Proofs.Sql.Squeezed.Delimited
/-!
# Squeezed words and numbers

* `wordFrom_kept`: a word is kept just if there is no blank in it.
* `operator?_kept`: operators are read again as they are.
* `startingWithDigit_kept`: so are numbers, and words that start with digits are kept as others are.
-/

namespace ScopedQuery.Sql.Token

open Text (isBlank squeeze Tight)

/-! ### Runs of characters -/

/-- Of ASCII only the Latin letters are letters. -/
theorem startsWord_of_ascii {c : Char} (h : c.toNat < 128) :
    startsWord c = (c = '_' || c = '$' || c = '@' || c.isAlpha) := by
  have hranges : ∀ r ∈ Text.alphabeticRanges, 128 ≤ r.1 := by decide +kernel
  have hletter : Text.inRanges Text.alphabeticRanges c.toNat = false := by
    rw [Text.inRanges, List.any_eq_false]
    intro r hr
    have hlow := hranges r hr
    simp only [Bool.and_eq_true, decide_eq_true_eq]
    omega
  have hother : Text.inRanges [(0x80, 0xFFFF)] c.toNat = false := by
    simp only [Text.inRanges, List.any_cons, List.any_nil, Bool.or_false, Bool.and_eq_false_iff,
      decide_eq_false_iff_not]
    omega
  rw [startsWord, Text.isAlphabetic, hletter, hother, Bool.or_false, Bool.or_false]

theorem startsWord_space : startsWord ' ' = false := by
  rw [startsWord_of_ascii (by decide)]
  rfl

theorem continuesWord_space : continuesWord ' ' = false := by
  rw [continuesWord, startsWord_space]
  rfl

theorem filled_of_run {f : Char → Bool} (hf : ∀ c, f c = true → isBlank c = false)
    (cs : List Char) : ∀ c ∈ cs.takeWhile f, isBlank c = false := by
  intro c hc
  have hall := List.all_takeWhile (p := f) (l := cs)
  rw [List.all_eq_true] at hall
  exact hf c (hall c hc)

/-- A run of characters none of which is a blank is the same after squeezing. -/
theorem takeWhile_squeeze_eq {f : Char → Bool} (hf : ∀ c, f c = true → isBlank c = false)
    (cs : List Char) : (squeeze false cs).takeWhile f = cs.takeWhile f := by
  have hspace : f ' ' = false := by
    by_contra h
    rw [Bool.not_eq_false] at h
    exact absurd (hf ' ' h) (by decide)
  rw [Text.takeWhile_squeeze hspace]
  exact List.takeWhile_eq_self_iff.mpr fun c hc => by simp [filled_of_run hf cs c hc]

theorem dropWhile_squeeze_eq {f : Char → Bool} (hf : ∀ c, f c = true → isBlank c = false)
    (cs : List Char) : (squeeze false cs).dropWhile f = squeeze false (cs.dropWhile f) := by
  have hspace : f ' ' = false := by
    by_contra h
    rw [Bool.not_eq_false] at h
    exact absurd (hf ' ' h) (by decide)
  exact Text.dropWhile_squeeze hspace (filled_of_run hf cs)

theorem isBlank_of_isHexDigit {c : Char} (h : isHexDigit c = true) : isBlank c = false := by
  simp only [isHexDigit, Bool.or_eq_true, Bool.and_eq_true, decide_eq_true_eq] at h
  rcases h with (hdigit | ⟨hlow, hhigh⟩) | ⟨hlow, hhigh⟩
  · exact Text.isBlank_of_isDigit hdigit
  · exact Text.isBlank_eq_false ⟨Nat.le_trans (by decide) hlow, Nat.le_trans hhigh (by decide)⟩
  · exact Text.isBlank_eq_false ⟨Nat.le_trans (by decide) hlow, Nat.le_trans hhigh (by decide)⟩

theorem ofWord_inj {s t : String} (h : ofWord s = ofWord t) : s = t := by
  simp only [ofWord, Token.word.injEq] at h
  exact h.1

theorem ofList_append_inj {ds cs cs' : List Char}
    (h : String.ofList (ds ++ cs) = String.ofList (ds ++ cs')) : cs = cs' := by
  have hlist := congrArg String.toList h
  rw [String.toList_ofList, String.toList_ofList] at hlist
  exact List.append_cancel_left hlist

/-- The characters of a word that are blanks are none that squeezing leaves. -/
theorem filled_of_tight {start cs : List Char}
    (h : Tight (start ++ cs.takeWhile continuesWord)) :
    ∀ c ∈ cs.takeWhile continuesWord, isBlank c = false := by
  intro c hc
  by_contra hb
  rw [Bool.not_eq_false] at hb
  have hspace := h.eq_space (List.mem_append_right start hc) hb
  have hall := List.all_takeWhile (p := continuesWord) (l := cs)
  rw [List.all_eq_true] at hall
  have hword := hall c hc
  rw [hspace, continuesWord_space] at hword
  cases hword

theorem wordFrom_split (start cs : List Char) :
    start ++ cs = start ++ cs.takeWhile continuesWord ++ (wordFrom start cs).2 := by
  rw [List.append_assoc, wordFrom, List.takeWhile_append_dropWhile]

/-- A word is kept just if there is no blank in it. -/
theorem wordFrom_kept (start : List Char) (hstart : ∀ c ∈ start, isBlank c = false)
    (cs : List Char) :
    Kept (start ++ cs) (wordFrom start cs).2 (wordFrom start cs).1
      (some (some (wordFrom start (squeeze false cs)).1, (wordFrom start (squeeze false cs)).2)) := by
  refine ⟨_, wordFrom_split start cs, fun htight => ?_, fun token rest' hread => ?_⟩
  · have hfilled := filled_of_tight htight
    simp only [wordFrom]
    rw [Text.takeWhile_squeeze continuesWord_space,
      List.takeWhile_eq_self_iff.mpr fun c hc => by simp [hfilled c hc],
      Text.dropWhile_squeeze continuesWord_space hfilled]
  · obtain ⟨rfl, -⟩ := Prod.mk.inj (Option.some.inj hread)
    refine ⟨_, rfl, fun heq => ?_⟩
    have hsame := ofList_append_inj (ofWord_inj heq)
    rw [Text.takeWhile_squeeze continuesWord_space] at hsame
    have hfilled := Text.filled_of_takeWhile_eq hsame
    exact Text.tight_of_filled (List.forall_mem_append.mpr ⟨hstart, hfilled⟩)

/-! ### Operators -/

theorem isPrefixOf_squeeze {p : List Char} (hp : ∀ c ∈ p, isBlank c = false) (cs : List Char) :
    p.isPrefixOf (squeeze false cs) = p.isPrefixOf cs := by
  induction p generalizing cs with
  | nil => simp
  | cons d p ih =>
    have hd : isBlank d = false := hp d (by simp)
    cases cs with
    | nil => rfl
    | cons c cs =>
      by_cases hc : isBlank c = true
      · have hne : d ≠ c := by
          rintro rfl
          rw [hd] at hc; cases hc
        have hspace : d ≠ ' ' := by
          rintro rfl
          exact absurd hd (by decide)
        rw [Text.squeeze_blank hc, List.isPrefixOf_cons_cons, beq_false_of_ne hne, Bool.false_and]
        rcases Text.squeeze_true_cases cs with hnil | ⟨ds, hds⟩
        · rw [hnil]; rfl
        · rw [hds, List.isPrefixOf_cons_cons, beq_false_of_ne hspace, Bool.false_and]
      · rw [Bool.not_eq_true] at hc
        rw [Text.squeeze_filled hc, List.isPrefixOf_cons_cons, List.isPrefixOf_cons_cons,
          ih fun x hx => hp x (by simp [hx])]

theorem filled_of_mem_operators : ∀ o ∈ operators, ∀ c ∈ o.toList, isBlank c = false := by
  have hall : (operators.all fun o => o.toList.all fun c => !isBlank c) = true := by decide
  simpa only [List.all_eq_true, Bool.not_eq_true'] using hall

/-- The same operators come first before and after squeezing. -/
theorem find?_operators_squeeze (cs : List Char) :
    (operators.find? fun o => o.toList.isPrefixOf (squeeze false cs)) =
      operators.find? fun o => o.toList.isPrefixOf cs :=
  List.find?_congr fun o ho => isPrefixOf_squeeze (filled_of_mem_operators o ho) cs

theorem operator?_kept {cs : List Char} {read : Token × List Char} (h : operator? cs = some read) :
    ∃ piece, cs = piece ++ read.2 ∧ (∀ c ∈ piece, isBlank c = false) ∧
      operator? (squeeze false cs) = some (read.1, squeeze false read.2) := by
  obtain ⟨o, ho, rfl⟩ := Option.map_eq_some_iff.mp h
  have hfilled := filled_of_mem_operators o (List.mem_of_find?_eq_some ho)
  have hstarts := List.find?_some (p := fun o : String => o.toList.isPrefixOf cs) ho
  obtain ⟨rest, rfl⟩ := List.isPrefixOf_iff_prefix.mp hstarts
  have hdrop : ∀ ds : List Char, (o.toList ++ ds).drop o.length = ds := fun ds => by
    rw [← String.length_toList, List.drop_left]
  refine ⟨o.toList, by simp only [hdrop], hfilled, ?_⟩
  rw [operator?, find?_operators_squeeze, ho, Option.map_some,
    Text.squeeze_append_of_filled hfilled]
  simp only [hdrop]

theorem operator?_squeeze_eq_none {cs : List Char} (h : operator? cs = none) :
    operator? (squeeze false cs) = none := by
  rw [operator?, Option.map_eq_none_iff] at h ⊢
  rw [find?_operators_squeeze, h]

/-! ### Numbers -/

theorem tail_squeeze {cs : List Char} {d : Char} (h : cs.head? = some d) (hd : isBlank d = false) :
    (squeeze false cs).tail = squeeze false cs.tail := by
  cases cs with
  | nil => simp at h
  | cons c cs =>
    obtain rfl : c = d := by simpa using h
    rw [Text.squeeze_filled hd]
    rfl

theorem numberEnding_eq (digits cs : List Char) :
    numberEnding digits cs =
      if cs.head? = some 'L' then (.number (String.ofList digits) true, cs.tail)
      else (.number (String.ofList digits) false, cs) := by
  cases cs with
  | nil => rfl
  | cons c cs =>
    unfold numberEnding
    split
    · next h =>
      obtain ⟨rfl, rfl⟩ := List.cons.inj h
      rfl
    · next h =>
      have hc : c ≠ 'L' := fun hc => h cs (by rw [hc])
      simp [hc]

/-- A number ends in the same way after squeezing. -/
theorem numberEnding_kept (digits cs : List Char) :
    ∃ piece, cs = piece ++ (numberEnding digits cs).2 ∧ (∀ c ∈ piece, isBlank c = false) ∧
      numberEnding digits (squeeze false cs) =
        ((numberEnding digits cs).1, squeeze false (numberEnding digits cs).2) := by
  have hnext : (squeeze false cs).head? = some 'L' ↔ cs.head? = some 'L' :=
    Text.head?_squeeze_eq_some (by decide)
  rw [numberEnding_eq, numberEnding_eq]
  by_cases hL : cs.head? = some 'L'
  · rw [if_pos hL, if_pos (hnext.mpr hL), tail_squeeze hL (by decide)]
    obtain ⟨ds, rfl⟩ := List.head?_eq_some_iff.mp hL
    exact ⟨['L'], rfl, List.forall_mem_singleton.mpr (by decide), rfl⟩
  · rw [if_neg hL, if_neg (mt hnext.mp hL)]
    exact ⟨[], rfl, by simp, rfl⟩

theorem exponent?_of_ne {c : Char} (he : c ≠ 'e') (hE : c ≠ 'E') (cs : List Char) :
    exponent? (c :: cs) = none := by
  rw [exponent?.eq_def]
  simp [he, hE]

theorem exponent?_blank {c : Char} (h : isBlank c = true) (cs : List Char) :
    exponent? (c :: cs) = none :=
  exponent?_of_ne (Text.ne_of_isBlank h (by decide)) (Text.ne_of_isBlank h (by decide)) cs

/-- A blank is neither a sign nor a digit. -/
theorem exponent?_before_blank (c : Char) {d : Char} (h : isBlank d = true) (cs : List Char) :
    exponent? (c :: d :: cs) = none := by
  have hplus : d ≠ '+' := Text.ne_of_isBlank h (by decide)
  have hminus : d ≠ '-' := Text.ne_of_isBlank h (by decide)
  rw [exponent?.eq_def]
  simp [hplus, hminus, Text.isDigit_of_isBlank h]

/-- The same exponent follows after squeezing. -/
theorem exponent?_squeeze (cs : List Char) :
    exponent? (squeeze false cs) = (exponent? cs).map fun r => (r.1, squeeze false r.2) := by
  have hdigit : ∀ c : Char, c.isDigit = true → isBlank c = false := fun c => Text.isBlank_of_isDigit
  rcases cs with _ | ⟨c, cs⟩
  · rfl
  by_cases hc : c = 'e' ∨ c = 'E'
  · have hcb : isBlank c = false := by rcases hc with rfl | rfl <;> decide
    rw [Text.squeeze_filled hcb]
    rcases cs with _ | ⟨d, ds⟩
    · rcases hc with rfl | rfl <;> rfl
    by_cases hd : isBlank d = true
    · rw [Text.squeeze_blank hd, exponent?_before_blank c hd]
      rcases Text.squeeze_true_cases ds with hnil | ⟨rest, hrest⟩
      · rw [hnil]
        rcases hc with rfl | rfl <;> rfl
      · rw [hrest, exponent?_before_blank c (by decide)]
        rfl
    · rw [Bool.not_eq_true] at hd
      have hwhole : squeeze false (d :: ds) = d :: squeeze false ds := Text.squeeze_filled hd
      have hif : (c = 'e' || c = 'E') = true := by simpa using hc
      rw [exponent?.eq_def, exponent?.eq_def]
      simp only [hwhole, takeWhile_squeeze_eq hdigit, dropWhile_squeeze_eq hdigit]
      rw [← hwhole, takeWhile_squeeze_eq hdigit, dropWhile_squeeze_eq hdigit]
      simp only [hif, if_true]
      split
      · split <;> rfl
      · split <;> rfl
  · rw [not_or] at hc
    rw [exponent?_of_ne hc.1 hc.2, Option.map_none]
    by_cases hb : isBlank c = true
    · rw [Text.squeeze_blank hb]
      rcases Text.squeeze_true_cases cs with hnil | ⟨rest, hrest⟩
      · rw [hnil]
        rfl
      · rw [hrest, exponent?_blank (by decide)]
    · rw [Bool.not_eq_true] at hb
      rw [Text.squeeze_filled hb, exponent?_of_ne hc.1 hc.2]

/-- An exponent has no blanks in it. -/
theorem exponent?_eq_some {cs e rest : List Char} (h : exponent? cs = some (e, rest)) :
    cs = e ++ rest ∧ ∀ c ∈ e, isBlank c = false := by
  have hrun : ∀ ds : List Char, ∀ x ∈ ds.takeWhile Char.isDigit, isBlank x = false :=
    filled_of_run fun c => Text.isBlank_of_isDigit
  cases cs with
  | nil => simp [exponent?] at h
  | cons c cs =>
    rw [exponent?.eq_def] at h
    simp only at h
    split at h
    · next hc =>
      have hcb : isBlank c = false := by
        simp only [Bool.or_eq_true, decide_eq_true_eq] at hc
        rcases hc with rfl | rfl <;> decide
      cases cs with
      | nil => simp at h
      | cons d ds =>
        simp only at h
        split at h
        · next hd =>
          have hdb : isBlank d = false := by
            simp only [Bool.or_eq_true, decide_eq_true_eq] at hd
            rcases hd with rfl | rfl <;> decide
          split at h
          · simp at h
          · obtain ⟨rfl, rfl⟩ := Prod.mk.inj (Option.some.inj h)
            exact ⟨by simp, List.forall_mem_cons.mpr ⟨hcb, List.forall_mem_cons.mpr ⟨hdb, hrun ds⟩⟩⟩
        · split at h
          · obtain ⟨rfl, rfl⟩ := Prod.mk.inj (Option.some.inj h)
            exact ⟨by rw [List.cons_append, List.takeWhile_append_dropWhile],
              List.forall_mem_cons.mpr ⟨hcb, hrun _⟩⟩
          · simp at h
    · simp at h

section

variable {digits : List Char} (hpoint : digits ≠ ['.']) {cs : List Char}

include hpoint

theorem afterDigits_exponent {e rest : List Char} (h : exponent? cs = some (e, rest)) :
    afterDigits digits cs = numberEnding (digits ++ e) rest := by
  simp [afterDigits, hpoint, h]

theorem afterDigits_number (h : exponent? cs = none)
    (hends : startsWithAny ['e', 'E'] cs = true ∨ cs.takeWhile continuesWord = []) :
    afterDigits digits cs = numberEnding digits cs := by
  rcases hends with hends | hends
  · simp [afterDigits, hpoint, h, hends]
  · simp [afterDigits, hpoint, h, hends]

theorem afterDigits_word (h : exponent? cs = none)
    (he : startsWithAny ['e', 'E'] cs = false) (hword : cs.takeWhile continuesWord ≠ []) :
    afterDigits digits cs = wordFrom digits cs := by
  simp only [afterDigits, hpoint, h, he, if_false, Bool.false_eq_true]
  rfl

end

/-- A number is no word. -/
theorem numberEnding_ne_ofWord (digits cs : List Char) (word : String) :
    (numberEnding digits cs).1 ≠ ofWord word := by
  rw [numberEnding_eq]
  split <;> simp [ofWord]

theorem startsWithAny_squeeze (cs : List Char) :
    startsWithAny ['e', 'E'] (squeeze false cs) = startsWithAny ['e', 'E'] cs := by
  have hhead : ∀ ds, startsWithAny ['e', 'E'] ds = true ↔
      ds.head? = some 'e' ∨ ds.head? = some 'E' := by
    intro ds
    cases ds <;> simp [startsWithAny]
  rw [Bool.eq_iff_iff, hhead, hhead, Text.head?_squeeze_eq_some (by decide),
    Text.head?_squeeze_eq_some (by decide)]

/-- A number, or a word that starts with digits, is kept just if there is no blank in it. -/
theorem afterDigits_kept (digits : List Char) (hdigits : ∀ c ∈ digits, isBlank c = false)
    (cs : List Char) :
    Kept (digits ++ cs) (afterDigits digits cs).2 (afterDigits digits cs).1
      (some (some (afterDigits digits (squeeze false cs)).1,
        (afterDigits digits (squeeze false cs)).2)) := by
  have hnumber : ∀ e rest : List Char, cs = e ++ rest → (∀ c ∈ e, isBlank c = false) →
      Kept (digits ++ cs) (numberEnding (digits ++ e) rest).2 (numberEnding (digits ++ e) rest).1
        (some (some (numberEnding (digits ++ e) (squeeze false rest)).1,
          (numberEnding (digits ++ e) (squeeze false rest)).2)) := by
    intro e rest hcs he
    obtain ⟨piece, hpiece, hfilled, hkept⟩ := numberEnding_kept (digits ++ e) rest
    refine Kept.of_filled (digits ++ e ++ piece) ?_ ?_ hkept
    · rw [hcs, List.append_assoc, List.append_assoc, ← hpiece]
    · rw [List.forall_mem_append, List.forall_mem_append]
      exact ⟨⟨hdigits, he⟩, hfilled⟩
  have hplain := hnumber [] cs rfl (by simp)
  rw [List.append_nil] at hplain
  by_cases hpoint : digits = ['.']
  · subst hpoint
    exact Kept.of_filled ['.'] rfl hdigits rfl
  · have hexponent := exponent?_squeeze cs
    cases he : exponent? cs with
    | some r =>
      obtain ⟨e, rest⟩ := r
      obtain ⟨hcs, hfilled⟩ := exponent?_eq_some he
      rw [he] at hexponent
      rw [afterDigits_exponent hpoint he, afterDigits_exponent hpoint hexponent]
      exact hnumber e rest hcs hfilled
    | none =>
      rw [he] at hexponent
      have hrun := Text.takeWhile_squeeze continuesWord_space cs
      by_cases hE : startsWithAny ['e', 'E'] cs = true
      · rw [afterDigits_number hpoint he (.inl hE),
          afterDigits_number hpoint hexponent (.inl (by rw [startsWithAny_squeeze, hE]))]
        exact hplain
      · by_cases hword : cs.takeWhile continuesWord = []
        · rw [afterDigits_number hpoint he (.inr hword),
            afterDigits_number hpoint hexponent (.inr (by rw [hrun, hword]; rfl))]
          exact hplain
        · rw [Bool.not_eq_true] at hE
          rw [afterDigits_word hpoint he hE hword]
          by_cases hshort : (squeeze false cs).takeWhile continuesWord = []
          · -- the word begins with a blank, without which only the digits are left
            rw [afterDigits_number hpoint hexponent (.inr hshort)]
            refine Kept.of_loose _ (wordFrom_split digits cs) (fun htight => hword ?_)
              (numberEnding_ne_ofWord _ _ _)
            have hfilled := filled_of_tight htight
            rwa [hrun, List.takeWhile_eq_self_iff.mpr fun c hc => by simp [hfilled c hc]] at hshort
          · rw [afterDigits_word hpoint hexponent (by rw [startsWithAny_squeeze, hE]) hshort]
            exact wordFrom_kept digits hdigits cs

theorem startingWithDigit_hex {cs rest : List Char} (hzero : cs.takeWhile Char.isDigit = ['0'])
    (hx : cs.dropWhile Char.isDigit = 'x' :: rest) :
    startingWithDigit cs =
      (.quotation .hex (String.ofList (rest.takeWhile isHexDigit)), rest.dropWhile isHexDigit) := by
  simp [startingWithDigit, hzero, hx]

theorem startingWithDigit_point {cs rest : List Char}
    (hp : cs.dropWhile Char.isDigit = '.' :: rest) :
    startingWithDigit cs =
      afterDigits (cs.takeWhile Char.isDigit ++ '.' :: rest.takeWhile Char.isDigit)
        (rest.dropWhile Char.isDigit) := by
  simp [startingWithDigit, hp]

theorem startingWithDigit_plain {cs : List Char}
    (hx : cs.takeWhile Char.isDigit = ['0'] → (cs.dropWhile Char.isDigit).head? ≠ some 'x')
    (hp : (cs.dropWhile Char.isDigit).head? ≠ some '.') :
    startingWithDigit cs =
      afterDigits (cs.takeWhile Char.isDigit) (cs.dropWhile Char.isDigit) := by
  unfold startingWithDigit
  simp only
  split
  · next hzero heq => exact absurd (by rw [heq]; rfl) (hx hzero)
  · next heq => exact absurd (by rw [heq]; rfl) hp
  · rfl

theorem filled_of_digits (cs : List Char) : ∀ c ∈ cs.takeWhile Char.isDigit, isBlank c = false :=
  filled_of_run (fun _ => Text.isBlank_of_isDigit) cs

theorem takeWhile_isDigit_squeeze (cs : List Char) :
    (squeeze false cs).takeWhile Char.isDigit = cs.takeWhile Char.isDigit :=
  takeWhile_squeeze_eq (fun _ => Text.isBlank_of_isDigit) cs

theorem dropWhile_isDigit_squeeze (cs : List Char) :
    (squeeze false cs).dropWhile Char.isDigit = squeeze false (cs.dropWhile Char.isDigit) :=
  dropWhile_squeeze_eq (fun _ => Text.isBlank_of_isDigit) cs

/-- Digits, a point and digits. -/
theorem startingWithDigit_kept_of_point {cs rest : List Char}
    (hrest : cs.dropWhile Char.isDigit = '.' :: rest) :
    Kept cs (startingWithDigit cs).2 (startingWithDigit cs).1
      (some (some (startingWithDigit (squeeze false cs)).1,
        (startingWithDigit (squeeze false cs)).2)) := by
  have hrest' : (squeeze false cs).dropWhile Char.isDigit = '.' :: squeeze false rest := by
    rw [dropWhile_isDigit_squeeze, hrest, Text.squeeze_filled (by decide)]
  have hdecimals : ∀ c ∈ cs.takeWhile Char.isDigit ++ '.' :: rest.takeWhile Char.isDigit,
      isBlank c = false := by
    rw [List.forall_mem_append, List.forall_mem_cons]
    exact ⟨filled_of_digits cs, by decide, filled_of_digits rest⟩
  have hkept := afterDigits_kept _ hdecimals (rest.dropWhile Char.isDigit)
  rw [List.append_assoc, List.cons_append, List.takeWhile_append_dropWhile, ← hrest,
    List.takeWhile_append_dropWhile] at hkept
  rw [startingWithDigit_point hrest, startingWithDigit_point hrest', takeWhile_isDigit_squeeze,
    takeWhile_isDigit_squeeze, dropWhile_isDigit_squeeze]
  exact hkept

/-- The digits of a hexadecimal text. -/
theorem startingWithDigit_kept_of_hex {cs rest : List Char} (hzero : cs.takeWhile Char.isDigit = ['0'])
    (hrest : cs.dropWhile Char.isDigit = 'x' :: rest) :
    Kept cs (startingWithDigit cs).2 (startingWithDigit cs).1
      (some (some (startingWithDigit (squeeze false cs)).1,
        (startingWithDigit (squeeze false cs)).2)) := by
  have hzero' := (takeWhile_isDigit_squeeze cs).trans hzero
  have hrest' : (squeeze false cs).dropWhile Char.isDigit = 'x' :: squeeze false rest := by
    rw [dropWhile_isDigit_squeeze, hrest, Text.squeeze_filled (by decide)]
  have hhex : ∀ c : Char, isHexDigit c = true → isBlank c = false := fun _ => isBlank_of_isHexDigit
  have hcs := List.takeWhile_append_dropWhile (p := Char.isDigit) (l := cs)
  rw [startingWithDigit_hex hzero hrest, startingWithDigit_hex hzero' hrest', takeWhile_squeeze_eq hhex,
    dropWhile_squeeze_eq hhex]
  refine Kept.of_filled ('0' :: 'x' :: rest.takeWhile isHexDigit) ?_ ?_ rfl
  · rw [List.cons_append, List.cons_append, List.takeWhile_append_dropWhile, ← hrest, ← hcs, hzero, hrest]
    rfl
  · rw [List.forall_mem_cons, List.forall_mem_cons]
    exact ⟨by decide, by decide, filled_of_run hhex rest⟩

theorem startingWithDigit_kept (cs : List Char) :
    Kept cs (startingWithDigit cs).2 (startingWithDigit cs).1
      (some (some (startingWithDigit (squeeze false cs)).1,
        (startingWithDigit (squeeze false cs)).2)) := by
  by_cases hp : (cs.dropWhile Char.isDigit).head? = some '.'
  · obtain ⟨rest, hrest⟩ := List.head?_eq_some_iff.mp hp
    exact startingWithDigit_kept_of_point hrest
  by_cases hx : cs.takeWhile Char.isDigit = ['0'] ∧ (cs.dropWhile Char.isDigit).head? = some 'x'
  · obtain ⟨rest, hrest⟩ := List.head?_eq_some_iff.mp hx.2
    exact startingWithDigit_kept_of_hex hx.1 hrest
  -- neither a point nor an `x` follows the digits, before as after
  have hplain : cs.takeWhile Char.isDigit = ['0'] → (cs.dropWhile Char.isDigit).head? ≠ some 'x' :=
    fun hzero h => hx ⟨hzero, h⟩
  rw [startingWithDigit_plain hplain hp, startingWithDigit_plain ?_ ?_, takeWhile_isDigit_squeeze,
    dropWhile_isDigit_squeeze]
  · have hkept := afterDigits_kept _ (filled_of_digits cs) (cs.dropWhile Char.isDigit)
    rwa [List.takeWhile_append_dropWhile] at hkept
  · rw [takeWhile_isDigit_squeeze, dropWhile_isDigit_squeeze, ne_eq,
      Text.head?_squeeze_eq_some (by decide)]
    exact hplain
  · rw [dropWhile_isDigit_squeeze, ne_eq, Text.head?_squeeze_eq_some (by decide)]
    exact hp

end ScopedQuery.Sql.Token
