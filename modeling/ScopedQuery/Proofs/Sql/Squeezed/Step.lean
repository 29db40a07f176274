import ScopedQuery.Proofs.Sql.Squeezed.Number
/-!
# Squeezed lexemes

* `step_kept`: whatever token starts with a character that is no blank is kept just if its own
  characters are tight.
* `afterComment_squeeze`: a bracketed comment ends where it did, but a comment to the end of its line
  never ends (`afterLine_squeeze`).
* `step_blank`: a blank of ASCII is skipped, and any other one starts a word.
* `mem_of_mem_tokens`: the characters of an unquoted word occur in the text.
-/

namespace ScopedQuery.Sql.Token

open Text (isBlank squeeze Tight)

/-! ### Words with `@` -/

/-- What follows one or two marks: a word, unless a space or the end comes next. -/
def afterAt (marks : List Char) : List Char → Token × List Char
  | [] => (.symbol (String.ofList marks), [])
  | c :: cs =>
    if c = ' ' then (.symbol (String.ofList marks), c :: cs) else wordFrom (marks ++ [c]) cs

theorem startingWithAt_eq (cs : List Char) :
    startingWithAt cs =
      if cs.head? = some '@' then afterAt ['@', '@'] cs.tail else afterAt ['@'] cs := by
  unfold startingWithAt
  split
  · rfl
  · rfl
  · rfl
  · next c cs hnil hcons =>
    have hc : c ≠ '@' := by
      rintro rfl
      cases cs with
      | nil => exact hnil rfl rfl
      | cons d ds => exact hcons d ds rfl rfl
    simp [hc, afterAt]

theorem afterAt_kept (marks : List Char) (hmarks : ∀ c ∈ marks, isBlank c = false)
    (cs : List Char) :
    Kept (marks ++ cs) (afterAt marks cs).2 (afterAt marks cs).1
      (some (some (afterAt marks (squeeze false cs)).1, (afterAt marks (squeeze false cs)).2)) := by
  have hsymbol : ∀ ds : List Char, afterAt marks (squeeze true ds) =
      (.symbol (String.ofList marks), squeeze true ds) := by
    intro ds
    rcases Text.squeeze_true_cases ds with hnil | ⟨rest, hrest⟩
    · rw [hnil]; rfl
    · rw [hrest, afterAt, if_pos rfl]
  cases cs with
  | nil => exact Kept.of_filled marks rfl hmarks rfl
  | cons c cs =>
    by_cases hc : isBlank c = true
    · rw [Text.squeeze_blank hc, hsymbol]
      by_cases hspace : c = ' '
      · subst hspace
        refine Kept.of_filled marks ?_ hmarks ?_
        · rw [afterAt, if_pos rfl]
        · rw [afterAt, if_pos rfl, Text.squeeze_blank hc]
      · -- the blank is the first character of the word, and only the marks are left of it
        rw [afterAt, if_neg hspace]
        refine Kept.of_loose (marks ++ [c] ++ cs.takeWhile continuesWord) ?_ (fun htight => ?_) ?_
        · rw [← wordFrom_split, List.append_assoc, List.singleton_append]
        · exact absurd (htight.eq_space (by simp) hc) hspace
        · exact fun heq => by cases heq
    · rw [Bool.not_eq_true] at hc
      have hspace : c ≠ ' ' := by
        rintro rfl
        exact absurd hc (by decide)
      rw [Text.squeeze_filled hc, afterAt, afterAt, if_neg hspace, if_neg hspace]
      have hstart : ∀ d ∈ marks ++ [c], isBlank d = false :=
        List.forall_mem_append.mpr ⟨hmarks, List.forall_mem_singleton.mpr hc⟩
      have hkept := wordFrom_kept (marks ++ [c]) hstart cs
      rwa [List.append_assoc, List.singleton_append] at hkept

theorem startingWithAt_kept (cs : List Char) :
    Kept ('@' :: cs) (startingWithAt cs).2 (startingWithAt cs).1
      (some (some (startingWithAt (squeeze false cs)).1,
        (startingWithAt (squeeze false cs)).2)) := by
  have hnext : (squeeze false cs).head? = some '@' ↔ cs.head? = some '@' :=
    Text.head?_squeeze_eq_some (by decide)
  rw [startingWithAt_eq, startingWithAt_eq]
  by_cases hat : cs.head? = some '@'
  · rw [if_pos hat, if_pos (hnext.mpr hat), tail_squeeze hat (by decide)]
    have hfilled : ∀ c ∈ ['@', '@'], isBlank c = false :=
      List.forall_mem_cons.mpr ⟨by decide, List.forall_mem_singleton.mpr (by decide)⟩
    have hkept := afterAt_kept ['@', '@'] hfilled cs.tail
    obtain ⟨ds, rfl⟩ := List.head?_eq_some_iff.mp hat
    exact hkept
  · rw [if_neg hat, if_neg (mt hnext.mp hat)]
    exact afterAt_kept ['@'] (List.forall_mem_singleton.mpr (by decide)) cs

/-! ### Steps -/

theorem opening_squeeze (c : Char) (cs : List Char) :
    opening c (squeeze false cs).head? = opening c cs.head? := by
  have hblank : ∀ b : Char, isBlank b = true → opening c (some b) = opening c none := by
    intro b hb
    have hmarks : b ≠ '\'' ∧ b ≠ '-' ∧ b ≠ '*' :=
      ⟨Text.ne_of_isBlank hb (by decide), Text.ne_of_isBlank hb (by decide),
        Text.ne_of_isBlank hb (by decide)⟩
    unfold opening
    split <;> simp_all
  rcases Text.head?_squeeze cs with heq | ⟨⟨b, hb, hblankb⟩, hnone | hspace⟩
  · rw [heq]
  · rw [hnone, hb, hblank b hblankb]
  · rw [hspace, hb, hblank b hblankb, hblank ' ' (by decide)]

theorem plainStep_kept {c : Char} (hc : isBlank c = false) {cs rest : List Char} {t : Token}
    (h : plainStep c cs = (some t, rest)) :
    Kept (c :: cs) rest t (some (plainStep c (squeeze false cs))) := by
  have hwhole : c :: squeeze false cs = squeeze false (c :: cs) := (Text.squeeze_filled hc).symm
  unfold plainStep at h ⊢
  rw [hwhole]
  cases hop : operator? (c :: cs) with
  | some read =>
    rw [hop] at h
    obtain ⟨rfl, rfl⟩ : read.1 = t ∧ read.2 = rest := by simpa using h
    obtain ⟨piece, hpiece, hfilled, hread⟩ := operator?_kept hop
    rw [hread]
    exact Kept.of_filled _ hpiece hfilled rfl
  | none =>
    rw [hop] at h
    rw [operator?_squeeze_eq_none hop]
    by_cases hat : c = '@'
    · subst hat
      obtain ⟨rfl, rfl⟩ : (startingWithAt cs).1 = t ∧ (startingWithAt cs).2 = rest := by
        simpa using h
      simpa using startingWithAt_kept cs
    · by_cases hword : startsWord c = true
      · obtain ⟨rfl, rfl⟩ : (wordFrom [c] cs).1 = t ∧ (wordFrom [c] cs).2 = rest := by
          simpa [hat, hword] using h
        simpa [hat, hword] using wordFrom_kept [c] (by simpa using hc) cs
      · obtain ⟨rfl, rfl⟩ : Token.symbol (String.ofList [c]) = t ∧ cs = rest := by
          simpa [hat, hword, hc] using h
        have hkept : Kept ([c] ++ cs) cs (.symbol (String.ofList [c]))
            (some (some (.symbol (String.ofList [c])), squeeze false cs)) :=
          @Kept.of_filled _ [c] (.symbol (String.ofList [c]), cs) _ rfl (by simpa using hc) rfl
        simpa [hat, hword, hc] using hkept

theorem unescape_kept : ∀ f, some unescape = some f → ∀ d, isBlank d = true → f d = d := by
  rintro f ⟨⟩ d hd
  exact unescape_of_isBlank hd

theorem lettered_kept {form : TextForm} {start : List Char} (hstart : ∀ c ∈ start, isBlank c = false)
    {cs rest : List Char} {t : Token} (h : quotationOf form (lettered form cs) = some (some t, rest)) :
    Kept (start ++ cs) rest t (quotationOf form (lettered form (squeeze false cs))) := by
  unfold lettered at h ⊢
  by_cases hform : form = .escaped
  · rw [if_pos hform] at h ⊢
    refine quotationOf_kept start hstart (by decide) reads_escaped ?_ h
    rintro f ⟨⟩ d hd
    exact unescapeLetter_of_isBlank hd
  · rw [if_neg hform] at h ⊢
    exact quotationOf_kept start hstart (by decide) (reads_quoted _) unescape_kept h

theorem quotedName_kept {start : List Char} (hstart : ∀ c ∈ start, isBlank c = false)
    {cs rest : List Char} {t : Token}
    (h : (quotedName '\x60' cs).map (fun read =>
      (some (Token.word (String.ofList read.1) (some '\x60') none), read.2)) = some (some t, rest)) :
    Kept (start ++ cs) rest t ((quotedName '\x60' (squeeze false cs)).map fun read =>
      (some (.word (String.ofList read.1) (some '\x60') none), read.2)) := by
  obtain ⟨⟨text, r⟩, htext, heq⟩ := Option.map_eq_some_iff.mp h
  obtain ⟨rfl, rfl⟩ :
      Token.word (String.ofList text) (some '\x60') none = t ∧ r = rest := by simpa using heq
  refine (reads_quotedName _).kept (by decide) (by simp) hstart
    (fun x => .word (String.ofList x) (some '\x60') none) ?_ htext
  intro x y hxy
  have hlist := congrArg String.toList (Token.word.inj hxy).1
  rwa [String.toList_ofList, String.toList_ofList] at hlist

/-- A token that starts with a character that is no blank and no placeholder is kept. -/
theorem step_kept {c : Char} (hc : isBlank c = false) (hplaceholder : c ≠ '?')
    {cs rest : List Char} {t : Token} (h : step c cs = some (some t, rest)) :
    Kept (c :: cs) rest t (step c (squeeze false cs)) := by
  have hone : ∀ d ∈ [c], isBlank d = false := List.forall_mem_singleton.mpr hc
  have hstarts := opening_starts c cs.head?
  rw [step_eq] at h ⊢
  rw [opening_squeeze]
  cases hopen : opening c cs.head? with
  | lettered form =>
    rw [hopen] at h hstarts
    obtain ⟨ds, rfl⟩ := List.head?_eq_some_iff.mp hstarts.2
    have hstart : ∀ d ∈ [c, '\''], isBlank d = false :=
      List.forall_mem_cons.mpr ⟨hc, List.forall_mem_singleton.mpr (by decide)⟩
    rw [Text.squeeze_filled (c := '\'') (by decide)]
    exact lettered_kept hstart h
  | text form mark =>
    rw [hopen] at h hstarts
    obtain ⟨rfl, -⟩ := hstarts
    exact quotationOf_kept [c] hone hc (reads_quoted _) unescape_kept h
  | name =>
    rw [hopen] at h
    exact quotedName_kept hone h
  | line => rw [hopen] at h; simp at h
  | comment => rw [hopen] at h; simp at h
  | placeholder =>
    rw [hopen] at hstarts
    exact absurd hstarts hplaceholder
  | digits =>
    rw [hopen] at h
    obtain ⟨rfl, rfl⟩ : (startingWithDigit (c :: cs)).1 = t ∧
        (startingWithDigit (c :: cs)).2 = rest := by simpa using h
    simp only [← Text.squeeze_filled hc]
    exact startingWithDigit_kept (c :: cs)
  | plain =>
    rw [hopen] at h
    exact plainStep_kept hc (Option.some.inj h)

/-! ### Comments -/

theorem afterComment_cons (depth : Nat) (last c : Char) (cs : List Char) :
    afterComment depth last (c :: cs) =
      if last = '/' ∧ c = '*' then afterComment (depth + 1) c cs
      else if last = '*' ∧ c = '/' then
        match depth with
        | 0 => some cs
        | d + 1 => afterComment d c cs
      else afterComment depth c cs := by
  rw [afterComment.eq_def]
  cases depth with
  | zero => simp only [Bool.and_eq_true, decide_eq_true_eq]
  | succ d => simp only [Bool.and_eq_true, decide_eq_true_eq]

/-- A blank within a comment only parts what stands around it. -/
theorem afterComment_blank {depth : Nat} {last c : Char} (hc : isBlank c = true) (cs : List Char) :
    afterComment depth last (c :: cs) = afterComment depth c cs := by
  have hstar : c ≠ '*' := Text.ne_of_isBlank hc (by decide)
  have hslash : c ≠ '/' := Text.ne_of_isBlank hc (by decide)
  rw [afterComment_cons, if_neg (by simp [hstar]), if_neg (by simp [hslash])]

/-- The last character does not count, if it is a blank. -/
theorem afterComment_of_blank {depth : Nat} {last last' : Char} (h : isBlank last = true)
    (h' : isBlank last' = true) (cs : List Char) :
    afterComment depth last cs = afterComment depth last' cs := by
  have hmarks : ∀ {x : Char}, isBlank x = true → x ≠ '*' ∧ x ≠ '/' :=
    fun hx => ⟨Text.ne_of_isBlank hx (by decide), Text.ne_of_isBlank hx (by decide)⟩
  cases cs with
  | nil => rfl
  | cons c cs =>
    rw [afterComment_cons, afterComment_cons, if_neg (by simp [(hmarks h).2]),
      if_neg (by simp [(hmarks h).1]), if_neg (by simp [(hmarks h').2]),
      if_neg (by simp [(hmarks h').1])]

/-- A bracketed comment ends at the same place after squeezing. -/
theorem afterComment_squeeze {depth : Nat} {last : Char} {cs rest : List Char}
    (h : afterComment depth last cs = some rest) (gap : Bool)
    (hgap : gap = true → isBlank last = true) :
    afterComment depth last (squeeze gap cs) = some (squeeze false rest) := by
  induction cs generalizing depth last gap with
  | nil => simp [afterComment] at h
  | cons c cs ih =>
    by_cases hc : isBlank c = true
    · rw [afterComment_blank hc] at h
      rw [Text.squeeze_blank hc]
      have hkept := ih h true fun _ => hc
      rcases Text.squeeze_true_cases cs with hnil | ⟨ds, hds⟩
      · rw [hnil] at hkept
        simp [afterComment] at hkept
      · rw [hds, afterComment_blank (by decide)] at hkept ⊢
        exact hkept
    · rw [Bool.not_eq_true] at hc
      -- the space that is written for blanks before changes nothing
      have hlead : afterComment depth last (squeeze gap (c :: cs)) =
          afterComment depth last (c :: squeeze false cs) := by
        rw [Text.squeeze_lead hc]
        cases gap with
        | false => rfl
        | true =>
          rw [Text.lead_true, afterComment_blank (by decide)]
          exact afterComment_of_blank (by decide) (hgap rfl) _
      have hnext : ∀ {d : Nat}, afterComment d c cs = some rest →
          afterComment d c (squeeze false cs) = some (squeeze false rest) :=
        fun h => ih h false (by simp)
      rw [hlead, afterComment_cons]
      rw [afterComment_cons] at h
      by_cases hopen : last = '/' ∧ c = '*'
      · rw [if_pos hopen] at h ⊢
        exact hnext h
      · rw [if_neg hopen] at h ⊢
        by_cases hclose : last = '*' ∧ c = '/'
        · rw [if_pos hclose] at h ⊢
          cases depth with
          | zero => rw [← Option.some.inj h]
          | succ d => exact hnext h
        · rw [if_neg hclose] at h ⊢
          exact hnext h

/-- After squeezing there is no end of a line. -/
theorem afterLine_squeeze (gap : Bool) (cs : List Char) : afterLine (squeeze gap cs) = [] := by
  have hnone : (squeeze gap cs).dropWhile (· ≠ '\n') = [] := by
    rw [List.dropWhile_eq_nil_iff]
    intro c hc
    simp only [ne_eq, decide_not, Bool.not_eq_eq_eq_not, Bool.not_true, decide_eq_false_iff_not]
    rintro rfl
    exact absurd (Text.eq_space_of_mem_squeeze hc (by decide)) (by decide)
  rw [afterLine, hnone]
  rfl

/-! ### Blanks between lexemes -/

theorem opening_blank {c : Char} (h : isBlank c = true) (next : Option Char) :
    opening c next = .plain := by
  have hpoint : c ≠ '.' := Text.ne_of_isBlank h (by decide)
  unfold opening
  split
  case h_13 => simp [Text.isDigit_of_isBlank h, hpoint]
  all_goals exact absurd h (by decide)

theorem operator?_blank {c : Char} (h : isBlank c = true) (cs : List Char) :
    operator? (c :: cs) = none := by
  rw [operator?, Option.map_eq_none_iff, List.find?_eq_none]
  intro o ho hstarts
  obtain ⟨rest, hrest⟩ := List.isPrefixOf_iff_prefix.mp hstarts
  have hne : o.toList ≠ [] := by
    have hall : ∀ o ∈ operators, o.toList ≠ [] := by decide
    exact hall o ho
  obtain ⟨d, ds, hds⟩ := List.exists_cons_of_ne_nil hne
  have hd := filled_of_mem_operators o ho d (by rw [hds]; simp)
  rw [hds, List.cons_append] at hrest
  exact Text.ne_of_isBlank h hd (List.cons.inj hrest).1.symm

/-- A blank either starts a word or is skipped. -/
theorem step_blank {c : Char} (h : isBlank c = true) (cs : List Char) :
    step c cs =
      if startsWord c then some (some (wordFrom [c] cs).1, (wordFrom [c] cs).2)
      else some (none, cs) := by
  have hat : c ≠ '@' := Text.ne_of_isBlank h (by decide)
  rw [step_eq, opening_blank h]
  simp only [plainStep, operator?_blank h, hat, if_false, h, if_true]
  split <;> rfl

theorem startsWord_blank {c : Char} (h : isBlank c = true) :
    startsWord c = true ↔ 128 ≤ c.toNat := by
  have hn := h
  simp only [isBlank, Text.inRanges, Text.blankRanges, List.any_cons, List.any_nil,
    Bool.or_false, Bool.or_eq_true, Bool.and_eq_true, decide_eq_true_eq] at hn
  constructor
  · intro hword
    by_contra hlt
    have halpha : c.isAlpha = false := by
      rw [Bool.eq_false_iff, ne_eq, Text.isAlpha_iff_toNat]
      omega
    have hmarks : c ≠ '_' ∧ c ≠ '$' ∧ c ≠ '@' :=
      ⟨Text.ne_of_isBlank h (by decide), Text.ne_of_isBlank h (by decide),
        Text.ne_of_isBlank h (by decide)⟩
    rw [startsWord_of_ascii (by omega)] at hword
    simp [hmarks, halpha] at hword
  · intro hle
    have hrange : Text.inRanges [(0x80, 0xFFFF)] c.toNat = true := by
      simp only [Text.inRanges, List.any_cons, List.any_nil, Bool.or_false, Bool.and_eq_true,
        decide_eq_true_eq]
      omega
    simp [startsWord, hrange]

/-- A blank of ASCII is skipped. -/
theorem step_ascii_blank {c : Char} (h : isBlank c = true) (hascii : c.toNat < 128)
    (cs : List Char) : step c cs = some (none, cs) := by
  have hword : ¬startsWord c = true := by
    rw [startsWord_blank h]
    omega
  rw [step_blank h, if_neg hword]

theorem tokens_blank {c : Char} (h : isBlank c = true) (hascii : c.toNat < 128) (cs : List Char) :
    tokens (c :: cs) = tokens cs := by
  rw [tokens_cons, step_ascii_blank h hascii, Option.bind_some]
  simp

/-- Blanks in front do not count. -/
theorem tokens_squeeze_gap (cs : List Char) :
    tokens (squeeze true cs) = tokens (squeeze false cs) := by
  cases cs with
  | nil => rfl
  | cons c cs =>
    by_cases h : isBlank c = true
    · rw [Text.squeeze_blank h, Text.squeeze_blank h]
    · rw [Bool.not_eq_true] at h
      rw [Text.squeeze_lead h, Text.lead_true, tokens_blank (by decide) (by decide),
        Text.squeeze_filled h]

theorem tokens_squeeze_trimStart (cs : List Char) :
    tokens (squeeze false (Text.trimStart cs)) = tokens (squeeze false cs) := by
  induction cs with
  | nil => rfl
  | cons c cs ih =>
    by_cases h : isBlank c = true
    · have htrim : Text.trimStart (c :: cs) = Text.trimStart cs := by simp [Text.trimStart, h]
      rw [htrim, ih, Text.squeeze_blank h, tokens_squeeze_gap]
    · simp [Text.trimStart, h]

/-! ### Words -/

theorem mem_wordFrom {start cs : List Char} {word : String}
    (h : (wordFrom start cs).1 = ofWord word) : ∀ x ∈ word.toList, x ∈ start ++ cs := by
  obtain rfl := ofWord_inj h
  intro x hx
  rw [String.toList_ofList] at hx
  rcases List.mem_append.mp hx with hx | hx
  · exact List.mem_append_left cs hx
  · exact List.mem_append_right start ((List.takeWhile_sublist _).subset hx)

theorem mem_afterDigits {digits cs : List Char} {word : String}
    (h : (afterDigits digits cs).1 = ofWord word) : ∀ x ∈ word.toList, x ∈ digits ++ cs := by
  by_cases hpoint : digits = ['.']
  · subst hpoint
    exact nomatch h
  · cases he : exponent? cs with
    | some r =>
      rw [afterDigits_exponent hpoint he] at h
      exact absurd h (numberEnding_ne_ofWord _ _ _)
    | none =>
      by_cases hends : startsWithAny ['e', 'E'] cs = true ∨ cs.takeWhile continuesWord = []
      · rw [afterDigits_number hpoint he hends] at h
        exact absurd h (numberEnding_ne_ofWord _ _ _)
      · rw [not_or, Bool.not_eq_true] at hends
        rw [afterDigits_word hpoint he hends.1 hends.2] at h
        exact mem_wordFrom h

theorem mem_startingWithDigit {cs : List Char} {word : String}
    (h : (startingWithDigit cs).1 = ofWord word) : ∀ x ∈ word.toList, x ∈ cs := by
  have hcs : cs.takeWhile Char.isDigit ++ cs.dropWhile Char.isDigit = cs :=
    List.takeWhile_append_dropWhile
  by_cases hp : (cs.dropWhile Char.isDigit).head? = some '.'
  · obtain ⟨rest, hrest⟩ := List.head?_eq_some_iff.mp hp
    rw [startingWithDigit_point hrest] at h
    intro x hx
    have hmem := mem_afterDigits h x hx
    rwa [List.append_assoc, List.cons_append, List.takeWhile_append_dropWhile, ← hrest, hcs] at hmem
  · by_cases hx : cs.takeWhile Char.isDigit = ['0'] ∧ (cs.dropWhile Char.isDigit).head? = some 'x'
    · obtain ⟨rest, hrest⟩ := List.head?_eq_some_iff.mp hx.2
      rw [startingWithDigit_hex hx.1 hrest] at h
      exact nomatch h
    · rw [startingWithDigit_plain (fun hzero h => hx ⟨hzero, h⟩) hp] at h
      intro x hmem
      have hall := mem_afterDigits h x hmem
      rwa [hcs] at hall

theorem mem_startingWithAt {cs : List Char} {word : String}
    (h : (startingWithAt cs).1 = ofWord word) : ∀ x ∈ word.toList, x ∈ '@' :: cs := by
  have hafter : ∀ marks ds : List Char, (afterAt marks ds).1 = ofWord word →
      ∀ x ∈ word.toList, x ∈ marks ++ ds := by
    intro marks ds h
    cases ds with
    | nil => exact nomatch h
    | cons d ds =>
      rw [afterAt] at h
      split at h
      · exact nomatch h
      · intro x hx
        have hmem := mem_wordFrom h x hx
        rwa [List.append_assoc, List.singleton_append] at hmem
  rw [startingWithAt_eq] at h
  split at h
  · next hat =>
    obtain ⟨ds, rfl⟩ := List.head?_eq_some_iff.mp hat
    exact hafter ['@', '@'] ds h
  · exact hafter ['@'] cs h

/-- The characters of an unquoted word are those of the text. -/
theorem mem_of_step_word {c : Char} {cs rest : List Char} {word : String}
    (h : step c cs = some (some (ofWord word), rest)) : ∀ x ∈ word.toList, x ∈ c :: cs := by
  have hquotation : ∀ {form : TextForm} {read : Option (List Char × List Char)},
      quotationOf form read ≠ some (some (ofWord word), rest) := by
    intro form read hread
    obtain ⟨r, -, hr⟩ := Option.map_eq_some_iff.mp hread
    simp [ofWord] at hr
  rw [step_eq] at h
  split at h
  · exact absurd h hquotation
  · exact absurd h hquotation
  · obtain ⟨r, -, hr⟩ := Option.map_eq_some_iff.mp h
    simp [ofWord] at hr
  · simp at h
  · obtain ⟨r, -, hr⟩ := Option.map_eq_some_iff.mp h
    simp at hr
  · simp [ofWord] at h
  · simp only [Option.some.injEq, Prod.mk.injEq] at h
    exact mem_startingWithDigit h.1
  · unfold plainStep at h
    split at h
    · next read hop =>
      obtain ⟨o, -, rfl⟩ := Option.map_eq_some_iff.mp hop
      simp [ofWord] at h
    · split at h
      · next hat =>
        simp only [Option.some.injEq, Prod.mk.injEq] at h
        exact hat ▸ mem_startingWithAt h.1
      · split at h
        · simp only [Option.some.injEq, Prod.mk.injEq] at h
          exact mem_wordFrom h.1
        · split at h <;> simp [ofWord] at h

theorem mem_of_mem_tokens {cs : List Char} {ts : List Token} {word : String}
    (h : tokens cs = some ts) (hword : ofWord word ∈ ts) : ∀ x ∈ word.toList, x ∈ cs := by
  induction hn : cs.length using Nat.strong_induction_on generalizing cs ts with
  | _ n ih =>
    cases cs with
    | nil =>
      rw [tokens_nil, Option.some.injEq] at h
      rw [← h] at hword
      cases hword
    | cons c cs =>
      rw [tokens_cons] at h
      obtain ⟨⟨token, rest⟩, hstep, hrest⟩ := Option.bind_eq_some_iff.mp h
      obtain ⟨us, hus, rfl⟩ := Option.map_eq_some_iff.mp hrest
      have hsuffix := step_suffix hstep
      rcases List.mem_append.mp hword with hhead | htail
      · obtain rfl : token = some (ofWord word) := by simpa using hhead
        exact mem_of_step_word hstep
      · intro x hx
        have hlt : rest.length < n := by
          have hle := hsuffix.length_le
          rw [← hn, List.length_cons]
          omega
        exact List.mem_cons_of_mem c (hsuffix.subset (ih _ hlt hus htail rfl x hx))

/-! ### What is skipped -/

theorem plainStep_ne_none {c : Char} (hc : isBlank c = false) (cs : List Char) :
    (plainStep c cs).1 ≠ none := by
  unfold plainStep
  split
  · simp
  · split
    · simp
    · split
      · simp
      · simp [hc]

/-- What is skipped at a character that is no blank is a comment. -/
theorem step_skip {c : Char} (hc : isBlank c = false) {cs rest : List Char}
    (h : step c cs = some (none, rest)) :
    (∃ ds, c = '-' ∧ cs = '-' :: ds ∧ rest = afterLine ds) ∨
      ∃ ds, c = '/' ∧ cs = '*' :: ds ∧ afterComment 0 ' ' ds = some rest := by
  have hread : ∀ {x : Option (List Char × List Char)} {f : List Char × List Char → Token},
      (x.map fun read => (some (f read), read.2)) ≠ some (none, rest) := by
    intro x f hx
    obtain ⟨r, -, heq⟩ := Option.map_eq_some_iff.mp hx
    simp at heq
  have hstarts := opening_starts c cs.head?
  rw [step_eq] at h
  cases hopen : opening c cs.head? with
  | line =>
    rw [hopen] at h hstarts
    obtain ⟨rfl, hnext⟩ := hstarts
    obtain ⟨ds, rfl⟩ := List.head?_eq_some_iff.mp hnext
    obtain ⟨-, rfl⟩ := Prod.mk.inj (Option.some.inj h)
    exact .inl ⟨ds, rfl, rfl, rfl⟩
  | comment =>
    rw [hopen] at h hstarts
    obtain ⟨rfl, hnext⟩ := hstarts
    obtain ⟨ds, rfl⟩ := List.head?_eq_some_iff.mp hnext
    obtain ⟨r, hr, heq⟩ := Option.map_eq_some_iff.mp h
    obtain ⟨-, rfl⟩ := Prod.mk.inj heq
    exact .inr ⟨ds, rfl, rfl, hr⟩
  | plain =>
    rw [hopen] at h
    have hnone := plainStep_ne_none hc cs
    rw [Option.some.inj h] at hnone
    exact absurd rfl hnone
  | lettered form => rw [hopen] at h; exact absurd h hread
  | text form mark => rw [hopen] at h; exact absurd h hread
  | name => rw [hopen] at h; exact absurd h hread
  | placeholder => rw [hopen] at h; simp at h
  | digits => rw [hopen] at h; simp at h

theorem step_line (cs : List Char) : step '-' ('-' :: cs) = some (none, afterLine cs) := by
  rw [step_eq]
  rfl

theorem step_comment (cs : List Char) :
    step '/' ('*' :: cs) = (afterComment 0 ' ' cs).map fun rest => (none, rest) := by
  rw [step_eq]
  rfl

end ScopedQuery.Sql.Token
