import ScopedQuery.Proofs.Sql.Delimited
/-!
# Reading tokens

* `opening` tells from two characters what kind of lexeme starts with them, `opening_starts` which
  characters these can be, and `step_eq` describes a step by it.
* `step_suffix`: what a step leaves is an end of what stood behind the first character.
* `tokens` reads all tokens of some characters, step by step (`tokens_cons`), and `ofText?_eq` says that
  they are the tokens of a text.
-/

namespace ScopedQuery.Sql.Token

/-! ### Kinds of lexemes -/

/-- What starts with a character, as far as that can be told from the next one. -/
inductive Opening
  /-- A text behind a letter and a quotation mark. -/
  | lettered (form : TextForm)
  /-- A text behind its quotation mark. -/
  | text (form : TextForm) (mark : Char)
  | name
  | line
  | comment
  | placeholder
  | digits
  | plain

def opening (c : Char) (next : Option Char) : Opening :=
  match c, next with
  | 'N', some '\'' => .lettered .national
  | 'n', some '\'' => .lettered .national
  | 'E', some '\'' => .lettered .escaped
  | 'e', some '\'' => .lettered .escaped
  | 'X', some '\'' => .lettered .hex
  | 'x', some '\'' => .lettered .hex
  | '\'', _ => .text .single '\''
  | '"', _ => .text .double '"'
  | '\x60', _ => .name
  | '-', some '-' => .line
  | '/', some '*' => .comment
  | '?', _ => .placeholder
  | c, _ => if c.isDigit || c = '.' then .digits else .plain

/-- The characters that a kind of lexeme starts with. -/
def Opening.Starts (c : Char) (next : Option Char) : Opening → Prop
  | lettered _ => c ∈ ['N', 'n', 'E', 'e', 'X', 'x'] ∧ next = some '\''
  | text _ mark => c = mark ∧ mark ∈ ['\'', '"']
  | name => c = '\x60'
  | line => c = '-' ∧ next = some '-'
  | comment => c = '/' ∧ next = some '*'
  | placeholder => c = '?'
  | digits => (c.isDigit || c = '.') = true
  | plain => (c.isDigit || c = '.') = false

theorem opening_starts (c : Char) (next : Option Char) : (opening c next).Starts c next := by
  unfold opening
  split
  case h_13 => split <;> simp_all [Opening.Starts]
  all_goals simp [Opening.Starts]

/-- The text behind a letter and a quotation mark. -/
def lettered (form : TextForm) (cs : List Char) : Option (List Char × List Char) :=
  if form = .escaped then escaped false cs else quoted '\'' cs

/-- A step at a character that starts no lexeme of a kind of its own. -/
def plainStep (c : Char) (cs : List Char) : Option Token × List Char :=
  match operator? (c :: cs) with
  | some read => (some read.1, read.2)
  | none =>
    if c = '@' then (some (startingWithAt cs).1, (startingWithAt cs).2)
    else if startsWord c then (some (wordFrom [c] cs).1, (wordFrom [c] cs).2)
    else if Text.isBlank c then (none, cs)
    else (some (.symbol (String.ofList [c])), cs)

theorem step_eq (c : Char) (cs : List Char) :
    step c cs =
      match opening c cs.head? with
      | .lettered form => quotationOf form (lettered form cs.tail)
      | .text form mark => quotationOf form (quoted mark cs)
      | .name =>
        (quotedName '\x60' cs).map fun read =>
          (some (.word (String.ofList read.1) (some '\x60') none), read.2)
      | .line => some (none, afterLine cs.tail)
      | .comment => (afterComment 0 ' ' cs.tail).map fun rest => (none, rest)
      | .placeholder =>
        some (some (.placeholder (String.ofList ('?' :: cs.takeWhile Text.isNumeric))),
          cs.dropWhile Text.isNumeric)
      | .digits => some (some (startingWithDigit (c :: cs)).1, (startingWithDigit (c :: cs)).2)
      | .plain => some (plainStep c cs) := by
  unfold step
  split
  case h_13 =>
    have hopen : opening c cs.head? = if c.isDigit || c = '.' then .digits else .plain := by
      unfold opening
      cases cs with
      | nil => split <;> simp_all
      | cons d ds => split <;> simp_all
    rw [hopen]
    split
    · rfl
    · cases hread : operator? (c :: cs) with
      | some read => simp only [plainStep, hread]
      | none =>
        simp only [plainStep, hread]
        split
        · rfl
        · split
          · rfl
          · split <;> rfl
  all_goals rfl

/-! ### What a step leaves -/

theorem suffix_of_delimited {mark : Char} {meaning : Option (Char → Char)}
    {read : List Char → Option (List Char × List Char)} (h : Reads mark meaning read)
    {cs text rest : List Char} (hread : read cs = some (text, rest)) : rest <:+ cs := by
  obtain ⟨piece, rfl, -⟩ := h.eq_some_iff.mp hread
  exact List.suffix_append piece rest

theorem afterComment_suffix {depth : Nat} {last : Char} {cs rest : List Char}
    (h : afterComment depth last cs = some rest) : rest <:+ cs := by
  induction cs generalizing depth last with
  | nil => simp [afterComment] at h
  | cons c cs ih =>
    have hcons : ∀ {d : Nat}, afterComment d c cs = some rest → rest <:+ c :: cs :=
      fun h => (ih h).trans (List.suffix_cons c cs)
    rw [afterComment.eq_def] at h
    simp only at h
    split at h
    · exact hcons h
    · split at h
      · cases depth with
        | zero => exact Option.some.inj h ▸ List.suffix_cons c cs
        | succ d => exact hcons h
      · exact hcons h

theorem afterLine_suffix (cs : List Char) : afterLine cs <:+ cs :=
  (List.drop_suffix 1 _).trans (List.dropWhile_suffix _)

theorem exponent?_suffix {cs e rest : List Char} (h : exponent? cs = some (e, rest)) :
    rest <:+ cs := by
  cases cs with
  | nil => simp [exponent?] at h
  | cons c cs =>
    rw [exponent?.eq_def] at h
    simp only at h
    split at h
    · cases cs with
      | nil => simp at h
      | cons d ds =>
        simp only at h
        have hd : ds.dropWhile Char.isDigit <:+ c :: d :: ds :=
          (List.dropWhile_suffix _).trans ⟨[c, d], rfl⟩
        split at h
        · split at h
          · simp at h
          · obtain ⟨-, rfl⟩ := Prod.mk.inj (Option.some.inj h)
            exact hd
        · split at h
          · obtain ⟨-, rfl⟩ := Prod.mk.inj (Option.some.inj h)
            exact (List.dropWhile_suffix _).trans (List.suffix_cons c _)
          · simp at h
    · simp at h

theorem numberEnding_suffix (digits rest : List Char) : (numberEnding digits rest).2 <:+ rest := by
  unfold numberEnding
  split
  · exact List.suffix_cons _ _
  · exact List.suffix_refl _

theorem afterDigits_suffix (digits rest : List Char) : (afterDigits digits rest).2 <:+ rest := by
  unfold afterDigits
  split
  · exact List.suffix_refl _
  · split
    · next h => exact (numberEnding_suffix _ _).trans (exponent?_suffix h)
    · split
      · exact numberEnding_suffix _ _
      · split
        · exact numberEnding_suffix _ _
        · exact List.dropWhile_suffix _

theorem startingWithDigit_suffix {c : Char} (cs : List Char) (h : (c.isDigit || c = '.') = true) :
    (startingWithDigit (c :: cs)).2 <:+ cs := by
  -- either the first character is a digit, or it is the point and stands first in the rest
  have hrest : (c :: cs).dropWhile Char.isDigit <:+ cs ∨
      (c :: cs).dropWhile Char.isDigit = '.' :: cs := by
    by_cases hc : c.isDigit = true
    · exact .inl (by simpa [hc] using List.dropWhile_suffix _)
    · simp only [hc, Bool.false_or, decide_eq_true_eq] at h
      subst h
      exact .inr (by simp [hc])
  have hnext : ∀ {d : Char} {rest : List Char},
      (c :: cs).dropWhile Char.isDigit = d :: rest → rest <:+ cs := by
    intro d rest hd
    rw [hd] at hrest
    rcases hrest with hs | heq
    · exact (List.suffix_cons d rest).trans hs
    · obtain ⟨-, rfl⟩ := List.cons.inj heq
      exact List.suffix_refl _
  unfold startingWithDigit
  simp only
  split
  · next hx => exact (List.dropWhile_suffix _).trans (hnext hx)
  · next hp => exact (afterDigits_suffix _ _).trans ((List.dropWhile_suffix _).trans (hnext hp))
  · next hn =>
    rcases hrest with hs | heq
    · exact (afterDigits_suffix _ _).trans hs
    · exact absurd heq (by simp_all)

theorem wordFrom_suffix (start cs : List Char) : (wordFrom start cs).2 <:+ cs :=
  List.dropWhile_suffix _

theorem startingWithAt_suffix (cs : List Char) : (startingWithAt cs).2 <:+ cs := by
  unfold startingWithAt
  split
  · exact List.suffix_refl _
  · exact List.suffix_cons _ _
  · split
    · exact List.suffix_cons _ _
    · exact (List.dropWhile_suffix _).trans ⟨['@', _], rfl⟩
  · split
    · exact List.suffix_refl _
    · exact (List.dropWhile_suffix _).trans (List.suffix_cons _ _)

/-- No operator is empty. -/
theorem operator?_suffix {c : Char} {cs : List Char} {read : Token × List Char}
    (h : operator? (c :: cs) = some read) : read.2 <:+ cs := by
  obtain ⟨operator, hop, rfl⟩ := Option.map_eq_some_iff.mp h
  have hmem := List.mem_of_find?_eq_some hop
  have hlen : 0 < operator.length := by
    have hall : ∀ o ∈ operators, 0 < o.length := by decide
    exact hall operator hmem
  obtain ⟨n, hn⟩ : ∃ n, operator.length = n + 1 := ⟨operator.length - 1, by omega⟩
  simp only [hn, List.drop_succ_cons]
  exact List.drop_suffix n cs

theorem plainStep_suffix (c : Char) (cs : List Char) : (plainStep c cs).2 <:+ cs := by
  unfold plainStep
  split
  · next h => exact operator?_suffix h
  · split
    · exact startingWithAt_suffix cs
    · split
      · exact wordFrom_suffix [c] cs
      · split
        · exact List.suffix_refl cs
        · exact List.suffix_refl cs

theorem lettered_suffix {form : TextForm} {cs text rest : List Char}
    (h : lettered form cs = some (text, rest)) : rest <:+ cs := by
  unfold lettered at h
  split at h
  · exact suffix_of_delimited reads_escaped h
  · exact suffix_of_delimited (reads_quoted _) h

theorem step_suffix {c : Char} {cs rest : List Char} {token : Option Token}
    (h : step c cs = some (token, rest)) : rest <:+ cs := by
  have htail : ∀ {ds : List Char}, ds <:+ cs.tail → ds <:+ cs :=
    fun hds => hds.trans (List.tail_suffix cs)
  rw [step_eq] at h
  split at h
  · obtain ⟨⟨text, r⟩, hread, heq⟩ := Option.map_eq_some_iff.mp h
    obtain ⟨-, rfl⟩ := Prod.mk.inj heq
    exact htail (lettered_suffix hread)
  · obtain ⟨⟨text, r⟩, hread, heq⟩ := Option.map_eq_some_iff.mp h
    obtain ⟨-, rfl⟩ := Prod.mk.inj heq
    exact suffix_of_delimited (reads_quoted _) hread
  · obtain ⟨⟨text, r⟩, hread, heq⟩ := Option.map_eq_some_iff.mp h
    obtain ⟨-, rfl⟩ := Prod.mk.inj heq
    exact suffix_of_delimited (reads_quotedName _) hread
  · obtain ⟨-, rfl⟩ := Prod.mk.inj (Option.some.inj h)
    exact htail (afterLine_suffix _)
  · obtain ⟨r, hread, heq⟩ := Option.map_eq_some_iff.mp h
    obtain ⟨-, rfl⟩ := Prod.mk.inj heq
    exact htail (afterComment_suffix hread)
  · obtain ⟨-, rfl⟩ := Prod.mk.inj (Option.some.inj h)
    exact List.dropWhile_suffix _
  · next hopen =>
    obtain ⟨-, rfl⟩ := Prod.mk.inj (Option.some.inj h)
    have hstarts := opening_starts c cs.head?
    rw [hopen] at hstarts
    exact startingWithDigit_suffix cs hstarts
  · have hplain := plainStep_suffix c cs
    rw [Option.some.inj h] at hplain
    exact hplain

/-! ### All tokens -/

/-- The tokens of some characters. -/
def tokens (cs : List Char) : Option (List Token) := scan cs.length cs

theorem ofText?_eq (text : String) : ofText? text = tokens text.toList := by
  rw [ofText?, tokens, String.length_toList]

/-- How often a step may be made does not count, as long as that is often enough. -/
theorem scan_eq_scan {n m : Nat} {cs : List Char} (hn : cs.length ≤ n) (hm : cs.length ≤ m) :
    scan n cs = scan m cs := by
  induction n generalizing m cs with
  | zero =>
    obtain rfl := List.length_eq_zero_iff.mp (Nat.le_zero.mp hn)
    simp [scan]
  | succ n ih =>
    cases cs with
    | nil => simp [scan]
    | cons c cs =>
      cases m with
      | zero => simp at hm
      | succ m =>
        rw [scan, scan]
        cases hstep : step c cs with
        | none => rfl
        | some read =>
          obtain ⟨token, rest⟩ := read
          have hlen := (step_suffix hstep).length_le
          rw [List.length_cons] at hn hm
          simp only [Option.bind_some]
          rw [ih (m := m) (by omega) (by omega)]

@[simp] theorem tokens_nil : tokens [] = some [] := rfl

theorem tokens_cons (c : Char) (cs : List Char) :
    tokens (c :: cs) =
      (step c cs).bind fun read => (tokens read.2).map (read.1.toList ++ ·) := by
  rw [tokens, List.length_cons, scan]
  cases hstep : step c cs with
  | none => rfl
  | some read =>
    have hlen := (step_suffix hstep).length_le
    simp only [Option.bind_some]
    rw [scan_eq_scan hlen (Nat.le_refl _)]
    rfl

end ScopedQuery.Sql.Token
