import ScopedQuery.Proofs.Sql.Squeezed.Step
/-!
# Written texts

Texts that are put together from plain words, numbers and marks are read as what they were put together
from.

* A `Lexeme` is a piece of such a text. `Lexeme.fits` says that it is read to its end and no further, as
  far as the next character can tell.
* `tokens_spelled`: the tokens of spelled lexemes are those of the single lexemes.
* `Writes text ts`: before a space, a comma, a closing parenthesis or the end, `text` is read as `ts`.
-/

namespace ScopedQuery.Sql

open Token (tokens)

inductive Lexeme
  | word (text : String)
  | number (digits : String)
  | quotation (text : String)
  | mark (text : String)
  /-- A question mark. -/
  | hole
  | space
deriving DecidableEq

namespace Lexeme

def spelling : Lexeme → String
  | word text => text
  | number digits => digits
  | quotation text => "'" ++ (text ++ "'")
  | mark text => text
  | hole => "?"
  | space => " "

def token? : Lexeme → Option Token
  | word text => some (.ofWord text)
  | number digits => some (.number digits false)
  | quotation text => some (.quotation .single text)
  | mark text => some (.symbol text)
  | hole => some (.placeholder "?")
  | space => none

/-- Lexemes one after the other. -/
def spelled : List Lexeme → String
  | [] => ""
  | l :: ls => l.spelling ++ spelled ls

/-- The tokens of lexemes. -/
def tokensOf (ls : List Lexeme) : List Token := ls.filterMap token?

@[simp] theorem tokensOf_nil : tokensOf [] = [] := rfl

@[simp] theorem tokensOf_cons (l : Lexeme) (ls : List Lexeme) :
    tokensOf (l :: ls) = l.token?.toList ++ tokensOf ls := by
  cases h : l.token? with
  | none => simp [tokensOf, h]
  | some t => simp [tokensOf, h]

/-! ### Where lexemes end -/

def isLetter (c : Char) : Bool := c.isAlpha || c = '_'

/-- The characters that end a word. -/
def isBreak (c : Char) : Bool := [' ', ',', '(', ')', '.'].contains c

def isWord : List Char → Bool
  | [] => false
  | c :: cs => isLetter c && cs.all fun d => isLetter d || d.isDigit

def isNumber (cs : List Char) : Bool := !cs.isEmpty && cs.all Char.isDigit

/-- Whether a mark stands for itself before a character. A parenthesis or a comma always does. -/
def isMark (text : String) (next : Option Char) : Bool :=
  if text = "." then next.all fun c => !c.isDigit
  else if ["=", "<>", ">", ">=", "<", "<=", "-"].contains text then next == some ' '
  else ["(", ")", ","].contains text

/-- Whether a lexeme is well formed and ends before a character. -/
def fits (next : Option Char) : Lexeme → Bool
  | word text => isWord text.toList && next.all isBreak
  | number digits => isNumber digits.toList && next.all fun c => isBreak c && c != '.'
  | quotation text => text.toList.all (fun c => c != '\'' && c != '\\') && next != some '\''
  | mark text => isMark text next
  | hole => next.all isBreak
  | space => true

/-- The first character of spelled lexemes. -/
def firstChar : List Lexeme → Option Char
  | [] => none
  | l :: ls => l.spelling.toList.head?.or (firstChar ls)

/-- Whether each of some lexemes ends before the next one, and the last one before a character. -/
def fit (next : Option Char) : List Lexeme → Bool
  | [] => true
  | l :: ls => l.fits ((firstChar ls).or next) && fit next ls

/-! ### Characters -/

theorem continuesWord_of_isLetter {c : Char} (h : isLetter c = true) :
    Token.continuesWord c = true := by
  simp only [isLetter, Bool.or_eq_true, decide_eq_true_eq] at h
  cases h with
  | inl h => simp [Token.continuesWord, Token.startsWord, Text.isAlphabetic_of_isAlpha h]
  | inr h => simp [Token.continuesWord, Token.startsWord, h]

theorem startsWord_of_isLetter {c : Char} (h : isLetter c = true) :
    Token.startsWord c = true := by
  simp only [isLetter, Bool.or_eq_true, decide_eq_true_eq] at h
  cases h with
  | inl h => simp [Token.startsWord, Text.isAlphabetic_of_isAlpha h]
  | inr h => simp [Token.startsWord, h]

theorem isBreak_cases {c : Char} (h : isBreak c = true) :
    c = ' ' ∨ c = ',' ∨ c = '(' ∨ c = ')' ∨ c = '.' := by
  simpa [isBreak] using h

theorem continuesWord_of_isBreak {c : Char} (h : isBreak c = true) :
    Token.continuesWord c = false := by
  have hword : Token.startsWord c = false := by
    rcases isBreak_cases h with rfl | rfl | rfl | rfl | rfl
    all_goals
      rw [Token.startsWord_of_ascii (by decide)]
      rfl
  have hdigit : c.isDigit = false := by
    rcases isBreak_cases h with rfl | rfl | rfl | rfl | rfl <;> rfl
  rw [Token.continuesWord, hword, hdigit]
  rfl

theorem isNumeric_of_isBreak {c : Char} (h : isBreak c = true) : Text.isNumeric c = false := by
  rcases isBreak_cases h with rfl | rfl | rfl | rfl | rfl <;> decide

theorem takeWhile_append_of_head? {f : Char → Bool} {cs rest : List Char} (hcs : cs.all f = true)
    (hrest : ∀ c, rest.head? = some c → f c = false) : (cs ++ rest).takeWhile f = cs := by
  rw [List.takeWhile_append_of_pos (List.all_eq_true.mp hcs)]
  cases rest with
  | nil => simp
  | cons c rest => simp [hrest c rfl]

theorem dropWhile_append_of_head? {f : Char → Bool} {cs rest : List Char} (hcs : cs.all f = true)
    (hrest : ∀ c, rest.head? = some c → f c = false) : (cs ++ rest).dropWhile f = rest := by
  rw [List.dropWhile_append_of_pos (List.all_eq_true.mp hcs)]
  cases rest with
  | nil => simp
  | cons c rest => simp [hrest c rfl]

/-! ### Steps -/

theorem ne_of_isLetter {c d : Char} (hc : isLetter c = true) (hd : isLetter d = false) : c ≠ d := by
  intro h
  rw [h, hd] at hc
  cases hc

theorem isDigit_of_isLetter {c : Char} (hc : isLetter c = true) : c.isDigit = false := by
  by_contra hd
  rw [Bool.not_eq_false, Char.isDigit_iff_toNat] at hd
  simp only [isLetter, Bool.or_eq_true, Text.isAlpha_iff_toNat, decide_eq_true_eq] at hc
  rcases hc with hletter | rfl
  · have hnine : '9'.toNat = 57 := rfl
    omega
  · exact absurd hd.2 (by decide)

theorem opening_of_isLetter {c : Char} {next : Option Char} (hc : isLetter c = true)
    (hnext : next ≠ some '\'') : Token.opening c next = .plain := by
  have hdigit := isDigit_of_isLetter hc
  have hpoint : c ≠ '.' := ne_of_isLetter hc (by decide)
  unfold Token.opening
  split
  case h_13 => simp [hdigit, hpoint]
  all_goals first | exact absurd rfl hnext | exact absurd hc (by decide)

theorem operator?_of_isLetter {c : Char} (hc : isLetter c = true) (cs : List Char) :
    Token.operator? (c :: cs) = none := by
  rw [Token.operator?, Option.map_eq_none_iff, List.find?_eq_none]
  intro o ho hstarts
  obtain ⟨rest, hrest⟩ := List.isPrefixOf_iff_prefix.mp hstarts
  have hall : ∀ o ∈ Token.operators, o.toList.head?.any isLetter = false ∧ o.toList ≠ [] := by
    decide
  obtain ⟨hletter, hne⟩ := hall o ho
  obtain ⟨d, ds, hds⟩ := List.exists_cons_of_ne_nil hne
  rw [hds, List.cons_append] at hrest
  rw [hds, (List.cons.inj hrest).1, List.head?_cons, Option.any_some, hc] at hletter
  cases hletter

section

variable {rest : List Char}

theorem step_word {c : Char} {cs : List Char} (hword : isWord (c :: cs) = true)
    (hnext : ∀ d, rest.head? = some d → isBreak d = true) :
    Token.step c (cs ++ rest) = some (some (.ofWord (String.ofList (c :: cs))), rest) := by
  rw [isWord, Bool.and_eq_true] at hword
  obtain ⟨hc, hcs⟩ := hword
  have hrun : cs.all Token.continuesWord = true := by
    rw [List.all_eq_true] at hcs ⊢
    intro d hd
    have hd' := hcs d hd
    rw [Bool.or_eq_true] at hd'
    cases hd' with
    | inl hl => exact continuesWord_of_isLetter hl
    | inr hn => simp [Token.continuesWord, hn]
  have hrest : ∀ d, rest.head? = some d → Token.continuesWord d = false :=
    fun d hd => continuesWord_of_isBreak (hnext d hd)
  have hquote : (cs ++ rest).head? ≠ some '\'' := by
    intro hq
    cases cs with
    | nil =>
      have hb := hnext '\'' hq
      exact absurd hb (by decide)
    | cons d ds =>
      rw [List.cons_append, List.head?_cons, Option.some.injEq] at hq
      rw [hq, List.all_cons, Bool.and_eq_true] at hcs
      exact absurd hcs.1 (by decide)
  have hat : c ≠ '@' := ne_of_isLetter hc (by decide)
  rw [Token.step_eq, opening_of_isLetter hc hquote]
  simp only [Token.plainStep, operator?_of_isLetter hc, hat, if_false, startsWord_of_isLetter hc,
    if_true, Token.wordFrom, takeWhile_append_of_head? hrun hrest,
    dropWhile_append_of_head? hrun hrest, List.singleton_append]

theorem step_number {c : Char} {cs : List Char} (hnumber : (c :: cs).all Char.isDigit = true)
    (hnext : ∀ d, rest.head? = some d → isBreak d = true ∧ d ≠ '.') :
    Token.step c (cs ++ rest) = some (some (.number (String.ofList (c :: cs)) false), rest) := by
  have hc : c.isDigit = true := by
    rw [List.all_cons, Bool.and_eq_true] at hnumber
    exact hnumber.1
  have hword : ∀ d, rest.head? = some d → Token.continuesWord d = false :=
    fun d hd => continuesWord_of_isBreak (hnext d hd).1
  have hdigit : ∀ d, rest.head? = some d → d.isDigit = false := by
    intro d hd
    have hcontinues := hword d hd
    rw [Token.continuesWord, Bool.or_eq_false_iff] at hcontinues
    exact hcontinues.2
  have htake := takeWhile_append_of_head? hnumber hdigit
  have hdrop := dropWhile_append_of_head? hnumber hdigit
  have hhead : ∀ d : Char, Token.continuesWord d = true → rest.head? ≠ some d := by
    intro d hd hsome
    rw [hword d hsome] at hd
    cases hd
  have hopen : Token.opening c (cs ++ rest).head? = .digits := by
    unfold Token.opening
    split
    case h_13 => simp [hc]
    all_goals exact absurd hc (by decide)
  have hstart : Token.startingWithDigit (c :: cs ++ rest) = Token.afterDigits (c :: cs) rest := by
    have hplain := Token.startingWithDigit_plain
      (fun _ hx => hhead 'x' (by decide) (hdrop ▸ hx))
      (fun hp => (hnext '.' (hdrop ▸ hp)).2 rfl)
    rwa [htake, hdrop] at hplain
  have hpoint : c :: cs ≠ ['.'] := by
    intro h
    rw [(List.cons.inj h).1] at hc
    exact absurd hc (by decide)
  have hexponent : Token.exponent? rest = none := by
    cases rest with
    | nil => rfl
    | cons d ds =>
      have he : d ≠ 'e' := fun h => hhead 'e' (by decide) (by rw [h]; rfl)
      have hE : d ≠ 'E' := fun h => hhead 'E' (by decide) (by rw [h]; rfl)
      rw [Token.exponent?.eq_def]
      simp [he, hE]
  have hnone : rest.takeWhile Token.continuesWord = [] := by
    have h := takeWhile_append_of_head? (rfl : ([] : List Char).all Token.continuesWord = true) hword
    exact h
  have hending : Token.numberEnding (c :: cs) rest =
      (.number (String.ofList (c :: cs)) false, rest) := by
    rw [Token.numberEnding_eq, if_neg (hhead 'L' (by decide))]
  rw [Token.step_eq, hopen]
  simp only
  rw [← List.cons_append, hstart, Token.afterDigits_number hpoint hexponent (.inr hnone), hending]

theorem step_quotation {text : List Char} (htext : text.all (fun c => c != '\'' && c != '\\') = true)
    (hnext : rest.head? ≠ some '\'') :
    Token.step '\'' (text ++ '\'' :: rest) =
      some (some (.quotation .single (String.ofList text)), rest) := by
  have hquoted : Token.quoted '\'' (text ++ '\'' :: rest) = some (text, rest) := by
    induction text with
    | nil =>
      cases rest with
      | nil => rfl
      | cons d ds =>
        have hd : d ≠ '\'' := fun h => hnext (by rw [h]; rfl)
        simp [Token.quoted, hd]
    | cons c cs ih =>
      simp only [List.all_cons, Bool.and_eq_true, bne_iff_ne, ne_eq] at htext
      obtain ⟨⟨hc, hb⟩, hcs⟩ := htext
      have hcs' : cs.all (fun c => c != '\'' && c != '\\') = true := by simpa using hcs
      rw [List.cons_append, Token.quoted.eq_def]
      simp only [hc, hb, if_false, ih hcs', Option.map_some]
  rw [Token.step_eq]
  simp only [Token.opening, Token.quotationOf, hquoted, Option.map_some]

theorem step_point (hnext : ∀ d, rest.head? = some d → d.isDigit = false) :
    Token.step '.' rest = some (some (.symbol "."), rest) := by
  have hnone : rest.takeWhile Char.isDigit = [] ∧ rest.dropWhile Char.isDigit = rest := by
    cases rest with
    | nil => exact ⟨rfl, rfl⟩
    | cons d ds => simp [hnext d rfl]
  have hopen : Token.opening '.' rest.head? = .digits := rfl
  have hpoint : ('.' :: rest).dropWhile Char.isDigit = '.' :: rest := rfl
  rw [Token.step_eq, hopen]
  simp only
  rw [Token.startingWithDigit_point hpoint, hnone.1, hnone.2]
  rfl

/-- A character that starts neither a word nor an operator stands for itself. -/
theorem step_symbol {c : Char} (hc : c ∈ ['=', '>', '<', '-', '(', ')', ','])
    (hopen : Token.opening c rest.head? = .plain) (hoperator : Token.operator? (c :: rest) = none) :
    Token.step c rest = some (some (.symbol (String.ofList [c])), rest) := by
  have hall : (['=', '>', '<', '-', '(', ')', ','].all fun d => decide (d.toNat < 128) &&
      !(d = '_' || d = '$' || d = '@' || d.isAlpha) && !Text.isBlank d && d != '@') = true := by decide
  have hplain := List.all_eq_true.mp hall c hc
  simp only [Bool.and_eq_true, Bool.not_eq_true', bne_iff_ne, decide_eq_true_eq] at hplain
  obtain ⟨⟨⟨hascii, hletter⟩, hblank⟩, hat⟩ := hplain
  have hword : Token.startsWord c = false := by rw [Token.startsWord_of_ascii hascii, hletter]
  rw [Token.step_eq, hopen]
  simp [Token.plainStep, hoperator, hword, hblank, hat]

theorem step_operator {c : Char} {ds cs : List Char} {token : Token}
    (hopen : Token.opening c ds.head? = .plain)
    (hoperator : Token.operator? (c :: ds) = some (token, cs)) :
    Token.step c ds = some (some token, cs) := by
  rw [Token.step_eq, hopen]
  simp [Token.plainStep, hoperator]

theorem step_mark {text : String} (h : isMark text rest.head? = true) :
    ∃ c cs, text.toList = c :: cs ∧ Token.step c (cs ++ rest) = some (some (.symbol text), rest) := by
  unfold isMark at h
  split at h
  · next hpoint =>
    subst hpoint
    refine ⟨'.', [], by decide, step_point fun d hd => ?_⟩
    rw [Option.all_eq_true] at h
    simpa using h d hd
  · split at h
    · next hoperator =>
      obtain ⟨ds, rfl⟩ := List.head?_eq_some_iff.mp (eq_of_beq h)
      simp only [List.contains_iff_mem, List.mem_cons, List.not_mem_nil, or_false] at hoperator
      rcases hoperator with rfl | rfl | rfl | rfl | rfl | rfl | rfl
      · exact ⟨'=', [], by decide,
          step_symbol (by decide) rfl (by simp [Token.operator?, Token.operators])⟩
      · exact ⟨'<', ['>'], by decide,
          step_operator rfl (by simp [Token.operator?, Token.operators, String.length])⟩
      · exact ⟨'>', [], by decide,
          step_symbol (by decide) rfl (by simp [Token.operator?, Token.operators])⟩
      · exact ⟨'>', ['='], by decide,
          step_operator rfl (by simp [Token.operator?, Token.operators, String.length])⟩
      · exact ⟨'<', [], by decide,
          step_symbol (by decide) rfl (by simp [Token.operator?, Token.operators])⟩
      · exact ⟨'<', ['='], by decide,
          step_operator rfl (by simp [Token.operator?, Token.operators, String.length])⟩
      · exact ⟨'-', [], by decide,
          step_symbol (by decide) rfl (by simp [Token.operator?, Token.operators])⟩
    · simp only [List.contains_iff_mem, List.mem_cons, List.not_mem_nil, or_false] at h
      rcases h with rfl | rfl | rfl
      · exact ⟨'(', [], by decide,
          step_symbol (by decide) rfl (by simp [Token.operator?, Token.operators])⟩
      · exact ⟨')', [], by decide,
          step_symbol (by decide) rfl (by simp [Token.operator?, Token.operators])⟩
      · exact ⟨',', [], by decide,
          step_symbol (by decide) rfl (by simp [Token.operator?, Token.operators])⟩

end

/-! ### All lexemes -/

/-- A lexeme is read as its token. -/
theorem tokens_spelling {l : Lexeme} {rest : List Char} (h : l.fits rest.head? = true) :
    tokens (l.spelling.toList ++ rest) = (tokens rest).map (l.token?.toList ++ ·) := by
  have hstep : ∀ (c : Char) (cs : List Char), l.spelling.toList = c :: cs →
      Token.step c (cs ++ rest) = some (l.token?, rest) →
      tokens (l.spelling.toList ++ rest) = (tokens rest).map (l.token?.toList ++ ·) := by
    intro c cs hspell hread
    rw [hspell, List.cons_append, Token.tokens_cons, hread]
    rfl
  cases l with
  | word text =>
    rw [fits, Bool.and_eq_true, Option.all_eq_true] at h
    cases htext : text.toList with
    | nil => rw [htext] at h; exact absurd h.1 (by decide)
    | cons c cs =>
      have hread := step_word (htext ▸ h.1) h.2
      rw [← htext, String.ofList_toList] at hread
      exact hstep c cs htext hread
  | number digits =>
    simp only [fits, isNumber, Bool.and_eq_true, Option.all_eq_true] at h
    cases htext : digits.toList with
    | nil => rw [htext] at h; exact absurd h.1.1 (by decide)
    | cons c cs =>
      have hread := step_number (htext ▸ h.1.2) fun d hd => by simpa using h.2 d hd
      rw [← htext, String.ofList_toList] at hread
      exact hstep c cs htext hread
  | quotation text =>
    rw [fits, Bool.and_eq_true, bne_iff_ne] at h
    have hread := step_quotation h.1 h.2
    rw [String.ofList_toList] at hread
    apply hstep '\'' (text.toList ++ ['\''])
    · simp [spelling]
    · rw [List.append_assoc]
      exact hread
  | mark text =>
    obtain ⟨c, cs, htext, hread⟩ := step_mark h
    exact hstep c cs htext hread
  | hole =>
    rw [fits, Option.all_eq_true] at h
    apply hstep '?' [] (by decide)
    have hnone : ∀ d, rest.head? = some d → Text.isNumeric d = false :=
      fun d hd => isNumeric_of_isBreak (h d hd)
    have htake : ([] ++ rest).takeWhile Text.isNumeric = [] := takeWhile_append_of_head? rfl hnone
    have hdrop : ([] ++ rest).dropWhile Text.isNumeric = rest := dropWhile_append_of_head? rfl hnone
    rw [List.nil_append] at htake hdrop
    rw [Token.step_eq]
    simp only [Token.opening, List.nil_append, htake, hdrop]
    rfl
  | space =>
    apply hstep ' ' [] (by decide)
    rw [List.nil_append, Token.step_ascii_blank (by decide) (by decide)]
    rfl

theorem head?_spelled (ls : List Lexeme) : (spelled ls).toList.head? = firstChar ls := by
  induction ls with
  | nil => rfl
  | cons l ls ih => rw [spelled, String.toList_append, List.head?_append, ih, firstChar]

theorem head?_spelled_append (ls : List Lexeme) (rest : List Char) :
    ((spelled ls).toList ++ rest).head? = (firstChar ls).or rest.head? := by
  rw [List.head?_append, head?_spelled]

/-- The tokens of spelled lexemes are those of the single lexemes. -/
theorem tokens_spelled {ls : List Lexeme} {rest : List Char} (h : fit rest.head? ls = true) :
    tokens ((spelled ls).toList ++ rest) = (tokens rest).map (tokensOf ls ++ ·) := by
  induction ls with
  | nil => simp [spelled, tokensOf]
  | cons l ls ih =>
    rw [fit, Bool.and_eq_true] at h
    obtain ⟨hl, hls⟩ := h
    rw [← head?_spelled_append] at hl
    rw [spelled, String.toList_append, List.append_assoc, tokens_spelling hl, ih hls, Option.map_map]
    congr 1
    funext ts
    cases hl : l.token? with
    | none => simp [tokensOf, hl]
    | some t => simp [tokensOf, hl]

end Lexeme

/-! ### Texts and their tokens -/

/-- The characters before which all lexemes end. -/
def Ends (rest : List Char) : Prop :=
  rest.head? ∈ [none, some ' ', some ',', some ')']

/-- A text is read as some tokens. -/
def Writes (text : String) (ts : List Token) : Prop :=
  ∀ rest, Ends rest → tokens (text.toList ++ rest) = (tokens rest).map (ts ++ ·)

namespace Writes

open Lexeme

theorem ofText? {text : String} {ts : List Token} (h : Writes text ts) :
    Token.ofText? text = some ts := by
  have hend := h [] (by simp [Ends])
  rw [List.append_nil, Token.tokens_nil] at hend
  rw [Token.ofText?_eq, hend]
  simp

/-- A text is read in one way only. -/
theorem unique {text : String} {ts us : List Token} (h : Writes text ts) (h' : Writes text us) :
    ts = us :=
  Option.some.inj (h.ofText?.symm.trans h'.ofText?)

theorem of_lexemes {text : String} (ls : List Lexeme) (htext : text = spelled ls)
    (hfit : ∀ next ∈ [none, some ' ', some ',', some ')'], fit next ls = true) :
    Writes text (tokensOf ls) := by
  intro rest hrest
  rw [htext]
  exact tokens_spelled (hfit _ hrest)

/-- Lexemes that end by themselves can stand in front. -/
theorem prepend {s text : String} {ts : List Token} (ls : List Lexeme) (hs : s = spelled ls)
    (hfit : ∀ next, fit next ls = true) (h : Writes text ts) :
    Writes (s ++ text) (tokensOf ls ++ ts) := by
  intro rest hrest
  rw [String.toList_append, List.append_assoc, hs, tokens_spelled (hfit _), h rest hrest,
    Option.map_map]
  congr 1
  funext us
  simp

/-- A text can go on with lexemes that start with a space, a comma or a closing parenthesis. -/
theorem append {s text : String} {ts us : List Token} (h : Writes text ts) (h' : Writes s us)
    (hends : ∀ rest, Ends (s.toList ++ rest)) : Writes (text ++ s) (ts ++ us) := by
  intro rest hrest
  rw [String.toList_append, List.append_assoc, h _ (hends rest), h' rest hrest, Option.map_map]
  congr 1
  funext vs
  simp

end Writes

end ScopedQuery.Sql
