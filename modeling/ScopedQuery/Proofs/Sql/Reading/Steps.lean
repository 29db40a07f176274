import Mathlib.Data.List.Forall2
import Mathlib.Data.Option.Basic
import ScopedQuery.Sql.Grammar.Statement
/-!
# Steps of reading

What the readers of single tokens do with the tokens in front of them. With these equations a reader can
be followed token by token.
-/

namespace ScopedQuery.Sql

namespace Parsing

variable {α β : Type}

/-- Goes on with what has been read. -/
def andThen (read : Attempt Unit (α × List Token)) (f : α → Parsing β) :
    Attempt Unit (β × List Token) := read.bind fun r => f r.1 r.2

/-- What comes next is looked at only when its turn has come. -/
@[congr] theorem andThen_congr {read read' : Attempt Unit (α × List Token)} (h : read = read')
    (f : α → Parsing β) : andThen read f = andThen read' f := by rw [h]

@[simp] theorem andThen_ok (r : α × List Token) (f : α → Parsing β) :
    andThen (.ok r) f = f r.1 r.2 := rfl

@[simp] theorem andThen_error (f : α → Parsing β) : andThen (.error ()) f = .error () := rfl

@[simp] theorem andThen_crashed (f : α → Parsing β) : andThen .crashed f = .crashed := rfl

@[simp ↓] theorem bind_apply (x : Parsing α) (f : α → Parsing β) (ts : List Token) :
    (x >>= f) ts = andThen (x ts) f := rfl

@[simp] theorem pure_apply (a : α) (ts : List Token) : (pure a : Parsing α) ts = .ok (a, ts) := rfl

@[simp] theorem get_apply (ts : List Token) : (get : Parsing (List Token)) ts = .ok (ts, ts) := rfl

@[simp] theorem set_apply (us ts : List Token) : (set us : Parsing PUnit) ts = .ok (⟨⟩, us) := rfl

@[simp] theorem modify_apply (f : List Token → List Token) (ts : List Token) :
    (modify f : Parsing PUnit) ts = .ok (⟨⟩, f ts) := rfl

@[simp] theorem failure_apply (ts : List Token) : (failure : Parsing α) ts = .error () := rfl

@[simp ↓] theorem map_apply (x : Parsing α) (f : α → β) (ts : List Token) :
    (f <$> x) ts = andThen (x ts) fun a => pure (f a) := rfl

@[simp ↓] theorem ite_parsing (c : Prop) [Decidable c] (x y : Parsing α) (ts : List Token) :
    (if c then x else y) ts = if c then x ts else y ts := by
  split <;> rfl

@[simp] theorem guard_apply (p : Prop) [Decidable p] (ts : List Token) :
    (guard p : Parsing Unit) ts = if p then .ok ((), ts) else .error () := by
  by_cases h : p
  · simp [guard, h]
  · simp [guard, h]

/-! ### Single tokens -/

@[simp] theorem next_cons (t : Token) (ts : List Token) : next (t :: ts) = .ok (t, ts) := rfl

@[simp] theorem peek_apply (ts : List Token) : peek ts = .ok (ts.head?, ts) := rfl

@[simp] theorem peekSecond_apply (ts : List Token) : peekSecond ts = .ok (ts[1]?, ts) := rfl

@[simp] theorem symbol?_nil (s : String) : symbol? s [] = .ok (false, []) := rfl

@[simp] theorem symbol?_symbol (s t : String) (ts : List Token) :
    symbol? s (.symbol t :: ts) =
      if t = s then .ok (true, ts) else .ok (false, .symbol t :: ts) := rfl

@[simp] theorem symbol?_word (s text : String) (quote : Option Char) (keyword : Option String)
    (ts : List Token) :
    symbol? s (.word text quote keyword :: ts) = .ok (false, .word text quote keyword :: ts) := rfl

@[simp] theorem symbol?_number (s digits : String) (long : Bool) (ts : List Token) :
    symbol? s (.number digits long :: ts) = .ok (false, .number digits long :: ts) := rfl

@[simp] theorem symbol?_quotation (s text : String) (form : TextForm) (ts : List Token) :
    symbol? s (.quotation form text :: ts) = .ok (false, .quotation form text :: ts) := rfl

@[simp] theorem symbol?_placeholder (s name : String) (ts : List Token) :
    symbol? s (.placeholder name :: ts) = .ok (false, .placeholder name :: ts) := rfl

theorem symbol?_of_head? {s : String} {ts : List Token} (h : ts.head? ≠ some (.symbol s)) :
    symbol? s ts = .ok (false, ts) := by
  cases ts with
  | nil => rfl
  | cons t ts =>
    cases t with
    | symbol text =>
      have hne : text ≠ s := fun heq => h (by rw [heq]; rfl)
      simp [hne]
    | _ => rfl

@[simp] theorem atSymbol_apply (s : String) (ts : List Token) :
    atSymbol s ts = .ok (ts.head? == some (.symbol s), ts) := rfl

theorem anyKeyword?_apply (words : List String) (ts : List Token) :
    anyKeyword? words ts =
      match ts.head?.bind keywordOf with
      | some k => if words.contains k then .ok (some k, ts.tail) else .ok (none, ts)
      | none => .ok (none, ts) := by
  cases ts with
  | nil => rfl
  | cons t ts =>
    cases t with
    | word text quote keyword => cases keyword <;> rfl
    | _ => rfl

@[simp] theorem anyKeyword?_nil (words : List String) : anyKeyword? words [] = .ok (none, []) := rfl

@[simp] theorem anyKeyword?_keyword (words : List String) (text k : String) (quote : Option Char)
    (ts : List Token) :
    anyKeyword? words (.word text quote (some k) :: ts) =
      if words.contains k then .ok (some k, ts)
      else .ok (none, .word text quote (some k) :: ts) := rfl

@[simp] theorem anyKeyword?_name (words : List String) (text : String) (quote : Option Char)
    (ts : List Token) :
    anyKeyword? words (.word text quote none :: ts) = .ok (none, .word text quote none :: ts) := rfl

@[simp] theorem anyKeyword?_symbol (words : List String) (s : String) (ts : List Token) :
    anyKeyword? words (.symbol s :: ts) = .ok (none, .symbol s :: ts) := rfl

@[simp] theorem anyKeyword?_number (words : List String) (digits : String) (long : Bool)
    (ts : List Token) :
    anyKeyword? words (.number digits long :: ts) = .ok (none, .number digits long :: ts) := rfl

@[simp] theorem anyKeyword?_quotation (words : List String) (text : String) (form : TextForm)
    (ts : List Token) :
    anyKeyword? words (.quotation form text :: ts) =
      .ok (none, .quotation form text :: ts) := rfl

@[simp] theorem anyKeyword?_placeholder (words : List String) (name : String) (ts : List Token) :
    anyKeyword? words (.placeholder name :: ts) = .ok (none, .placeholder name :: ts) := rfl

theorem anyKeyword?_of_head? {words : List String} {ts : List Token}
    (h : ∀ k, ts.head?.bind keywordOf = some k → k ∉ words) :
    anyKeyword? words ts = .ok (none, ts) := by
  rw [anyKeyword?_apply]
  cases hk : ts.head?.bind keywordOf with
  | none => rfl
  | some k => simp [h k hk]

@[simp ↓] theorem keyword?_apply (word : String) (ts : List Token) :
    keyword? word ts = andThen (anyKeyword? [word] ts) fun found => pure found.isSome := rfl

@[simp] theorem symbol_symbol (s t : String) (ts : List Token) :
    symbol s (.symbol t :: ts) = if t = s then .ok ((), ts) else .error () := by
  by_cases h : t = s
  · simp [symbol, h]
  · simp [symbol, h]

@[simp] theorem keyword_keyword (word text k : String) (quote : Option Char) (ts : List Token) :
    keyword word (.word text quote (some k) :: ts) = if k = word then .ok ((), ts) else .error () := by
  by_cases h : k = word
  · simp [keyword, h]
  · simp [keyword, h]

end Parsing

open Parsing

/-! ### Ends of operands -/

/-- The symbols that go on with a name or a call. -/
def operandSymbols : List String := [".", "(", "[", "=>"]

/-- The words that go on with an operand. -/
def furtherWords : List String := ["COLLATE", "RESPECT", "IGNORE", "OVER"]

/-- Whether an operand ends before a token. -/
def Token.endsOperand : Token → Bool
  | .symbol s => !operandSymbols.contains s
  | .word _ _ (some k) => !furtherWords.contains k
  | _ => false

/-- An operand ends before some tokens. -/
def EndsOperand (rest : List Token) : Prop := ∀ t, rest.head? = some t → t.endsOperand = true

theorem EndsOperand.symbol? {rest : List Token} (h : EndsOperand rest) (s : String)
    (hs : s ∈ operandSymbols) : symbol? s rest = .ok (false, rest) := by
  apply symbol?_of_head?
  intro hhead
  have hends := h _ hhead
  simp only [Token.endsOperand, Bool.not_eq_true', List.contains_eq_mem,
    decide_eq_false_iff_not] at hends
  exact hends hs

theorem EndsOperand.anyKeyword? {rest : List Token} (h : EndsOperand rest) (words : List String)
    (hwords : ∀ w ∈ words, w ∈ furtherWords) :
    anyKeyword? words rest = .ok (none, rest) := by
  apply anyKeyword?_of_head?
  intro k hk hmem
  obtain ⟨t, ht, hkt⟩ := Option.bind_eq_some_iff.mp hk
  have hends := h t ht
  cases t with
  | word text quote keyword =>
    obtain rfl : keyword = some k := hkt
    simp only [Token.endsOperand, Bool.not_eq_true', List.contains_eq_mem,
      decide_eq_false_iff_not] at hends
    exact hends (hwords k hmem)
  | _ => cases hkt

theorem EndsOperand.head?_ne {rest : List Token} (h : EndsOperand rest) (t : Token)
    (ht : t.endsOperand = false) : rest.head? ≠ some t := by
  intro hhead
  rw [h t hhead] at ht
  cases ht

/-! ### Starts of operands -/

/-- The words that have a meaning of their own in the place of an operand. -/
def operandWords : List String :=
  ["ALL", "ANY", "DISTINCT", "ON", "TOP", "SELECT", "WITH", "UNNEST"]

/-- Whether an operand can start with a token. -/
def Token.startsOperand : Token → Bool
  | .word _ _ (some k) => !operandWords.contains k
  | .symbol _ => false
  | _ => true

/-- An operand starts with some tokens. -/
def StartsOperand (ts : List Token) : Prop := ∃ t, ts.head? = some t ∧ t.startsOperand = true

section

variable {ts : List Token} (h : StartsOperand ts)

include h

theorem StartsOperand.append (rest : List Token) : StartsOperand (ts ++ rest) := by
  obtain ⟨t, ht, hstart⟩ := h
  exact ⟨t, by rw [List.head?_append, ht]; rfl, hstart⟩

theorem StartsOperand.intercalate (mark : Token) (tss : List (List Token)) :
    StartsOperand ([mark].intercalate (ts :: tss)) := by
  cases tss with
  | nil => rwa [List.intercalate_singleton]
  | cons us tss =>
    rw [List.intercalate_cons_cons, List.append_assoc]
    exact h.append _

theorem StartsOperand.symbol? (s : String) : symbol? s ts = .ok (false, ts) := by
  apply symbol?_of_head?
  obtain ⟨t, ht, hstart⟩ := h
  rw [ht]
  intro heq
  rw [Option.some.inj heq] at hstart
  cases hstart

theorem StartsOperand.keyword_ne {words : List String}
    (hwords : ∀ w ∈ words, w ∈ operandWords)
    {k : String} (hk : ts.head?.bind keywordOf = some k) : k ∉ words := by
  intro hmem
  obtain ⟨t, ht, hstart⟩ := h
  rw [ht, Option.bind_some] at hk
  cases t with
  | word text quote keyword =>
    obtain rfl : keyword = some k := hk
    simp only [Token.startsOperand, Bool.not_eq_true', List.contains_eq_mem,
      decide_eq_false_iff_not] at hstart
    exact hstart (hwords k hmem)
  | _ => cases hk

theorem StartsOperand.anyKeyword? (words : List String)
    (hwords : ∀ w ∈ words, w ∈ operandWords) :
    anyKeyword? words ts = .ok (none, ts) :=
  anyKeyword?_of_head? fun _ hk => h.keyword_ne hwords hk

theorem StartsOperand.atKeyword (words : List String)
    (hwords : ∀ w ∈ words, w ∈ operandWords) :
    atKeyword words ts = .ok (false, ts) := by
  have hnone : (ts.head?.bind keywordOf).any words.contains = false := by
    cases hk : ts.head?.bind keywordOf with
    | none => rfl
    | some k => simpa using h.keyword_ne hwords hk
  simp only [Parsing.atKeyword, peekKeyword, bind_apply, peek_apply, andThen_ok, pure_apply]
  rw [hnone]

end

/-! ### Lists -/

section

variable {α : Type} {mark : String} {read : Parsing α} {R : List Token → α → Prop}
  {E : List Token → Prop}
  (hread : ∀ ts a, R ts a → ∀ rest, E rest → read (ts ++ rest) = .ok (a, rest))
  (hmark : ∀ us, E (.symbol mark :: us))

include hread hmark

theorem separatedUpTo_read {tss : List (List Token)} {as : List α} (h : List.Forall₂ R tss as)
    (hne : tss ≠ []) {rest : List Token} (hrest : E rest)
    (hstop : symbol? mark rest = .ok (false, rest)) {fuel : Nat} (hfuel : tss.length ≤ fuel) :
    separatedUpTo mark read fuel ([Token.symbol mark].intercalate tss ++ rest) =
      .ok (as, rest) := by
  induction h generalizing fuel with
  | nil => exact absurd rfl hne
  | @cons ts a tss as hfirst hothers ih =>
    obtain ⟨fuel, rfl⟩ := Nat.exists_eq_succ_of_ne_zero (Nat.ne_of_gt (Nat.lt_of_lt_of_le
      (Nat.succ_pos _) hfuel))
    cases hothers with
    | nil =>
      rw [List.intercalate_singleton]
      simp [separatedUpTo, hread ts a hfirst rest hrest, hstop]
    | @cons us b uss bs hnext hlast =>
      have hlist : [Token.symbol mark].intercalate (ts :: us :: uss) ++ rest =
          ts ++ .symbol mark :: ([Token.symbol mark].intercalate (us :: uss) ++ rest) := by
        simp [List.intercalate_cons_cons]
      rw [hlist, separatedUpTo, bind_apply, hread ts a hfirst _ (hmark _)]
      simp [ih (by simp) (Nat.le_of_succ_le_succ hfuel)]

/-- A list of items is read item by item. -/
theorem separated_read {tss : List (List Token)} {as : List α} (h : List.Forall₂ R tss as)
    (hne : tss ≠ []) {rest : List Token} (hrest : E rest)
    (hstop : symbol? mark rest = .ok (false, rest)) :
    separated mark read ([Token.symbol mark].intercalate tss ++ rest) = .ok (as, rest) := by
  rw [separated, bind_apply, get_apply, andThen_ok]
  apply separatedUpTo_read hread hmark h hne hrest hstop
  have hlen : ∀ {xss : List (List Token)},
      xss.length ≤ ([Token.symbol mark].intercalate xss).length + 1 := by
    intro xss
    induction xss with
    | nil => simp
    | cons xs xss ih =>
      cases xss with
      | nil => simp
      | cons ys yss =>
        rw [List.intercalate_cons_cons]
        simp only [List.length_append, List.length_cons, List.length_nil] at ih ⊢
        omega
  have h := @hlen tss
  simp only [List.length_append]
  omega

end

end ScopedQuery.Sql
