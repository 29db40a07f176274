import ScopedQuery.Proofs.Sql.Reading.Steps
/-!
# Operands read back
-/

namespace ScopedQuery.Sql

open Parsing

/-! ### What is no literal with a type -/

/-- The words that start a type of the language. -/
def typeWords : List String :=
  plainTypes ++ sizedTypes ++ integerTypes ++ exactTypes ++
    ["DOUBLE", "VARCHAR", "CHARACTER", "CHAR", "TIMESTAMP", "TIME", "TIMESTAMPTZ", "TIMETZ", "ENUM",
     "SET", "INTERVAL", "ARRAY"]

/-- Whether a token is a word that starts no type of the language. -/
def Token.isPlainWord : Token → Bool
  | .word _ _ keyword => keyword.all fun k => !typeWords.contains k
  | _ => false

/-- Some tokens start at most with the name of a custom type, behind which no bracket stands. -/
def Unbracketed (ts : List Token) : Prop :=
  customType ts = .error () ∨
    ∃ name rest, customType ts = .ok (name, rest) ∧ symbol? "[" rest = .ok (false, rest)

section

variable {t : Token} {ts : List Token} (ht : t.isPlainWord = true) (hcustom : Unbracketed (t :: ts))

include ht hcustom

theorem nestedTypeName_of_word (fuel : Nat) :
    nestedTypeName (fuel + 1) (t :: ts) =
      (customType (t :: ts)).map fun read => ((.custom read.1, false), read.2) := by
  have hread : ∀ text quote keyword, t = .word text quote keyword →
      (∀ k, keyword = some k → k ∉ typeWords) →
      nestedTypeName (fuel + 1) (t :: ts) =
        (customType (t :: ts)).map fun read => ((.custom read.1, false), read.2) := by
    intro text quote keyword hword hk
    obtain hc | ⟨name, rest, hc, hbracket⟩ := hcustom
    · rw [hword] at hc
      cases keyword with
      | none => simp [nestedTypeName, hword, hc, Attempt.map]
      | some k =>
        have hk' := hk k rfl
        simp only [typeWords, List.mem_append, not_or, List.mem_cons] at hk'
        simp [nestedTypeName, hword, hc, hk', Attempt.map]
    · rw [hword] at hc
      cases keyword with
      | none => simp [nestedTypeName, hword, hc, repeated, repeatedUpTo, hbracket, Attempt.map]
      | some k =>
        have hk' := hk k rfl
        simp only [typeWords, List.mem_append, not_or, List.mem_cons] at hk'
        simp [nestedTypeName, hword, hc, hk', repeated, repeatedUpTo, hbracket, Attempt.map]
  cases t with
  | word text quote keyword =>
    refine hread text quote keyword rfl fun k hk => ?_
    rw [hk] at ht
    simpa [Token.isPlainWord] using ht
  | _ => cases ht

/-- A word that starts no type is at most the name of a custom type, behind which no literal stands. -/
theorem typedLiteral_of_word (g : Grammar) : typedLiteral g (t :: ts) = .error () := by
  rw [typedLiteral, bind_apply, typeName]
  simp only [bind_apply, get_apply, andThen_ok, nestedTypeName_of_word ht hcustom]
  obtain hc | ⟨name, rest, hc, -⟩ := hcustom
  · rw [hc]
    rfl
  · rw [hc]
    rfl

end

/-- No literal with a type starts with a token that is no word. -/
theorem typedLiteral_of_no_word {t : Token} (ht : ∀ text quote keyword, t ≠ .word text quote keyword)
    (g : Grammar) (ts : List Token) : typedLiteral g (t :: ts) = .error () := by
  cases t with
  | word text quote keyword => exact absurd rfl (ht text quote keyword)
  | _ => rfl

/-- Behind an operand that is not taken for a literal with a type, no collation stands. -/
theorem operand_eq {g : Grammar} {ts rest : List Token} {e : Expr}
    (htyped : typedLiteral g ts = .error ()) (hplain : plainOperand g ts = .ok (e, rest))
    (hrest : EndsOperand rest) : operand g ts = .ok (e, rest) := by
  have hcollate := hrest.anyKeyword? ["COLLATE"] (by decide)
  simp [operand, maybe, htyped, hplain, hcollate]

/-! ### Operands -/

/-- Expressions can nest in a grammar's expressions to a depth. -/
def Grammar.Nests : Nat → Grammar → Prop
  | 0, _ => True
  | n + 1, g => ∃ h : Grammar, h.Nests n ∧ g.expr = expression h

/-- Tokens that are read as an operand, in which expressions nest to at most a depth. -/
structure Operand (depth : Nat) (ts : List Token) (e : Expr) : Prop where
  read : ∀ g : Grammar, g.Nests depth → ∀ rest, EndsOperand rest →
    operand g (ts ++ rest) = .ok (e, rest)
  star : ∀ rest, EndsOperand rest → star? (ts ++ rest) = .ok (none, ts ++ rest)
  unnamed : ∀ rest, EndsOperand rest → (ts ++ rest)[1]? ≠ some (.symbol "=>")
  start : StartsOperand ts

def Token.name (text : String) : Token := .word text none none

def Token.reserved (text : String) : Token := .word text none (some text)

/-- A column of a source. -/
def Expr.column (source column : String) : Expr := .name [⟨source, none⟩, ⟨column, none⟩]

theorem objectName_column (source column : String) {rest : List Token}
    (h : symbol? "." rest = .ok (false, rest)) :
    objectName (.name source :: .symbol "." :: .name column :: rest) =
      .ok ([⟨source, none⟩, ⟨column, none⟩], rest) := by
  simp [objectName, separated, separatedUpTo, ident, Token.name, h]

theorem operand_column (source column : String) :
    Operand 0 [.name source, .symbol ".", .name column] (.column source column) := by
  refine ⟨?_, ?_, ?_, ⟨_, rfl, rfl⟩⟩
  · intro g _ rest h
    have hpoint := h.symbol? "." (by decide)
    have hopen := h.symbol? "(" (by decide)
    have hopen' := h.head?_ne (.symbol "(") rfl
    have hbracket := h.symbol? "[" (by decide)
    have hcustom : customType (.name source :: .symbol "." :: .name column :: rest) =
        .ok (ObjectName.written [⟨source, none⟩, ⟨column, none⟩], rest) := by
      simp [customType, objectName_column source column hpoint, hopen]
    refine operand_eq (typedLiteral_of_word rfl (.inr ⟨_, rest, hcustom, hbracket⟩) g) ?_ h
    change named g ⟨source, none⟩ (.symbol "." :: .name column :: rest) = _
    simp [named, nameParts, namePart, hpoint, hopen', Token.name, Expr.column]
  · intro rest h
    have hpoint := h.symbol? "." (by decide)
    simp [star?, star?.qualified, starBehind?, namePart, Token.name, hpoint]
  · intro rest h
    simp

/-- A token that an operand can consist of is no star, and none stands behind it. -/
theorem star?_of_endsOperand {t : Token} (ht : t.startsOperand = true) {rest : List Token}
    (h : EndsOperand rest) : star? (t :: rest) = .ok (none, t :: rest) := by
  have hstart : StartsOperand (t :: rest) := ⟨t, rfl, ht⟩
  have hsecond : (t :: rest)[1]? ≠ some (.symbol ".") := by
    rw [List.getElem?_cons_succ, ← List.head?_eq_getElem?]
    exact h.head?_ne (.symbol ".") rfl
  rw [star?, bind_apply, hstart.symbol?]
  simp only [andThen_ok, Bool.false_eq_true, if_false, bind_apply, peek_apply, peekSecond_apply]
  generalize (t :: rest)[1]? = second at hsecond
  generalize (t :: rest).head? = first
  split
  · exact absurd rfl hsecond
  · exact absurd rfl hsecond
  · rfl

/-- What can stand behind an operand does not go on with a name. -/
theorem named_of_endsOperand {rest : List Token} (h : EndsOperand rest) (g : Grammar) (name : Ident) :
    named g name rest = .ok (.name [name], rest) := by
  cases rest with
  | nil => rfl
  | cons t rest =>
    have ht := h t rfl
    cases t with
    | symbol s =>
      have hpoint : s ≠ "." := by rintro rfl; cases ht
      have hopen : s ≠ "(" := by rintro rfl; cases ht
      simp [named, hpoint, hopen]
    | word text quote keyword => rfl
    | _ => cases ht

/-- The unit of a length of time, which is read as a name. -/
theorem operand_day : Operand 0 [.reserved "DAY"] (.name [⟨"DAY", none⟩]) := by
  refine ⟨?_, ?_, ?_, ⟨_, rfl, by decide⟩⟩
  · intro g _ rest h
    have hpoint := h.symbol? "." (by decide)
    have hopen := h.symbol? "(" (by decide)
    have hbracket := h.symbol? "[" (by decide)
    have hname := named_of_endsOperand h g ⟨"DAY", none⟩
    have hcustom : customType (.reserved "DAY" :: rest) =
        .ok (ObjectName.written [⟨"DAY", none⟩], rest) := by
      simp [customType, objectName, separated, separatedUpTo, ident, Token.reserved, hpoint, hopen]
    exact operand_eq (typedLiteral_of_word (by decide) (.inr ⟨_, rest, hcustom, hbracket⟩) g) hname h
  · intro rest h
    exact star?_of_endsOperand (by decide) h
  · intro rest h
    have hhead := h.head?_ne (.symbol "=>") rfl
    simpa [List.head?_eq_getElem?] using hhead

/-- A token that is no word stands for a literal by itself. -/
theorem Operand.of_literal {t : Token} {value : Literal} (hstart : t.startsOperand = true)
    (hword : ∀ text quote keyword, t ≠ .word text quote keyword)
    (hplain : ∀ (g : Grammar) rest, plainOperand g (t :: rest) = .ok (.literal value, rest)) :
    Operand 0 [t] (.literal value) := by
  refine ⟨?_, fun _ h => star?_of_endsOperand hstart h, ?_, ⟨t, rfl, hstart⟩⟩
  · intro g _ rest h
    exact operand_eq (typedLiteral_of_no_word hword g rest) (hplain g rest) h
  · intro rest h
    have hhead := h.head?_ne (.symbol "=>") rfl
    simpa [List.head?_eq_getElem?] using hhead

theorem operand_placeholder (name : String) :
    Operand 0 [.placeholder name] (.literal (.placeholder name)) :=
  Operand.of_literal rfl nofun fun _ _ => rfl

theorem operand_number (digits : String) (long : Bool) :
    Operand 0 [.number digits long] (.literal (.number digits long)) :=
  Operand.of_literal rfl nofun fun _ _ => rfl

theorem operand_quotation (text : String) :
    Operand 0 [.quotation .single text] (.literal (.text .single text)) :=
  Operand.of_literal rfl nofun fun _ _ => rfl

/-! ### Expressions of operands -/

/-- The readers at which an operand is read that `fuel` others can start inside of. -/
def Grammar.level (g : Grammar) (fuel : Nat) : Grammar := { g with tight := expressionAt g fuel }

theorem Grammar.Nests.level {g : Grammar} {depth : Nat} (h : g.Nests depth) (fuel : Nat) :
    (g.level fuel).Nests depth := by
  cases depth with
  | zero => trivial
  | succ n => exact h

theorem Grammar.Nests.mono {g : Grammar} {m n : Nat} (h : g.Nests n) (hmn : m ≤ n) :
    g.Nests m := by
  induction m generalizing g n with
  | zero => trivial
  | succ m ih =>
    obtain ⟨n, rfl⟩ := Nat.exists_eq_succ_of_ne_zero (Nat.ne_of_gt (Nat.lt_of_lt_of_le
      (Nat.succ_pos m) hmn))
    obtain ⟨inner, hinner, hexpr⟩ := h
    exact ⟨inner, ih hinner (Nat.le_of_succ_le_succ hmn), hexpr⟩

/-- An operand can stand where expressions may nest to a greater depth. -/
theorem Operand.mono {m n : Nat} {ts : List Token} {e : Expr} (h : Operand m ts e) (hmn : m ≤ n) :
    Operand n ts e :=
  ⟨fun g hg => h.read g (hg.mono hmn), h.star, h.unnamed, h.start⟩

theorem Grammar.nested_nests (n : Nat) : (Grammar.nested n).Nests n := by
  induction n with
  | zero => trivial
  | succ n ih => exact ⟨Grammar.nested n, ih, rfl⟩

/-- No operator that binds more tightly goes on with what has been read. -/
theorem continuations_end {g : Grammar} {floor k : Nat} {e : Expr} {rest : List Token}
    (hk : 0 < k) (hpower : bindingPower true rest ≤ floor) :
    continuations g true floor k e rest = .ok (e, rest) := by
  obtain ⟨k, rfl⟩ := Nat.exists_eq_succ_of_ne_zero (Nat.ne_of_gt hk)
  simp [continuations, hpower]

section

variable {g : Grammar} {depth : Nat} {ts rest : List Token} {e : Expr}

theorem Operand.expressionAt (h : Operand depth ts e) (hg : g.Nests depth)
    (hrest : EndsOperand rest) (fuel floor : Nat) :
    expressionAt g (fuel + 1) true floor (ts ++ rest) =
      continuations (g.level fuel) true floor (rest.length + 1) e rest := by
  have hlevel : ({ g with tight := Sql.expressionAt g fuel } : Grammar) = g.level fuel := rfl
  rw [Sql.expressionAt, hlevel, bind_apply, h.read (g.level fuel) (hg.level fuel) rest hrest]
  rfl

/-- An operand can stand for a whole expression. -/
theorem Operand.expression (h : Operand depth ts e) (hg : g.Nests depth)
    (hrest : EndsOperand rest) (hpower : bindingPower true rest = 0) :
    expression g (ts ++ rest) = .ok (e, rest) := by
  rw [Sql.expression, bind_apply, get_apply, andThen_ok, h.expressionAt hg hrest]
  exact continuations_end (Nat.succ_pos _) (Nat.le_of_eq hpower)

end

end ScopedQuery.Sql
