import ScopedQuery.Proofs.Sql.Reading.Condition
/-!
# Calls and casts read back

* `operand_call`: a call with arguments, all of them different if it says so.
* `operand_call_nil`: a call without arguments.
* `operand_cast`: a difference that is cast to an integer.
-/

namespace ScopedQuery.Sql

open Parsing

/-! ### What is no size of a type -/

/-- Whether some tokens cannot stand in the parentheses of a type. -/
def isUntyped : List Token → Bool
  | .word _ none _ :: ts => isUntyped ts
  | .symbol s :: ts => s = "." || s = "(" || (s = "," && isUntyped ts)
  | _ => false

theorem repeatedUpTo_typeModifier? {ts : List Token} (h : isUntyped ts = true) (fuel : Nat)
    (rest : List Token) : repeatedUpTo typeModifier? fuel (ts ++ rest) = .error () := by
  induction ts generalizing fuel with
  | nil => cases h
  | cons t ts ih =>
    cases fuel with
    | zero => rfl
    | succ fuel =>
      cases t with
      | word text quote keyword =>
        cases quote with
        | none =>
          have hword : typeModifier? (.word text none keyword :: (ts ++ rest)) =
              .ok (some (some text), ts ++ rest) := rfl
          simp [repeatedUpTo, hword, ih h]
        | some mark => cases h
      | symbol s =>
        simp only [isUntyped, Bool.or_eq_true, Bool.and_eq_true, decide_eq_true_eq] at h
        rcases h with (rfl | rfl) | ⟨rfl, hrest⟩
        · simp [repeatedUpTo, typeModifier?]
        · simp [repeatedUpTo, typeModifier?]
        · have hcomma : typeModifier? (.symbol "," :: (ts ++ rest)) = .ok (some none, ts ++ rest) := rfl
          simp [repeatedUpTo, hcomma, ih hrest]
      | _ => cases h

theorem customType_untyped (text : String) (keyword : Option String) {ts : List Token}
    (h : isUntyped ts = true) (rest : List Token) :
    customType (.word text none keyword :: .symbol "(" :: (ts ++ rest)) = .error () := by
  simp [customType, objectName, separated, separatedUpTo, ident, repeated,
    repeatedUpTo_typeModifier? h]

/-! ### Calls -/

theorem argument_read {depth : Nat} {g : Grammar} (hg : g.Nests (depth + 1)) {ts : List Token}
    {e : Expr} (h : Operand depth ts e) {rest : List Token} (hrest : EndsExpr rest) :
    argument g (ts ++ rest) = .ok (.expr none e, rest) := by
  have hread := h.expr_read hg hrest
  simp [argument, starOrExpr, h.unnamed rest hrest.operand, h.star rest hrest.operand, hread]

/-- The keywords that are taken for names of functions. -/
def functionWords : List String := ["COUNT", "SUM", "AVG", "MIN", "MAX"]

/-- Whether a word names a function and nothing else. -/
def isFunctionWord (keyword : Option String) : Bool := keyword.all functionWords.contains

theorem isPlainWord_of_isFunctionWord {keyword : Option String} (text : String)
    (h : isFunctionWord keyword = true) :
    (Token.word text none keyword).isPlainWord = true ∧
      (Token.word text none keyword).startsOperand = true := by
  have hall : ∀ k ∈ functionWords, k ∉ typeWords ∧ k ∉ operandWords := by decide
  cases keyword with
  | none => exact ⟨rfl, rfl⟩
  | some k =>
    have hk := hall k (by simpa [isFunctionWord] using h)
    simpa [Token.isPlainWord, Token.startsOperand] using hk

theorem startingWithWord_call {keyword : Option String} (h : isFunctionWord keyword = true)
    (g : Grammar) (name : Ident) (ts : List Token) :
    startingWithWord g name keyword (.symbol "(" :: ts) = call g [name] (.symbol "(" :: ts) := by
  cases keyword with
  | none => simp [startingWithWord, named]
  | some k =>
    have hk : k ∈ functionWords := by simpa [isFunctionWord] using h
    simp only [functionWords, List.mem_cons, List.not_mem_nil, or_false] at hk
    rcases hk with rfl | rfl | rfl | rfl | rfl
    · simp [startingWithWord, named]
    · simp [startingWithWord, named]
    · simp [startingWithWord, named]
    · simp [startingWithWord, named]
    · simp [startingWithWord, named]

theorem endsExpr_symbol {s : String} (hs : s ∈ [",", ")"]) (ts : List Token) :
    EndsExpr (.symbol s :: ts) := by
  simp only [List.mem_cons, List.not_mem_nil, or_false] at hs
  rcases hs with rfl | rfl
  · exact ⟨endsOperand_cons rfl _, by simp [bindingPower, symbolPowers, List.lookup_cons]⟩
  · exact ⟨endsOperand_cons rfl _, by simp [bindingPower, symbolPowers, List.lookup_cons]⟩

/-- The word before arguments that all have to be different. -/
def distinctTokens (distinct : Bool) : List Token :=
  if distinct then [.reserved "DISTINCT"] else []

/-- The tokens of a call. -/
def callTokens (t : Token) (distinct : Bool) (tss : List (List Token)) : List Token :=
  t :: .symbol "(" ::
    (distinctTokens distinct ++ [Token.symbol ","].intercalate tss ++ [.symbol ")"])

section

variable {depth : Nat} {tss : List (List Token)} {es : List Expr}
  (hargs : List.Forall₂ (Operand depth) tss es) (hne : tss ≠ [])

include hargs hne

theorem startsOperand_args : StartsOperand ([Token.symbol ","].intercalate tss) := by
  cases hargs with
  | nil => exact absurd rfl hne
  | cons hfirst _ => exact hfirst.start.intercalate _ _

theorem call_read {g : Grammar} (hg : g.Nests (depth + 1)) (name : Ident) (distinct : Bool)
    {rest : List Token} (hrest : EndsOperand rest) :
    call g [name] (.symbol "(" :: (distinctTokens distinct ++
      [Token.symbol ","].intercalate tss ++ .symbol ")" :: rest)) =
        .ok (.call [name] distinct (es.map (.expr none)) "" none [], rest) := by
  have hstart := startsOperand_args hargs hne
  have hitems : commaList (argument g)
      ([Token.symbol ","].intercalate tss ++ .symbol ")" :: rest) =
        .ok (es.map (.expr none), .symbol ")" :: rest) := by
    refine separated_read (R := fun ts item => ∃ e, Operand depth ts e ∧ item = .expr none e)
      ?_ (endsExpr_symbol (by simp)) ?_ hne (endsExpr_symbol (by simp) _) rfl
    · intro ts item h rest hrest
      obtain ⟨e, he, rfl⟩ := h
      exact argument_read hg he hrest
    · rw [List.forall₂_map_right_iff]
      exact hargs.imp fun ts e h => ⟨e, h, rfl⟩
  have hmore := hstart.append (.symbol ")" :: rest)
  have hall := hmore.anyKeyword? ["ALL"] (by decide)
  have hdistinct := hmore.anyKeyword? ["DISTINCT"] (by decide)
  have hclose := hmore.symbol? ")"
  have htreatment := hrest.anyKeyword? ["RESPECT", "IGNORE"] (by decide)
  have hover := hrest.anyKeyword? ["OVER"] (by decide)
  have hend : orderedArgumentsToEnd g
      ([Token.symbol ","].intercalate tss ++ .symbol ")" :: rest) =
        .ok ((es.map (.expr none), []), rest) := by
    simp [orderedArgumentsToEnd, hclose, hitems, listBehind, keywords?, afterKeywords?]
  cases distinct with
  | false =>
    simp [call, distinctTokens, Sql.distinctness, hall, hdistinct, hend, htreatment, behind?, hover]
  | true =>
    have hon := hmore.anyKeyword? ["ON"] (by decide)
    simp [call, distinctTokens, Sql.distinctness, Token.reserved, hend, htreatment, behind?, hover,
      hon]

/-- A call is an operand unless its parentheses are taken for those of a type. -/
theorem operand_call {text : String} {keyword : Option String}
    (hword : isFunctionWord keyword = true) (distinct : Bool)
    (htype : ∀ rest, EndsOperand rest →
      Unbracketed (callTokens (.word text none keyword) distinct tss ++ rest)) :
    Operand (depth + 1) (callTokens (.word text none keyword) distinct tss)
      (.call [⟨text, none⟩] distinct (es.map (.expr none)) "" none []) := by
  have htokens : ∀ rest, callTokens (.word text none keyword) distinct tss ++ rest =
      .word text none keyword :: .symbol "(" :: (distinctTokens distinct ++
        [Token.symbol ","].intercalate tss ++ .symbol ")" :: rest) := by
    intro rest
    simp [callTokens]
  obtain ⟨hplain, hstarts⟩ := isPlainWord_of_isFunctionWord text hword
  refine ⟨?_, ?_, ?_, ⟨.word text none keyword, rfl, hstarts⟩⟩
  · intro g hg rest hrest
    have htype' := htype rest hrest
    rw [htokens] at htype' ⊢
    refine operand_eq (typedLiteral_of_word hplain htype' g) ?_ hrest
    rw [plainOperand, bind_apply, get_apply, andThen_ok, bind_apply, next_cons,
      andThen_ok]
    exact (startingWithWord_call hword g ⟨text, none⟩ _).trans
      (call_read hargs hne hg ⟨text, none⟩ distinct hrest)
  · intro rest _
    rw [htokens]
    simp [star?]
  · intro rest _
    rw [htokens]
    simp

theorem operand_call_of_untyped {text : String} {keyword : Option String}
    (hword : isFunctionWord keyword = true) (distinct : Bool)
    (hargs' : isUntyped ([Token.symbol ","].intercalate tss) = true) :
    Operand (depth + 1) (callTokens (.word text none keyword) distinct tss)
      (.call [⟨text, none⟩] distinct (es.map (.expr none)) "" none []) := by
  apply operand_call hargs hne hword distinct
  intro rest _
  have hlist : isUntyped (distinctTokens distinct ++ [Token.symbol ","].intercalate tss) = true := by
    cases distinct with
    | false => exact hargs'
    | true => exact hargs'
  have hnone := customType_untyped text keyword hlist (.symbol ")" :: rest)
  have htokens : callTokens (.word text none keyword) distinct tss ++ rest =
      .word text none keyword :: .symbol "(" :: (distinctTokens distinct ++
        [Token.symbol ","].intercalate tss ++ .symbol ")" :: rest) := by
    simp [callTokens]
  rw [htokens]
  exact .inl hnone

end

/-- A call without arguments, which as a type would end with its parentheses. -/
theorem operand_call_nil {text : String} {keyword : Option String}
    (hword : isFunctionWord keyword = true) :
    Operand 0 (callTokens (.word text none keyword) false [])
      (.call [⟨text, none⟩] false [] "" none []) := by
  obtain ⟨hplain, hstarts⟩ := isPlainWord_of_isFunctionWord text hword
  have htokens : ∀ rest, callTokens (.word text none keyword) false [] ++ rest =
      .word text none keyword :: .symbol "(" :: .symbol ")" :: rest := by
    intro rest
    simp [callTokens, distinctTokens]
  refine ⟨?_, ?_, ?_, ⟨.word text none keyword, rfl, hstarts⟩⟩
  · intro g _ rest hrest
    have hbracket := hrest.symbol? "[" (by decide)
    have htreatment := hrest.anyKeyword? ["RESPECT", "IGNORE"] (by decide)
    have hover := hrest.anyKeyword? ["OVER"] (by decide)
    rw [htokens]
    have hcustom : customType (.word text none keyword :: .symbol "(" :: .symbol ")" :: rest) =
        .ok (ObjectName.written [⟨text, none⟩], rest) := by
      simp [customType, objectName, separated, separatedUpTo, ident, repeated, repeatedUpTo,
        typeModifier?]
    refine operand_eq (typedLiteral_of_word hplain (.inr ⟨_, rest, hcustom, hbracket⟩) g) ?_ hrest
    rw [plainOperand, bind_apply, get_apply, andThen_ok, bind_apply, next_cons, andThen_ok]
    refine (startingWithWord_call hword g ⟨text, none⟩ _).trans ?_
    simp [call, Sql.distinctness, orderedArgumentsToEnd, htreatment, behind?, hover]
  · intro rest _
    rw [htokens]
    simp [star?]
  · intro rest _
    rw [htokens]
    simp

/-! ### Casts -/

theorem typeName_integer (rest : List Token) :
    typeName (.reserved "INTEGER" :: .symbol ")" :: rest) =
      .ok (.standard "INTEGER", .symbol ")" :: rest) := rfl

/-- The tokens of a cast to an integer. -/
def castTokens (ts : List Token) : List Token :=
  .reserved "CAST" :: .symbol "(" :: (ts ++ [.reserved "AS", .reserved "INTEGER", .symbol ")"])

/-- An operation that is cast to an integer. -/
theorem operand_cast {power depth : Nat} {ts : List Token} {e : Expr} (hpos : 0 < power)
    (h : Operation power depth ts e) (huntyped : isUntyped ts = true) :
    Operand (depth + 1) (castTokens ts) (.cast .cast e (.standard "INTEGER")) := by
  have htokens : ∀ rest, castTokens ts ++ rest =
      .reserved "CAST" :: .symbol "(" ::
        (ts ++ .reserved "AS" :: .reserved "INTEGER" :: .symbol ")" :: rest) := by
    intro rest
    simp [castTokens]
  refine ⟨?_, ?_, ?_, ⟨.reserved "CAST", rfl, by decide⟩⟩
  · intro g hg rest hrest
    obtain ⟨inner, hinner, hexpr⟩ := hg
    have hends : EndsExpr (.reserved "AS" :: .reserved "INTEGER" :: .symbol ")" :: rest) :=
      ⟨endsOperand_cons rfl _, rfl⟩
    have hread := h.expression hinner hpos hends
    rw [← hexpr] at hread
    have hinteger := typeName_integer rest
    rw [htokens]
    have hcustom := customType_untyped "CAST" (some "CAST") huntyped
      (.reserved "AS" :: .reserved "INTEGER" :: .symbol ")" :: rest)
    refine operand_eq (typedLiteral_of_word (by decide) (.inl hcustom) g) ?_ hrest
    simp only [Token.reserved] at hread hinteger ⊢
    simp [plainOperand, startingWithWord, castExpr, parenthesised, hread, hinteger]
  · intro rest _
    rw [htokens]
    simp [star?, Token.reserved]
  · intro rest _
    rw [htokens]
    simp

end ScopedQuery.Sql
