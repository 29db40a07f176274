import ScopedQuery.Proofs.Sql.Phrase
/-!
# Measures, conditions and sort keys as tokens

What a field's expression is written into, given that the expression itself is read as an operand.

* `Sql.ExprText.Read text x`: a text is read as the operand `x`, in which nothing is taken for a type.
* `Aggregation.call`, `Predicate.condition` and `SortText` are read from `Aggregation.wrap`,
  `Predicate.sql` and the text of a sort key.
-/

namespace ScopedQuery

open Sql

namespace Sql.ExprText

/-- A text is read as an operand that cannot stand in the parentheses of a type. -/
structure Read (depth : Nat) (text : String) (x : ExprText) : Prop where
  writes : Writes text x.tokens
  operand : Operand depth x.tokens x.tree
  untyped : isUntyped x.tokens = true

/-- The placeholder of a parameter. -/
def hole : ExprText := ⟨[.placeholder "?"], .literal (.placeholder "?")⟩

theorem writes_hole : Writes "?" hole.tokens :=
  Writes.phrase [.hole] (by decide) (by decide) rfl

theorem operand_hole (depth : Nat) : Operand depth hole.tokens hole.tree :=
  (operand_placeholder "?").mono (Nat.zero_le depth)

/-- A text is read in one way only. -/
theorem Read.unique {depth : Nat} {text : String} {x y : ExprText} (hx : x.Read depth text)
    (hy : y.Read depth text) : x = y := by
  have htokens := hx.writes.unique hy.writes
  have hx' := hx.operand.read (.nested depth) (Grammar.nested_nests depth) [] (fun t h => by cases h)
  have hy' := hy.operand.read (.nested depth) (Grammar.nested_nests depth) [] (fun t h => by cases h)
  rw [htokens, hy', Attempt.ok.injEq, Prod.mk.injEq] at hx'
  cases x with
  | mk ts e =>
    cases y with
    | mk us f =>
      obtain rfl : ts = us := htokens
      obtain rfl : f = e := hx'.1
      rfl

end Sql.ExprText

open Sql.ExprText (hole)

/-! ### Measures -/

namespace Aggregation

/-- The name of the function that aggregates. -/
def function : Aggregation → String
  | countDistinct => "COUNT"
  | agg => agg.code

def isDistinct : Aggregation → Bool
  | countDistinct => true
  | _ => false

/-- The call that aggregates an expression. -/
def call (agg : Aggregation) (x : ExprText) : ExprText where
  tokens := callTokens (.reserved agg.function) agg.isDistinct [x.tokens]
  tree := .call [⟨agg.function, none⟩] agg.isDistinct [.expr none x.tree] "" none []

variable {depth : Nat} {text : String} {x : ExprText} (h : x.Read depth text)

include h

theorem operand_call (agg : Aggregation) :
    Operand (depth + 1) (agg.call x).tokens (agg.call x).tree := by
  have hargs : List.Forall₂ (Operand depth) [x.tokens] [x.tree] := .cons h.operand .nil
  have huntyped : isUntyped ([Token.symbol ","].intercalate [x.tokens]) = true := by
    rw [List.intercalate_singleton]
    exact h.untyped
  cases agg with
  | _ => exact operand_call_of_untyped hargs (by simp) rfl _ huntyped

theorem writes_call (agg : Aggregation) : Writes (agg.wrap text) (agg.call x).tokens := by
  have harg := h.writes.closed
  have hcall : ∀ w : String, knownWord? w = some (.reserved w) → Lexeme.isWord w.toList = true →
      Writes (w ++ "(" ++ text ++ ")") (callTokens (.reserved w) false [x.tokens]) := by
    intro w hknown hword
    have hfit : ∀ next, Lexeme.fit next [.word w, .mark "("] = true := by
      intro next
      rw [Lexeme.fit, Lexeme.fits, hword]
      rfl
    have hfront := harg.behind [.word w, .mark "("] rfl hfit
      (show Lexeme.known? [.word w, .mark "("] = some [.reserved w, .symbol "("] by
        simp [Lexeme.known?, hknown, Lexeme.token?])
    simpa [Lexeme.spelled, Lexeme.spelling, callTokens, distinctTokens, String.append_assoc]
      using hfront
  cases agg with
  | countDistinct =>
    have hfront : Writes ("COUNT(DISTINCT " ++ (text ++ ")"))
        ([.reserved "COUNT", .symbol "(", .reserved "DISTINCT"] ++ (x.tokens ++ [.symbol ")"])) :=
      harg.behind [.word "COUNT", .mark "(", .word "DISTINCT", .space] rfl (fun _ => rfl) rfl
    have htext : wrap countDistinct text = "COUNT(DISTINCT " ++ text ++ ")" := rfl
    rw [htext, String.append_assoc]
    simpa [call, callTokens, distinctTokens, isDistinct, function] using hfront
  | count => exact hcall "COUNT" rfl (by decide)
  | sum => exact hcall "SUM" rfl (by decide)
  | avg => exact hcall "AVG" rfl (by decide)
  | min => exact hcall "MIN" rfl (by decide)
  | max => exact hcall "MAX" rfl (by decide)

end Aggregation

/-! ### Conditions -/

/-- The text of a predicate of an expression, with `mark` in the places of its operands. -/
def Predicate.textWith (mark text : String) : Predicate → String
  | compare op _ => text ++ " " ++ op.sql ++ " " ++ mark
  | oneOf values =>
    text ++ " IN (" ++ String.intercalate "," (List.replicate values.length mark) ++ ")"
  | between _ _ => text ++ " BETWEEN " ++ mark ++ " AND " ++ mark

/-- The condition that a predicate makes of an expression, with what stands in the places of its
operands. -/
def Predicate.condition (p : Predicate) (x value : ExprText) : ExprText :=
  match p with
  | compare op _ =>
    ⟨x.tokens ++ .symbol op.sql :: value.tokens, .binary op.tree x.tree value.tree⟩
  | oneOf values =>
    ⟨x.tokens ++ .reserved "IN" :: .symbol "(" ::
        ([Token.symbol ","].intercalate (values.map fun _ => value.tokens) ++ [.symbol ")"]),
      .inList false x.tree (values.map fun _ => value.tree)⟩
  | between _ _ =>
    ⟨x.tokens ++ .reserved "BETWEEN" :: (value.tokens ++ .reserved "AND" :: value.tokens),
      .between false x.tree value.tree value.tree⟩

namespace Predicate

variable {depth : Nat} {text : String} {x value : ExprText}

theorem operation_condition (hx : Operand (depth + 1) x.tokens x.tree)
    (hvalue : Operand depth value.tokens value.tree) {p : Predicate} (hp : p ≠ .oneOf []) :
    Operation 20 (depth + 1) (p.condition x value).tokens (p.condition x value).tree := by
  have hvalue' := hvalue.mono (Nat.le_succ depth)
  cases p with
  | compare op _ => exact operation_compare op hx hvalue'
  | oneOf values =>
    refine operation_inList hx ?_ ?_
    · rw [List.forall₂_map_left_iff, List.forall₂_map_right_iff, List.forall₂_same]
      exact fun _ _ => hvalue
    · intro hnil
      rw [List.map_eq_nil_iff.mp hnil] at hp
      exact hp rfl
  | between _ _ => exact operation_between hx hvalue' hvalue'

theorem sql_eq (text : String) (p : Predicate) : p.sql text = p.textWith "?" text := by
  cases p with
  | compare op _ =>
    simp only [sql, textWith, String.append_assoc]
    rfl
  | oneOf values => rfl
  | between _ _ =>
    simp only [sql, textWith, String.append_assoc]
    rfl

theorem writes_textWith {mark : String} (h : Writes text x.tokens) (hmark : Writes mark value.tokens)
    (p : Predicate) : Writes (p.textWith mark text) (p.condition x value).tokens := by
  cases p with
  | compare op _ =>
    have hcompare : ∀ s : String, (∀ next, Lexeme.fit next [.space, .mark s, .space] = true) →
        Writes (text ++ " " ++ s ++ " " ++ mark) (x.tokens ++ .symbol s :: value.tokens) := by
      intro s hfit
      have hbetween := Writes.between [.space, .mark s, .space] rfl hfit (by simp [Lexeme.spelled,
        Lexeme.spelling]) rfl h hmark
      have htext : text ++ " " ++ s ++ " " ++ mark =
          text ++ (Lexeme.spelled [.space, .mark s, .space] ++ mark) := by
        simp [Lexeme.spelled, Lexeme.spelling, String.append_assoc]
      rw [htext]
      exact hbetween
    cases op with
    | _ => exact hcompare _ fun _ => rfl
  | oneOf values =>
    have hmarks : List.Forall₂ Writes (List.replicate values.length mark)
        (List.replicate values.length value.tokens) := by
      rw [List.forall₂_iff_get]
      simp [hmark]
    have hlist : Writes (String.intercalate "," (List.replicate values.length mark))
        ([Token.symbol ","].intercalate (List.replicate values.length value.tokens)) :=
      Writes.joined [.mark ","] rfl (fun _ => rfl) (by decide) rfl hmarks
    have hbetween : Writes (text ++ (" IN (" ++
          (String.intercalate "," (List.replicate values.length mark) ++ ")")))
        (x.tokens ++ ([.reserved "IN", .symbol "("] ++ ([Token.symbol ","].intercalate
          (List.replicate values.length value.tokens) ++ [.symbol ")"]))) :=
      Writes.between [.space, .word "IN", .space, .mark "("] rfl (fun _ => rfl) (by decide) rfl h
        hlist.closed
    simpa [textWith, Predicate.condition, String.append_assoc] using hbetween
  | between _ _ =>
    have hboth : Writes (mark ++ (" AND " ++ mark))
        (value.tokens ++ ([.reserved "AND"] ++ value.tokens)) :=
      Writes.between [.space, .word "AND", .space] rfl (fun _ => rfl) (by decide) rfl hmark hmark
    have hbetween : Writes (text ++ (" BETWEEN " ++ (mark ++ (" AND " ++ mark))))
        (x.tokens ++ ([.reserved "BETWEEN"] ++ (value.tokens ++ ([.reserved "AND"] ++ value.tokens)))) :=
      Writes.between [.space, .word "BETWEEN", .space] rfl (fun _ => rfl) (by decide) rfl h hboth
    simpa [textWith, Predicate.condition, String.append_assoc] using hbetween

end Predicate

/-! ### Sort keys -/

theorem writes_key {text : String} {k : SortText} (h : Writes text k.key.tokens) :
    Writes (text ++ " " ++ k.direction.sql) k.tokens := by
  have hword : Writes k.direction.sql [.reserved k.direction.sql] := by
    cases k.direction with
    | asc => exact Writes.phrase [.word "ASC"] (by decide) (by decide) rfl
    | desc => exact Writes.phrase [.word "DESC"] (by decide) (by decide) rfl
  have hbetween := Writes.between (s := " ") [.space] rfl (fun _ => rfl) (by decide) rfl h hword
  rw [String.append_assoc]
  exact hbetween

end ScopedQuery
