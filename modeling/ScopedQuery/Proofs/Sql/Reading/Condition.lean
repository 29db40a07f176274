import ScopedQuery.Proofs.Sql.Reading.Operand
import ScopedQuery.Schema.Operator
/-!
# Conditions read back

* `Operation` describes tokens that are read as an operand with one operator behind it: a comparison, a
  test for membership, a test of an interval, or a difference.
* `Conjunction.Sound.expression`: operations with AND between them are read as a condition that nests
  to the left.
-/

namespace ScopedQuery

/-- The operator of a syntax tree that a comparison is. -/
def CompareOp.tree : CompareOp → Sql.BinaryOp
  | eq => .eq
  | ne => .ne
  | gt => .gt
  | gte => .ge
  | lt => .lt
  | lte => .le

namespace Sql

open Parsing

/-! ### One operator -/

/-- Tokens that are read as an operation whose operator binds with a power. -/
structure Operation (power depth : Nat) (ts : List Token) (e : Expr) : Prop where
  read : ∀ (g : Grammar) (fuel floor : Nat) (rest : List Token), g.Nests depth → floor < power →
    EndsOperand rest → bindingPower true rest ≤ power →
    ∃ k, rest.length < k ∧
      expressionAt g (fuel + 2) true floor (ts ++ rest) =
        continuations (g.level (fuel + 1)) true floor k e rest
  start : StartsOperand ts

/-- Before some tokens an expression ends. -/
structure EndsExpr (rest : List Token) : Prop where
  operand : EndsOperand rest
  power : bindingPower true rest = 0

section

variable {power depth : Nat} {ts rest : List Token} {e : Expr} {g : Grammar}

/-- An operand one level below is read as an expression. -/
theorem Operand.expr_read (h : Operand depth ts e) (hg : g.Nests (depth + 1))
    (hrest : EndsExpr rest) : g.expr (ts ++ rest) = .ok (e, rest) := by
  obtain ⟨inner, hinner, hexpr⟩ := hg
  rw [hexpr]
  exact h.expression hinner hrest.operand hrest.power

theorem Operation.expressionAt (h : Operation power depth ts e) (hg : g.Nests depth)
    (hrest : EndsOperand rest) {floor : Nat} (hfloor : floor < power)
    (hpower : bindingPower true rest ≤ floor) (fuel : Nat) :
    expressionAt g (fuel + 2) true floor (ts ++ rest) = .ok (e, rest) := by
  obtain ⟨k, hk, hread⟩ := h.read g fuel floor rest hg hfloor hrest (by omega)
  rw [hread]
  exact continuations_end (by omega) hpower

/-- An operation can stand for a whole expression. -/
theorem Operation.expression (h : Operation power depth ts e) (hg : g.Nests depth)
    (hpos : 0 < power) (hrest : EndsExpr rest) : expression g (ts ++ rest) = .ok (e, rest) := by
  obtain ⟨t, ht, -⟩ := h.start
  have hlen : ∃ n, (ts ++ rest).length = n + 1 := by
    cases ts with
    | nil => cases ht
    | cons t ts => exact ⟨(ts ++ rest).length, rfl⟩
  obtain ⟨n, hn⟩ := hlen
  rw [Sql.expression, bind_apply, get_apply, andThen_ok, hn]
  exact h.expressionAt hg hrest.operand hpos (Nat.le_of_eq hrest.power) n

/-- One continuation, when the operator that comes next binds more tightly than the floor. -/
theorem continuations_step {floor k : Nat} {left : Expr} {ts : List Token} (hk : 0 < k)
    (hpower : floor < bindingPower true ts) :
    continuations g true floor k left ts =
      andThen (continuation g (bindingPower true ts) left ts)
        (continuations g true floor (k - 1)) := by
  obtain ⟨k, rfl⟩ := Nat.exists_eq_succ_of_ne_zero (Nat.ne_of_gt hk)
  rw [continuations]
  simp [Nat.not_le.mpr hpower]

/-- An operand with something behind it that goes on with it. -/
theorem Operand.operation {ls us : List Token} {l : Expr} (hl : Operand depth ls l)
    (hpower : ∀ rest, bindingPower true (us ++ rest) = power)
    (hends : ∀ rest, EndsOperand (us ++ rest)) (hne : us ≠ [])
    (hread : ∀ (g : Grammar) (fuel : Nat) (rest : List Token), g.Nests depth → EndsOperand rest →
      bindingPower true rest ≤ power →
      continuation (g.level (fuel + 1)) power l (us ++ rest) = .ok (e, rest)) :
    Operation power depth (ls ++ us) e := by
  refine ⟨?_, hl.start.append us⟩
  intro g fuel floor rest hg hfloor hrest hrestpower
  have hpos := List.length_pos_iff.mpr hne
  refine ⟨(us ++ rest).length, by rw [List.length_append]; omega, ?_⟩
  rw [List.append_assoc, hl.expressionAt hg (hends rest),
    continuations_step (Nat.succ_pos _) (by rw [hpower]; exact hfloor), hpower,
    hread g fuel rest hg hrest hrestpower]
  rfl

end

theorem endsOperand_cons {t : Token} (ht : t.endsOperand = true) (ts : List Token) :
    EndsOperand (t :: ts) := by
  intro u hu
  rw [List.head?_cons, Option.some.injEq] at hu
  rw [← hu, ht]

section

variable {depth : Nat} {ls rs : List Token} {l r : Expr}

/-- Two operands with an operator between them. -/
theorem operation_binary {power : Nat} {t : Token} {op : BinaryOp} (hl : Operand depth ls l)
    (hr : Operand depth rs r) (hends : t.endsOperand = true)
    (hpower : ∀ us, bindingPower true (t :: us) = power) (hop : binaryOp? t = some op)
    (hdiv : ∀ us, anyKeyword? ["DIV"] (t :: us) = .ok (none, t :: us)) :
    Operation power depth (ls ++ t :: rs) (.binary op l r) := by
  apply hl.operation (fun rest => hpower (rs ++ rest)) (fun rest => endsOperand_cons hends _)
    (List.cons_ne_nil _ _)
  intro g fuel rest hg hrest hrestpower
  have hright : expressionAt g (fuel + 1) true power (rs ++ rest) = .ok (r, rest) := by
    rw [hr.expressionAt hg hrest]
    exact continuations_end (Nat.succ_pos _) hrestpower
  have hall : anyKeyword? ["ANY", "ALL"] (rs ++ rest) = .ok (none, rs ++ rest) :=
    (hr.start.append rest).anyKeyword? _ (by decide)
  simp [continuation, hdiv, hop, hall, Grammar.level, hright]

theorem operation_compare (op : CompareOp) (hl : Operand depth ls l) (hr : Operand depth rs r) :
    Operation 20 depth (ls ++ .symbol op.sql :: rs) (.binary op.tree l r) := by
  have hpower : ∀ us, bindingPower true (.symbol op.sql :: us) = 20 := by
    intro us
    cases op with
    | _ => simp [bindingPower, symbolPowers, List.lookup_cons, CompareOp.sql]
  cases op with
  | _ => exact operation_binary hl hr rfl hpower rfl fun _ => rfl

theorem operation_minus (hl : Operand depth ls l) (hr : Operand depth rs r) :
    Operation 30 depth (ls ++ .symbol "-" :: rs) (.binary .minus l r) := by
  have hpower : ∀ us, bindingPower true (.symbol "-" :: us) = 30 := by
    intro us
    simp [bindingPower, symbolPowers, List.lookup_cons]
  exact operation_binary hl hr rfl hpower rfl fun _ => rfl

/-- The AND of an interval is not taken for one between conditions. -/
theorem operation_between {hs : List Token} {h : Expr} (hl : Operand depth ls l)
    (hr : Operand depth rs r) (hh : Operand depth hs h) :
    Operation 20 depth (ls ++ .reserved "BETWEEN" :: (rs ++ .reserved "AND" :: hs))
      (.between false l r h) := by
  apply hl.operation (fun rest => rfl) (fun rest => endsOperand_cons rfl _) (List.cons_ne_nil _ _)
  intro g fuel rest hg hrest hrestpower
  have hlow : expressionAt g (fuel + 1) true 20 (rs ++ .reserved "AND" :: (hs ++ rest)) =
      .ok (r, .reserved "AND" :: (hs ++ rest)) := by
    have hand : bindingPower true (.reserved "AND" :: (hs ++ rest)) = 10 := rfl
    rw [hr.expressionAt hg (endsOperand_cons rfl _)]
    exact continuations_end (Nat.succ_pos _) (by omega)
  have hhigh : expressionAt g (fuel + 1) true 20 (hs ++ rest) = .ok (h, rest) := by
    rw [hh.expressionAt hg hrest]
    exact continuations_end (Nat.succ_pos _) hrestpower
  simp only [Token.reserved] at hlow
  simp [continuation, negatableTest, binaryOp?, Token.reserved, Grammar.level, hlow, hhigh]

/-- An operand that is one of several values. -/
theorem operation_inList {tss : List (List Token)} {es : List Expr} (hl : Operand (depth + 1) ls l)
    (h : List.Forall₂ (Operand depth) tss es) (hne : tss ≠ []) :
    Operation 20 (depth + 1)
      (ls ++ .reserved "IN" :: .symbol "(" ::
        ([Token.symbol ","].intercalate tss ++ [.symbol ")"]))
      (.inList false l es) := by
  apply hl.operation (fun rest => rfl) (fun rest => endsOperand_cons rfl _) (List.cons_ne_nil _ _)
  intro g fuel rest hg hrest hrestpower
  have hends : ∀ s : String, s ∈ [",", ")"] → ∀ us, EndsExpr (.symbol s :: us) := by
    intro s hs us
    simp only [List.mem_cons, List.not_mem_nil, or_false] at hs
    rcases hs with rfl | rfl
    · exact ⟨endsOperand_cons rfl _, by simp [bindingPower, symbolPowers, List.lookup_cons]⟩
    · exact ⟨endsOperand_cons rfl _, by simp [bindingPower, symbolPowers, List.lookup_cons]⟩
  have hlist : commaList g.expr
      ([Token.symbol ","].intercalate tss ++ .symbol ")" :: rest) =
        .ok (es, .symbol ")" :: rest) :=
    separated_read (fun ts e h rest hrest => h.expr_read hg hrest) (hends "," (by simp)) h hne
      (hends ")" (by simp) _) rfl
  have hstart : StartsOperand ([Token.symbol ","].intercalate tss ++ .symbol ")" :: rest) := by
    cases h with
    | nil => exact absurd rfl hne
    | cons hfirst _ => exact (hfirst.start.intercalate _ _).append _
  have hselect := hstart.atKeyword ["SELECT", "WITH"] (by decide)
  simp [continuation, negatableTest, membership, parenthesised, symbol, binaryOp?, Token.reserved,
    Grammar.level, hlist, hselect]

end

/-! ### Conjunctions -/

/-- An expression as it is written and as it is read. -/
structure ExprText where
  tokens : List Token
  tree : Expr

/-- Conditions with AND between them. -/
structure Conjunction where
  first : ExprText
  further : List ExprText

namespace Conjunction

/-- Conditions behind the first one, each with AND before it. -/
def furtherTokens (cs : List ExprText) : List Token :=
  cs.flatMap fun c => .reserved "AND" :: c.tokens

def tokens (c : Conjunction) : List Token := c.first.tokens ++ furtherTokens c.further

/-- Each condition is joined to all before it. -/
def tree (c : Conjunction) : Expr :=
  c.further.foldl (fun left x => .binary .and left x.tree) c.first.tree

/-- All conditions are read as they are meant. -/
structure Sound (depth : Nat) (c : Conjunction) : Prop where
  first : Operation 20 depth c.first.tokens c.first.tree
  further : ∀ x ∈ c.further, Operation 20 depth x.tokens x.tree

theorem bindingPower_furtherTokens (cs : List ExprText) {rest : List Token}
    (hrest : EndsExpr rest) : bindingPower true (furtherTokens cs ++ rest) ≤ 10 := by
  cases cs with
  | nil => exact Nat.le_trans (Nat.le_of_eq hrest.power) (Nat.zero_le 10)
  | cons c cs => exact Nat.le_refl 10

theorem endsOperand_furtherTokens (cs : List ExprText) {rest : List Token}
    (hrest : EndsExpr rest) : EndsOperand (furtherTokens cs ++ rest) := by
  cases cs with
  | nil => exact hrest.operand
  | cons c cs => exact endsOperand_cons rfl _

theorem length_le_furtherTokens (cs : List ExprText) :
    cs.length ≤ (furtherTokens cs).length := by
  induction cs with
  | nil => exact Nat.le_refl 0
  | cons c cs ih =>
    simp only [furtherTokens, List.flatMap_cons, List.length_append, List.length_cons] at ih ⊢
    omega

section

variable {g : Grammar} {depth : Nat} (hg : g.Nests depth)

include hg

theorem continuations_read {cs : List ExprText} (fuel : Nat)
    (h : ∀ x ∈ cs, Operation 20 depth x.tokens x.tree) {rest : List Token} (hrest : EndsExpr rest)
    {k : Nat} (hk : cs.length < k) (left : Expr) :
    continuations (g.level (fuel + 2)) true 0 k left (furtherTokens cs ++ rest) =
      .ok (cs.foldl (fun left x => .binary .and left x.tree) left, rest) := by
  induction cs generalizing k left with
  | nil => exact continuations_end hk (Nat.le_of_eq hrest.power)
  | cons c cs ih =>
    rw [List.length_cons] at hk
    have hfirst := h c (by simp)
    have htokens : furtherTokens (c :: cs) ++ rest =
        .reserved "AND" :: (c.tokens ++ (furtherTokens cs ++ rest)) := by
      simp [furtherTokens]
    have hpower :
        bindingPower true (.reserved "AND" :: (c.tokens ++ (furtherTokens cs ++ rest))) = 10 := rfl
    have hright : expressionAt g (fuel + 2) true 10 (c.tokens ++ (furtherTokens cs ++ rest)) =
        .ok (c.tree, furtherTokens cs ++ rest) :=
      hfirst.expressionAt hg (endsOperand_furtherTokens cs hrest) (by omega)
        (bindingPower_furtherTokens cs hrest) fuel
    have hall := (hfirst.start.append (furtherTokens cs ++ rest)).anyKeyword? ["ANY", "ALL"]
      (by decide)
    have hstep : continuation (g.level (fuel + 2)) 10 left
        (.reserved "AND" :: (c.tokens ++ (furtherTokens cs ++ rest))) =
          .ok (.binary .and left c.tree, furtherTokens cs ++ rest) := by
      simp [continuation, Token.reserved, binaryOp?, hall, Grammar.level, hright]
    rw [htokens, continuations_step (by omega) (by omega), hpower, hstep]
    exact ih (fun x hx => h x (List.mem_cons_of_mem c hx)) (by omega) (.binary .and left c.tree)

/-- Conditions with AND between them are read as nested to the left. -/
theorem Sound.expression {c : Conjunction} (h : c.Sound depth) {rest : List Token}
    (hrest : EndsExpr rest) : expression g (c.tokens ++ rest) = .ok (c.tree, rest) := by
  obtain ⟨first, further⟩ := c
  cases further with
  | nil =>
    rw [tokens, furtherTokens, List.flatMap_nil, List.append_nil]
    exact h.first.expression hg (by omega) hrest
  | cons d ds =>
    rw [tokens, List.append_assoc]
    have hlen : ∃ n, (first.tokens ++ (furtherTokens (d :: ds) ++ rest)).length = n + 2 := by
      have hpos : 0 < first.tokens.length := by
        obtain ⟨t, ht, -⟩ := h.first.start
        cases hts : first.tokens with
        | nil => rw [hts] at ht; cases ht
        | cons t ts => exact Nat.succ_pos _
      have hmany := length_le_furtherTokens (d :: ds)
      rw [List.length_cons] at hmany
      refine ⟨(first.tokens ++ (furtherTokens (d :: ds) ++ rest)).length - 2, ?_⟩
      simp only [List.length_append]
      omega
    obtain ⟨n, hn⟩ := hlen
    obtain ⟨k, hk, hread⟩ := h.first.read g (n + 1) 0 _ hg (by omega)
      (endsOperand_furtherTokens (d :: ds) hrest)
      (Nat.le_trans (bindingPower_furtherTokens (d :: ds) hrest) (by omega))
    have hmany := length_le_furtherTokens (d :: ds)
    rw [List.length_append] at hk
    have hshort : (d :: ds).length < k := by omega
    rw [Sql.expression, bind_apply, get_apply, andThen_ok, hn, hread]
    exact continuations_read hg n h.further hrest hshort first.tree

end

end Conjunction

end Sql

end ScopedQuery
