import ScopedQuery.Proofs.Sql.Reading.Condition
/-!
# Sources read back

`fromItem_read`: a table under a short name, with outer joins of such tables, is read as it is written.
-/

namespace ScopedQuery.Sql

open Parsing

/-- A table under a short name. -/
def Source.short (table name : String) : Source :=
  .table [⟨table, none⟩] false [] [] [] (some ⟨⟨name, none⟩, []⟩)

/-- An outer join of a table under a short name. -/
structure LeftJoin where
  table : String
  name : String
  condition : Conjunction

namespace LeftJoin

def tokens (j : LeftJoin) : List Token :=
  .reserved "LEFT" :: .reserved "JOIN" :: .name j.table :: .name j.name :: .reserved "ON" ::
    j.condition.tokens

def join (j : LeftJoin) : Join := .mk .left false (.short j.table j.name) (some j.condition.tree) []

end LeftJoin

section

variable {g : Grammar} {depth : Nat}

/-- Behind the short name of a table neither columns nor hints nor turns come. -/
theorem source_read (joined : Parsing FromItem) (table name : String) {k : String}
    (hk : k ∉ ["WITH", "PIVOT", "UNPIVOT"]) (ts : List Token) :
    source g joined (.name table :: .name name :: .reserved k :: ts) =
      .ok (.short table name, .reserved k :: ts) := by
  simp only [List.mem_cons, List.not_mem_nil, or_false, not_or] at hk
  simp [source, tableSource, objectName, separated, separatedUpTo, ident, tableAlias?, asName?,
    columnNames?, hints, atKeyword, peekKeyword, keywordOf, turned, Token.name, Token.reserved,
    Source.short, hk]

theorem join?_read (hg : g.Nests (depth + 1)) (joined : Parsing FromItem) {j : LeftJoin}
    (hj : j.condition.Sound depth) {rest : List Token} (hrest : EndsExpr rest) :
    join? g joined (j.tokens ++ rest) = .ok (some j.join, rest) := by
  obtain ⟨inner, hinner, hexpr⟩ := hg
  have hsource := source_read (g := g) joined j.table j.name (k := "ON") (by decide)
    (j.condition.tokens ++ rest)
  have hread : g.expr (j.condition.tokens ++ rest) = .ok (j.condition.tree, rest) := by
    rw [hexpr]
    exact hj.expression hinner hrest
  simp only [Token.name, Token.reserved] at hsource
  simp [LeftJoin.tokens, join?, joinKind?, joinKind?.sided, peekKeyword, keywordOf, anyKeyword,
    Token.name, Token.reserved, hsource, hread, LeftJoin.join]

theorem join?_where (joined : Parsing FromItem) (ts : List Token) :
    join? g joined (.reserved "WHERE" :: ts) = .ok (none, .reserved "WHERE" :: ts) := by
  simp [join?, joinKind?, peekKeyword, keywordOf, Token.reserved]

theorem endsExpr_joins (js : List LeftJoin) (ts : List Token) :
    EndsExpr (js.flatMap LeftJoin.tokens ++ .reserved "WHERE" :: ts) := by
  cases js with
  | nil => exact ⟨endsOperand_cons (by decide) _, rfl⟩
  | cons j js => exact ⟨endsOperand_cons (by decide) _, rfl⟩

theorem joins_read (hg : g.Nests (depth + 1)) (joined : Parsing FromItem) {js : List LeftJoin}
    (hjs : ∀ j ∈ js, j.condition.Sound depth) (ts : List Token) {fuel : Nat} (hfuel : js.length < fuel) :
    repeatedUpTo (join? g joined) fuel (js.flatMap LeftJoin.tokens ++ .reserved "WHERE" :: ts) =
      .ok (js.map LeftJoin.join, .reserved "WHERE" :: ts) := by
  induction js generalizing fuel with
  | nil =>
    obtain ⟨fuel, rfl⟩ := Nat.exists_eq_succ_of_ne_zero (Nat.ne_of_gt hfuel)
    simp [repeatedUpTo, join?_where]
  | cons j js ih =>
    obtain ⟨fuel, rfl⟩ := Nat.exists_eq_succ_of_ne_zero (Nat.ne_of_gt (Nat.lt_of_le_of_lt
      (Nat.zero_le _) hfuel))
    have hfirst := join?_read hg joined (hjs j (by simp)) (endsExpr_joins js ts)
    have hothers := ih (fun i hi => hjs i (List.mem_cons_of_mem j hi)) (Nat.lt_of_succ_lt_succ hfuel)
    rw [List.flatMap_cons, List.append_assoc]
    simp [repeatedUpTo, hfirst, hothers]

/-- A table with its joins, before WHERE. -/
theorem fromItem_read (hg : g.Nests (depth + 1)) (table name : String) {js : List LeftJoin}
    (hjs : ∀ j ∈ js, j.condition.Sound depth) (ts : List Token) :
    fromItem g (.name table :: .name name ::
        (js.flatMap LeftJoin.tokens ++ .reserved "WHERE" :: ts)) =
      .ok (.mk (.short table name) (js.map LeftJoin.join), .reserved "WHERE" :: ts) := by
  have hsource : ∀ joined : Parsing FromItem, source g joined (.name table :: .name name ::
      (js.flatMap LeftJoin.tokens ++ .reserved "WHERE" :: ts)) =
        .ok (.short table name, js.flatMap LeftJoin.tokens ++ .reserved "WHERE" :: ts) := by
    intro joined
    cases js with
    | nil => exact source_read joined table name (by decide) ts
    | cons j js => exact source_read joined table name (by decide) _
  have hlen : ∀ is : List LeftJoin, is.length ≤ (is.flatMap LeftJoin.tokens).length := by
    intro is
    induction is with
    | nil => exact Nat.le_refl 0
    | cons i is ih =>
      rw [List.flatMap_cons, List.length_append, List.length_cons]
      have hi : 1 ≤ i.tokens.length := by simp [LeftJoin.tokens]
      omega
  have hfuel : js.length < (js.flatMap LeftJoin.tokens ++ .reserved "WHERE" :: ts).length + 1 := by
    have h := hlen js
    rw [List.length_append]
    omega
  rw [fromItem, bind_apply, get_apply, andThen_ok, fromItemUpTo, bind_apply, hsource,
    andThen_ok, bind_apply, repeated, bind_apply, get_apply, andThen_ok,
    joins_read hg _ hjs ts hfuel]
  rfl

end

end ScopedQuery.Sql
