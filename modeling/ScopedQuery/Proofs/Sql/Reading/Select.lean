import ScopedQuery.Proofs.Sql.Lexeme
import ScopedQuery.Proofs.Sql.Reading.Call
import ScopedQuery.Proofs.Sql.Reading.Source
/-!
# Selections read back

* A `SelectText` is a selection clause by clause. `SelectText.tokens` are its tokens, and
  `SelectText.query` is the syntax tree that it is meant to be.
* `SelectText.Sound.statements?`: a text with such tokens is read as this one query.
-/

namespace ScopedQuery.Sql

open Parsing

/-- A sort key as it is written and as it is read. -/
structure SortText where
  key : ExprText
  direction : SortDirection

namespace SortText

def tokens (k : SortText) : List Token := k.key.tokens ++ [.reserved k.direction.sql]

def orderKey (k : SortText) : OrderKey :=
  .mk k.key.tree (k.direction = .desc) (" " ++ k.direction.sql)

end SortText

structure SelectText where
  items : List ExprText
  table : String
  name : String
  joins : List LeftJoin
  condition : Conjunction
  groupBy : List ExprText
  orderBy : List SortText
  /-- The digits of the limit. -/
  limit : String

/-- The name that an item is given. -/
def itemAlias (index : Nat) : String := "c" ++ toString index

/-- The tokens of an item with its name. -/
def itemTokens (item : ExprText × Nat) : List Token :=
  item.1.tokens ++ [.reserved "AS", .ofWord (itemAlias item.2)]

/-- A list behind some words, which are left out if there is nothing in it. -/
def clauseTokens (words : List String) (tss : List (List Token)) : List Token :=
  if tss.isEmpty then [] else words.map .reserved ++ [Token.symbol ","].intercalate tss

namespace SelectText

def limitTokens (s : SelectText) : List Token := [.reserved "LIMIT", .number s.limit false]

/-- What stands behind the groups. -/
def orderTokens (s : SelectText) : List Token :=
  clauseTokens ["ORDER", "BY"] (s.orderBy.map (·.tokens)) ++ s.limitTokens

/-- What stands behind the condition. -/
def groupTokens (s : SelectText) : List Token :=
  clauseTokens ["GROUP", "BY"] (s.groupBy.map (·.tokens)) ++ s.orderTokens

/-- What stands behind the items. -/
def sourceTokens (s : SelectText) : List Token :=
  .reserved "FROM" :: .name s.table :: .name s.name ::
    (s.joins.flatMap LeftJoin.tokens ++
      .reserved "WHERE" :: (s.condition.tokens ++ s.groupTokens))

def tokens (s : SelectText) : List Token :=
  .reserved "SELECT" ::
    ([Token.symbol ","].intercalate (s.items.zipIdx.map itemTokens) ++ s.sourceTokens)

def select (s : SelectText) : Select :=
  .mk .none [] none (s.items.zipIdx.map fun item => .expr (some ⟨itemAlias item.2, none⟩) item.1.tree)
    none [.mk (.short s.table s.name) (s.joins.map LeftJoin.join)] [] (some s.condition.tree) false
    (s.groupBy.map (·.tree)) [] [] [] none [] none

def query (s : SelectText) : Query :=
  .mk false [] (.select s.select) (s.orderBy.map SortText.orderKey)
    (some (.literal (.number s.limit false))) none none [] none

/-- All expressions are read as they are meant. -/
structure Sound (depth : Nat) (s : SelectText) : Prop where
  items : ∀ x ∈ s.items, Operand depth x.tokens x.tree
  selected : s.items ≠ []
  joins : ∀ j ∈ s.joins, j.condition.Sound depth
  condition : s.condition.Sound depth
  groupBy : ∀ x ∈ s.groupBy, Operand depth x.tokens x.tree
  orderBy : ∀ k ∈ s.orderBy, Operand depth k.key.tokens k.key.tree

end SelectText

section

variable {g : Grammar} {depth : Nat}

/-! ### Items -/

theorem selectItem_read (hg : g.Nests (depth + 1)) {x : ExprText}
    (h : Operand depth x.tokens x.tree) (index : Nat) (rest : List Token) :
    selectItem g (itemTokens (x, index) ++ rest) =
      .ok (.expr (some ⟨itemAlias index, none⟩) x.tree, rest) := by
  have hends : EndsExpr (.reserved "AS" :: .ofWord (itemAlias index) :: rest) :=
    ⟨endsOperand_cons rfl _, rfl⟩
  have hread := h.expr_read hg hends
  have hstar := h.star _ hends.operand
  have htokens : itemTokens (x, index) ++ rest =
      x.tokens ++ .reserved "AS" :: .ofWord (itemAlias index) :: rest := by
    simp [itemTokens]
  rw [htokens]
  simp only [Token.reserved, Token.ofWord] at hread hstar ⊢
  simp [selectItem, starOrExpr, hstar, hread, asName?, ident]

theorem items_read (hg : g.Nests (depth + 1)) {xs : List ExprText}
    (h : ∀ x ∈ xs, Operand depth x.tokens x.tree) (hne : xs ≠ []) (rest : List Token)
    (hstop : symbol? "," rest = .ok (false, rest)) :
    commaList (selectItem g)
      ([Token.symbol ","].intercalate (xs.zipIdx.map itemTokens) ++ rest) =
        .ok (xs.zipIdx.map fun item => .expr (some ⟨itemAlias item.2, none⟩) item.1.tree,
          rest) := by
  refine separated_read (E := fun _ => True)
    (R := fun ts item => ∀ rest, selectItem g (ts ++ rest) = .ok (item, rest))
    (fun ts item hread rest _ => hread rest) (fun _ => trivial) ?_ (by simpa using hne) trivial hstop
  rw [List.forall₂_map_left_iff, List.forall₂_map_right_iff, List.forall₂_same]
  intro item hitem rest
  exact selectItem_read hg (h item.1 (List.fst_mem_of_mem_zipIdx hitem)) item.2 rest

/-! ### What stands behind the condition -/

theorem endsExpr_limit (s : SelectText) : EndsExpr s.limitTokens :=
  ⟨endsOperand_cons (by decide) _, rfl⟩

theorem endsExpr_order (s : SelectText) : EndsExpr s.orderTokens := by
  rw [SelectText.orderTokens, clauseTokens]
  split
  · exact endsExpr_limit s
  · exact ⟨endsOperand_cons (by decide) _, rfl⟩

theorem endsExpr_group (s : SelectText) : EndsExpr s.groupTokens := by
  rw [SelectText.groupTokens, clauseTokens]
  split
  · exact endsExpr_order s
  · exact ⟨endsOperand_cons (by decide) _, rfl⟩

/-- The clauses behind the condition start with a word. -/
theorem order_cons (s : SelectText) :
    ∃ k ∈ ["ORDER", "LIMIT"], ∃ ts, s.orderTokens = .reserved k :: ts := by
  rw [SelectText.orderTokens, clauseTokens]
  split
  · exact ⟨"LIMIT", by simp, _, rfl⟩
  · exact ⟨"ORDER", by simp, _, rfl⟩

/-- Lists that start with none of some words are left out. -/
theorem listBehind_of_cons {α : Type} (read : Parsing α) {word k : String} (words : List String)
    (h : k ≠ word) (ts : List Token) :
    listBehind (word :: words) read (.reserved k :: ts) = .ok ([], .reserved k :: ts) := by
  simp [listBehind, keywords?, afterKeywords?, Token.reserved, h]

theorem behind?_of_cons {α : Type} (read : Parsing α) {word k : String} (h : k ≠ word)
    (ts : List Token) : behind? word read (.reserved k :: ts) = .ok (none, .reserved k :: ts) := by
  simp [behind?, Token.reserved, h]

/-- Behind the groups only an order and a limit come. -/
theorem listBehind_order {α : Type} (read : Parsing α) (word : String) (words : List String)
    (h : word ∉ ["ORDER", "LIMIT"]) (s : SelectText) :
    listBehind (word :: words) read s.orderTokens = .ok ([], s.orderTokens) := by
  obtain ⟨k, hk, ts, horder⟩ := order_cons s
  have hne : k ≠ word := fun hword => h (hword ▸ hk)
  rw [horder]
  exact listBehind_of_cons read words hne ts

theorem behind?_order {α : Type} (read : Parsing α) (word : String) (h : word ∉ ["ORDER", "LIMIT"])
    (s : SelectText) : behind? word read s.orderTokens = .ok (none, s.orderTokens) := by
  obtain ⟨k, hk, ts, horder⟩ := order_cons s
  have hne : k ≠ word := fun hword => h (hword ▸ hk)
  rw [horder]
  exact behind?_of_cons read hne ts

/-- Expressions with commas between them. -/
theorem exprs_read (hg : g.Nests (depth + 1)) {xs : List ExprText}
    (h : ∀ x ∈ xs, Operand depth x.tokens x.tree) (hne : xs ≠ []) {rest : List Token}
    (hrest : EndsExpr rest) (hstop : symbol? "," rest = .ok (false, rest)) :
    commaList g.expr ([Token.symbol ","].intercalate (xs.map (·.tokens)) ++ rest) =
      .ok (xs.map (·.tree), rest) := by
  refine separated_read (R := Operand depth) (fun ts e h rest hrest => h.expr_read hg hrest)
    (endsExpr_symbol (by simp)) ?_ (by simpa using hne) hrest hstop
  rw [List.forall₂_map_left_iff, List.forall₂_map_right_iff, List.forall₂_same]
  exact h

theorem symbol?_reserved (s k : String) (ts : List Token) :
    symbol? s (.reserved k :: ts) = .ok (false, .reserved k :: ts) := rfl

/-- The groups of a selection, which are never all of its columns, and what is done with them. -/
theorem groupBy_read (hg : g.Nests (depth + 1)) {s : SelectText}
    (h : ∀ x ∈ s.groupBy, Operand depth x.tokens x.tree)
    (f : Bool × List Expr → Parsing Select) :
    (do
      if ← keywords? ["GROUP", "BY"] then
        if ← keyword? "ALL" then pure (true, []) >>= f
        else pure (false, ← commaList g.expr) >>= f
      else pure (false, []) >>= f) s.groupTokens =
        f (false, s.groupBy.map (·.tree)) s.orderTokens := by
  obtain ⟨k, hk, ts, horder⟩ := order_cons s
  rw [SelectText.groupTokens, clauseTokens]
  cases hgroups : s.groupBy with
  | nil =>
    simp only [List.mem_cons, List.not_mem_nil, or_false] at hk
    rcases hk with rfl | rfl
    · simp [keywords?, afterKeywords?, horder, Token.reserved]
    · simp [keywords?, afterKeywords?, horder, Token.reserved]
  | cons x xs =>
    rw [hgroups] at h
    have hstart : StartsOperand
        ([Token.symbol ","].intercalate ((x :: xs).map (·.tokens)) ++ s.orderTokens) :=
      ((h x (by simp)).start.intercalate _ _).append _
    have hall := hstart.anyKeyword? ["ALL"] (by decide)
    have hlist := exprs_read hg h (by simp) (endsExpr_order s)
      (by rw [horder]; exact symbol?_reserved "," k ts)
    simp only [List.map_cons] at hall hlist
    simp [keywords?, afterKeywords?, Token.reserved, hall, hlist]

/-! ### Order -/

/-- What can stand behind a sort key with a direction. -/
def EndsKey (rest : List Token) : Prop := ∀ k, rest.head?.bind keywordOf = some k → k ≠ "NULLS"

theorem EndsKey.keywords? {rest : List Token} (h : EndsKey rest) (word : String) :
    keywords? ["NULLS", word] rest = .ok (false, rest) := by
  cases rest with
  | nil => rfl
  | cons t ts =>
    cases t with
    | word text quote keyword =>
      cases keyword with
      | none => rfl
      | some k =>
        have hk : k ≠ "NULLS" := h k rfl
        simp [Parsing.keywords?, afterKeywords?, hk]
    | _ => rfl

theorem orderKey_read (hg : g.Nests (depth + 1)) {k : SortText}
    (h : Operand depth k.key.tokens k.key.tree) {rest : List Token} (hrest : EndsKey rest) :
    orderKey g (k.tokens ++ rest) = .ok (k.orderKey, rest) := by
  have hends : EndsExpr (.reserved k.direction.sql :: rest) := by
    cases k.direction with
    | asc => exact ⟨endsOperand_cons (by decide) _, rfl⟩
    | desc => exact ⟨endsOperand_cons (by decide) _, rfl⟩
  have hread := h.expr_read hg hends
  have hfirst := hrest.keywords? "FIRST"
  have hlast := hrest.keywords? "LAST"
  have htokens : k.tokens ++ rest = k.key.tokens ++ .reserved k.direction.sql :: rest := by
    simp [SortText.tokens]
  rw [htokens, SortText.orderKey]
  cases hk : k.direction with
  | asc =>
    rw [hk] at hread
    simp only [Token.reserved, SortDirection.sql] at hread ⊢
    simp [orderKey, hread, hfirst, hlast]
  | desc =>
    rw [hk] at hread
    simp only [Token.reserved, SortDirection.sql] at hread ⊢
    simp [orderKey, hread, hfirst, hlast]

theorem orderBy_read (hg : g.Nests (depth + 1)) {s : SelectText}
    (h : ∀ k ∈ s.orderBy, Operand depth k.key.tokens k.key.tree) :
    listBehind ["ORDER", "BY"] (orderKey g) s.orderTokens =
      .ok (s.orderBy.map SortText.orderKey, s.limitTokens) := by
  rw [SelectText.orderTokens, clauseTokens]
  cases hkeys : s.orderBy with
  | nil => exact listBehind_of_cons _ _ (by decide) _
  | cons x xs =>
    rw [hkeys] at h
    have hlist : commaList (orderKey g)
        ([Token.symbol ","].intercalate ((x :: xs).map (·.tokens)) ++ s.limitTokens) =
          .ok ((x :: xs).map SortText.orderKey, s.limitTokens) := by
      refine separated_read (E := EndsKey)
        (R := fun ts key => ∀ rest, EndsKey rest → orderKey g (ts ++ rest) = .ok (key, rest))
        (fun ts key hread => hread) ?_ ?_ (by simp) ?_ (symbol?_reserved "," "LIMIT" _)
      · intro us k hk
        cases hk
      · rw [List.forall₂_map_left_iff, List.forall₂_map_right_iff, List.forall₂_same]
        intro k hk rest hrest
        exact orderKey_read hg (h k hk) hrest
      · intro k hk
        obtain rfl : "LIMIT" = k := Option.some.inj hk
        decide
    simp only [List.map_cons] at hlist
    simp [listBehind, keywords?, afterKeywords?, Token.reserved, hlist]

/-! ### Whole selections -/

/-- The sources of a selection. -/
theorem sources_read (hg : g.Nests (depth + 1)) {s : SelectText} (h : s.Sound depth) :
    listBehind ["FROM"] (fromItem g) s.sourceTokens =
      .ok ([.mk (.short s.table s.name) (s.joins.map LeftJoin.join)],
        .reserved "WHERE" :: (s.condition.tokens ++ s.groupTokens)) := by
  have hread := fromItem_read hg s.table s.name h.joins (s.condition.tokens ++ s.groupTokens)
  simp [SelectText.sourceTokens, listBehind, keywords?, afterKeywords?, Token.reserved, commaList,
    separated, separatedUpTo] at hread ⊢
  simp [hread]

theorem where_read (hg : g.Nests (depth + 1)) {s : SelectText} (h : s.Sound depth) :
    behind? "WHERE" g.expr (.reserved "WHERE" :: (s.condition.tokens ++ s.groupTokens)) =
      .ok (some s.condition.tree, s.groupTokens) := by
  obtain ⟨inner, hinner, hexpr⟩ := hg
  have hcondition : g.expr (s.condition.tokens ++ s.groupTokens) =
      .ok (s.condition.tree, s.groupTokens) := by
    rw [hexpr]
    exact h.condition.expression hinner (endsExpr_group s)
  simp [behind?, Token.reserved, hcondition]

theorem selection_read (hg : g.Nests (depth + 1)) {s : SelectText} (h : s.Sound depth) :
    selection g ([Token.symbol ","].intercalate (s.items.zipIdx.map itemTokens) ++ s.sourceTokens) =
      .ok (s.select, s.orderTokens) := by
  have hstart : StartsOperand
      ([Token.symbol ","].intercalate (s.items.zipIdx.map itemTokens) ++ s.sourceTokens) := by
    obtain ⟨x, xs, hxs⟩ := List.exists_cons_of_ne_nil h.selected
    have hfirst := (h.items x (by simp [hxs])).start
    rw [hxs]
    exact ((hfirst.append _).intercalate _ _).append _
  generalize hts : [Token.symbol ","].intercalate (s.items.zipIdx.map itemTokens) ++ s.sourceTokens =
    ts at hstart ⊢
  have hall := hstart.anyKeyword? ["ALL"] (by decide)
  have hdistinct := hstart.anyKeyword? ["DISTINCT"] (by decide)
  have htop := hstart.anyKeyword? ["TOP"] (by decide)
  have hnone : Sql.distinctness g ts = .ok ((.none, []), ts) := by
    simp [Sql.distinctness, hall, hdistinct]
  have hfirst : behind? "TOP" (topRows g) ts = .ok (none, ts) := by simp [behind?, htop]
  have hitems := items_read hg h.items h.selected s.sourceTokens (symbol?_reserved "," "FROM" _)
  have hinto : behind? "INTO" intoTarget s.sourceTokens = .ok (none, s.sourceTokens) :=
    behind?_of_cons intoTarget (show "FROM" ≠ "INTO" by decide) _
  have hviews : repeated (lateralView? g)
      (.reserved "WHERE" :: (s.condition.tokens ++ s.groupTokens)) =
        .ok ([], .reserved "WHERE" :: (s.condition.tokens ++ s.groupTokens)) := by
    simp [repeated, repeatedUpTo, lateralView?, keywords?, afterKeywords?, Token.reserved]
  have hgroups := groupBy_read hg h.groupBy
  have hcluster := listBehind_order g.expr "CLUSTER" ["BY"] (by decide) s
  have hdistribute := listBehind_order g.expr "DISTRIBUTE" ["BY"] (by decide) s
  have hsort := listBehind_order g.expr "SORT" ["BY"] (by decide) s
  have hhaving := behind?_order g.expr "HAVING" (by decide) s
  have hwindow := listBehind_order (namedWindow g) "WINDOW" [] (by decide) s
  have hqualify := behind?_order g.expr "QUALIFY" (by decide) s
  rw [hts] at hitems
  simp only [selection, bind_apply, hnone, hfirst, hitems, hinto, sources_read hg h, hviews,
    where_read hg h, andThen_ok] at hgroups ⊢
  rw [hgroups]
  simp only [bind_apply, hcluster, hdistribute, hsort, hhaving, hwindow, hqualify, andThen_ok]
  rfl

theorem endsExpr_nil : EndsExpr [] := by
  refine ⟨?_, rfl⟩
  intro t ht
  cases ht

theorem bounds_read (hg : g.Nests (depth + 1)) (s : SelectText) :
    bounds g 2 (none, none) s.limitTokens =
      .ok ((some (.literal (.number s.limit false)), none), []) := by
  have hread := ((operand_number s.limit false).mono (Nat.zero_le depth)).expr_read hg endsExpr_nil
  rw [List.append_nil] at hread
  simp [bounds, bounds.limit?, SelectText.limitTokens, Token.reserved, limitBound, behind?, hread]

theorem body_read (hg : g.Nests (depth + 1)) {s : SelectText} (h : s.Sound depth) (fuel : Nat) :
    bodyAt g 0 (fuel + 2) s.tokens = .ok (.select s.select, s.orderTokens) := by
  have hselection := selection_read hg h
  have hplain : plainBody g s.tokens = .ok (.select s.select, s.orderTokens) := by
    simp [plainBody, SelectText.tokens, Token.reserved, hselection]
  have hpowers : ∀ k ∈ ["ORDER", "LIMIT"], setPower k = 0 := by decide
  obtain ⟨k, hk, ts, horder⟩ := order_cons s
  have hend : setOperations g 0 (fuel + 1) (.select s.select) s.orderTokens =
      .ok (.select s.select, s.orderTokens) := by
    rw [horder]
    simp [setOperations, peekKeyword, keywordOf, Token.reserved, hpowers k hk]
  rw [bodyAt, bind_apply, hplain, andThen_ok, hend]

theorem queryOf_read (hg : g.Nests (depth + 1)) {s : SelectText} (h : s.Sound depth) :
    queryOf g s.tokens = .ok (s.query, []) := by
  have hfuel : ∃ fuel, 2 * s.tokens.length + 2 = fuel + 2 := ⟨_, rfl⟩
  obtain ⟨fuel, hfuel⟩ := hfuel
  have hbody := body_read hg h fuel
  have horder := orderBy_read hg h.orderBy
  have hbounds := bounds_read hg s
  have hwith : ∀ w, w ≠ "SELECT" → anyKeyword? [w] s.tokens = .ok (none, s.tokens) := by
    intro w hw
    simp [SelectText.tokens, Token.reserved, hw.symm]
  simp [queryOf, hwith, hfuel, hbody, horder, hbounds, behind?, repeated, repeatedUpTo, lock?, form?,
    keywords?, afterKeywords?, SelectText.query]

end

/-- A text with the tokens of a sound selection is read as this one query. -/
theorem SelectText.Sound.statements? {text : String} {s : SelectText} (h : s.Sound 3)
    (htext : Writes text s.tokens) : statements? text = some [.query s.query] := by
  have hnests : (Grammar.nested 48).Nests 4 := (Grammar.nested_nests 48).mono (by omega)
  have hquery : (Grammar.nested 49).query s.tokens = .ok (s.query, []) := queryOf_read hnests h
  have hstatement : (Grammar.nested nestingLimit).statement s.tokens =
      .ok (.query s.query, []) := by
    show statementOf (Grammar.nested 49) s.tokens = _
    obtain ⟨ts, hts⟩ : ∃ ts, s.tokens = .reserved "SELECT" :: ts := ⟨_, rfl⟩
    rw [hts] at hquery ⊢
    simp only [Token.reserved] at hquery ⊢
    simp [statementOf, keywords?, afterKeywords?, atKeyword, peekKeyword, keywordOf, hquery]
  have hlist : statementList (Grammar.nested nestingLimit).statement s.tokens =
      .ok ([.query s.query], []) := by
    obtain ⟨ts, hts⟩ : ∃ ts, s.tokens = .reserved "SELECT" :: ts := ⟨_, rfl⟩
    rw [hts] at hstatement ⊢
    have hdrop : (Token.reserved "SELECT" :: ts).dropWhile (· == .symbol ";") =
        .reserved "SELECT" :: ts := rfl
    rw [statementList, bind_apply, get_apply, andThen_ok, statementsUpTo, bind_apply,
      modify_apply, hdrop]
    simp [hstatement, atKeyword, peekKeyword]
  simp [Sql.statements?, readStatements, htext.ofText?, StateT.run, hlist, Attempt.map, Attempt.toOption]

end ScopedQuery.Sql
