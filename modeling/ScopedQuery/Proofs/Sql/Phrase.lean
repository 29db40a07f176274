import ScopedQuery.Bound.Basic
import ScopedQuery.Proofs.Sql.Lexeme
import ScopedQuery.Proofs.Sql.Reading.Select
import ScopedQuery.Proofs.Sql.Words
/-!
# Clauses as tokens

* `Writes.joined`: texts with a separator between them are read as their tokens with its tokens between
  them.
* `Clauses.Spelled.writes`: if the parts of a SELECT are read as the parts of a selection, the SELECT is
  read as the selection.
-/

namespace ScopedQuery

namespace Sql

/-! ### Texts in a row -/

namespace Writes

open Lexeme

theorem empty : Writes "" [] := by
  intro rest _
  simp

/-- A space, a comma or a closing parenthesis ends whatever stands before it. -/
theorem ends_of_head {s : String} (hs : s.toList.head? ∈ [some ' ', some ',', some ')'])
    (rest : List Char) : Ends (s.toList ++ rest) := by
  have hne : s.toList.head? ≠ none := by
    intro h
    rw [h] at hs
    simp at hs
  obtain ⟨c, hc⟩ := Option.ne_none_iff_exists'.mp hne
  rw [Ends, List.head?_append, hc, Option.some_or, ← hc]
  exact List.mem_cons_of_mem _ hs

/-- A phrase by itself. -/
theorem phrase {text : String} {ts : List Token} (ls : List Lexeme) (htext : text = spelled ls)
    (hfit : ∀ next ∈ [none, some ' ', some ',', some ')'], fit next ls = true)
    (hknown : known? ls = some ts) : Writes text ts := by
  rw [← tokensOf_known hknown]
  exact of_lexemes ls htext hfit

/-- A phrase in front, which ends by itself. -/
theorem behind {s text : String} {us ts : List Token} (ls : List Lexeme) (hs : s = spelled ls)
    (hfit : ∀ next, fit next ls = true) (hknown : known? ls = some us) (h : Writes text ts) :
    Writes (s ++ text) (us ++ ts) := by
  rw [← tokensOf_known hknown]
  exact h.prepend ls hs hfit

/-- Two texts with a separator between them. -/
theorem between {a b s : String} {ts us vs : List Token} (ls : List Lexeme)
    (hs : s = spelled ls) (hfit : ∀ next, fit next ls = true)
    (hhead : s.toList.head? ∈ [some ' ', some ',', some ')']) (hknown : known? ls = some vs)
    (ha : Writes a ts) (hb : Writes b us) : Writes (a ++ (s ++ b)) (ts ++ (vs ++ us)) := by
  apply ha.append (hb.behind ls hs hfit hknown)
  intro rest
  rw [String.toList_append, List.append_assoc]
  exact ends_of_head hhead _

/-- A text with a closing parenthesis behind it. -/
theorem closed {text : String} {ts : List Token} (h : Writes text ts) :
    Writes (text ++ ")") (ts ++ [.symbol ")"]) :=
  h.append (phrase [.mark ")"] (by decide) (by decide) rfl) (ends_of_head (by decide))

/-- Texts with a separator between them. -/
theorem joined {s : String} {vs : List Token} (ls : List Lexeme) (hs : s = spelled ls)
    (hfit : ∀ next, fit next ls = true) (hhead : s.toList.head? ∈ [some ' ', some ',', some ')'])
    (hknown : known? ls = some vs) {texts : List String} {tss : List (List Token)}
    (h : List.Forall₂ Writes texts tss) :
    Writes (String.intercalate s texts) (vs.intercalate tss) := by
  induction h with
  | nil => exact empty
  | @cons a ts texts tss hfirst hothers ih =>
    cases hothers with
    | nil =>
      rw [String.intercalate_singleton, List.intercalate_singleton]
      exact hfirst
    | cons hnext hlast =>
      rw [String.intercalate_cons_cons, List.intercalate_cons_cons, String.append_assoc,
        List.append_assoc]
      exact between ls hs hfit hhead hknown hfirst ih

theorem commas {texts : List String} {tss : List (List Token)} (h : List.Forall₂ Writes texts tss) :
    Writes (String.intercalate ", " texts) ([Token.symbol ","].intercalate tss) :=
  joined [.mark ",", .space] rfl (fun _ => rfl) (by decide) rfl h

theorem word {w : String} (h : isWord w.toList = true) : Writes w [.ofWord w] := by
  apply of_lexemes [.word w]
  · simp [spelled, spelling]
  · intro next hnext
    have hbreak : next.all isBreak = true := by
      revert next
      decide
    simp [fit, fits, h, firstChar, hbreak]

theorem number {digits : String} (h : isNumber digits.toList = true) :
    Writes digits [.number digits false] := by
  apply of_lexemes [.number digits]
  · simp [spelled, spelling]
  · intro next hnext
    have hbreak : (next.all fun c => isBreak c && c != '.') = true := by
      revert next
      decide
    simp [fit, fits, h, firstChar, hbreak]

end Writes

/-! ### Clauses in a row -/

/-- Texts, with spaces between them, are read as some tokens. -/
def WritesAll (texts : List String) (ts : List Token) : Prop :=
  ∃ tss, List.Forall₂ Writes texts tss ∧ tss.flatten = ts

namespace WritesAll

theorem one {text : String} {ts : List Token} (h : Writes text ts) : WritesAll [text] ts :=
  ⟨[ts], .cons h .nil, by simp⟩

theorem append {as bs : List String} {ts us : List Token} (ha : WritesAll as ts)
    (hb : WritesAll bs us) : WritesAll (as ++ bs) (ts ++ us) := by
  obtain ⟨tss, hts, rfl⟩ := ha
  obtain ⟨uss, hus, rfl⟩ := hb
  exact ⟨tss ++ uss, List.rel_append hts hus, List.flatten_append⟩

theorem writes {texts : List String} {ts : List Token} (h : WritesAll texts ts) :
    Writes (String.intercalate " " texts) ts := by
  obtain ⟨tss, htss, rfl⟩ := h
  have hjoined := Writes.joined [.space] rfl (fun _ => rfl) (by decide) rfl htss
  have hflat : ∀ tss : List (List Token), [].intercalate tss = tss.flatten := by
    intro tss
    induction tss with
    | nil => rfl
    | cons ts tss ih =>
      cases tss with
      | nil => simp
      | cons us tss => rw [List.intercalate_cons_cons, ih]; simp
  rw [← hflat]
  exact hjoined

end WritesAll

end Sql

open Sql

theorem writes_itemAlias (index : Nat) : Writes (itemAlias index) [.ofWord (itemAlias index)] := by
  apply Writes.word
  have hall := List.all_eq_true.mp (Text.all_isDigit_toString index)
  have hlist : (itemAlias index).toList = 'c' :: (toString index).toList := by
    rw [itemAlias, String.toList_append]
    rfl
  rw [hlist, Lexeme.isWord, Bool.and_eq_true, List.all_eq_true]
  refine ⟨by decide, ?_⟩
  intro c hc
  rw [hall c hc, Bool.or_true]

theorem writes_limit (n : UInt32) : Writes (toString n) [.number (toString n) false] := by
  apply Writes.number
  have htext : toString n = toString n.toNat := rfl
  rw [htext, Lexeme.isNumber, Text.all_isDigit_toString]
  simp

/-- An item with its name. -/
theorem writes_item {text : String} {x : ExprText} (h : Writes text x.tokens) (index : Nat) :
    Writes (text ++ " AS c" ++ toString index) (itemTokens (x, index)) := by
  have hbetween := Writes.between [.space, .word "AS", .space] rfl (fun _ => rfl) (by decide) rfl h
    (writes_itemAlias index)
  have htext : text ++ " AS c" ++ toString index = text ++ (" AS " ++ itemAlias index) := by
    rw [String.append_assoc, itemAlias, ← @String.append_assoc " AS "]
    rfl
  rw [htext]
  exact hbetween

theorem writes_namedItems {texts : List String} {xs : List ExprText}
    (h : List.Forall₂ (fun text x => Writes text x.tokens) texts xs) :
    List.Forall₂ Writes (Clauses.namedItems texts) (xs.zipIdx.map itemTokens) := by
  have hall : ∀ n, List.Forall₂ Writes
      ((texts.zipIdx n).map fun item => item.1 ++ " AS c" ++ toString item.2)
      ((xs.zipIdx n).map itemTokens) := by
    induction h with
    | nil => exact fun n => .nil
    | cons hfirst _ ih => exact fun n => .cons (writes_item hfirst n) (ih (n + 1))
  exact hall 0

theorem writes_conditions {texts : List String} {c : Conjunction} {first : String}
    (hfirst : Writes first c.first.tokens)
    (h : List.Forall₂ (fun text x => Writes text x.tokens) texts c.further) :
    Writes (String.intercalate " AND " (first :: texts)) c.tokens := by
  have htss : List.Forall₂ Writes (first :: texts) (c.first.tokens :: c.further.map (·.tokens)) :=
    .cons hfirst (List.forall₂_map_right_iff.mpr h)
  have hjoined : Writes (String.intercalate " AND " (first :: texts)) ([Token.reserved "AND"].intercalate
      (c.first.tokens :: c.further.map (·.tokens))) :=
    Writes.joined [.space, .word "AND", .space] rfl (fun _ => rfl) (by decide) rfl htss
  have hflat : ∀ (ts : List Token) (xs : List ExprText),
      [Token.reserved "AND"].intercalate (ts :: xs.map (·.tokens)) =
        ts ++ Conjunction.furtherTokens xs := by
    intro ts xs
    induction xs generalizing ts with
    | nil => simp [Conjunction.furtherTokens]
    | cons x xs ih =>
      rw [List.map_cons, List.intercalate_cons_cons, ih]
      simp [Conjunction.furtherTokens]
  rw [hflat] at hjoined
  exact hjoined

theorem writesAll_optionalClause {words : String} {ws : List String} {texts : List String}
    {tss : List (List Token)} (ls : List Lexeme) (hwords : words = Lexeme.spelled ls)
    (hfit : ∀ next, Lexeme.fit next ls = true) (hws : Lexeme.known? ls = some (ws.map .reserved))
    (h : List.Forall₂ Writes texts tss) :
    WritesAll (Clauses.optionalClause words texts) (clauseTokens ws tss) := by
  rw [Clauses.optionalClause, clauseTokens]
  cases h with
  | nil => exact ⟨[], .nil, rfl⟩
  | cons hfirst hothers =>
    exact .one ((Writes.commas (.cons hfirst hothers)).behind ls hwords hfit hws)

/-- The parts of a SELECT are read as those of a selection. -/
structure Clauses.Spelled (c : Clauses) (s : SelectText) : Prop where
  items : List.Forall₂ (fun text x => Writes text x.tokens) c.items s.items
  source : Writes c.source [.name s.table, .name s.name]
  joins : List.Forall₂ (fun text j => Writes text (LeftJoin.tokens j)) c.joins s.joins
  softDelete : Writes c.softDelete s.condition.first.tokens
  conditions : List.Forall₂ (fun cond x => Writes (Condition.sql cond) x.tokens) c.conditions
    s.condition.further
  groupBy : List.Forall₂ (fun text x => Writes text x.tokens) c.groupBy s.groupBy
  orderBy : List.Forall₂ (fun text k => Writes text (SortText.tokens k)) c.orderBy s.orderBy
  limit : toString c.limit = s.limit

/-- A SELECT is read as the selection whose parts its parts are read as. -/
theorem Clauses.Spelled.writes {c : Clauses} {s : SelectText} (h : c.Spelled s) :
    Writes c.sql s.tokens := by
  have hselect := (Writes.commas (writes_namedItems h.items)).behind (s := "SELECT ")
    [.word "SELECT", .space] rfl (fun _ => rfl) rfl
  have hfrom := h.source.behind (s := "FROM ") [.word "FROM", .space] rfl (fun _ => rfl) rfl
  have hjoins : WritesAll c.joins (s.joins.flatMap LeftJoin.tokens) :=
    ⟨s.joins.map LeftJoin.tokens, List.forall₂_map_right_iff.mpr h.joins, rfl⟩
  have hconditions := writes_conditions h.softDelete (List.forall₂_map_left_iff.mpr h.conditions)
  have hwhere := hconditions.behind (s := "WHERE ") [.word "WHERE", .space] rfl (fun _ => rfl) rfl
  have hgroups : WritesAll (optionalClause "GROUP BY " c.groupBy)
      (clauseTokens ["GROUP", "BY"] (s.groupBy.map (·.tokens))) :=
    writesAll_optionalClause [.word "GROUP", .space, .word "BY", .space] rfl (fun _ => rfl)
      rfl (List.forall₂_map_right_iff.mpr h.groupBy)
  have horder : WritesAll (optionalClause "ORDER BY " c.orderBy)
      (clauseTokens ["ORDER", "BY"] (s.orderBy.map (·.tokens))) :=
    writesAll_optionalClause [.word "ORDER", .space, .word "BY", .space] rfl (fun _ => rfl)
      rfl (List.forall₂_map_right_iff.mpr h.orderBy)
  have hlimit := (writes_limit c.limit).behind (s := "LIMIT ") [.word "LIMIT", .space] rfl (fun _ => rfl) rfl
  have hall := (WritesAll.one hselect).append ((WritesAll.one hfrom).append (hjoins.append
    ((WritesAll.one hwhere).append (hgroups.append (horder.append (WritesAll.one hlimit))))))
  have htexts : c.texts = ["SELECT " ++ String.intercalate ", " (namedItems c.items)] ++
      (["FROM " ++ c.source] ++ (c.joins ++
        (["WHERE " ++ String.intercalate " AND " (c.softDelete :: c.conditions.map (·.sql))] ++
          (optionalClause "GROUP BY " c.groupBy ++ (optionalClause "ORDER BY " c.orderBy ++
            ["LIMIT " ++ toString c.limit]))))) := by
    simp [texts, conditionTexts]
  rw [← htexts] at hall
  have htokens := hall.writes
  rw [h.limit] at htokens
  simpa [Lexeme.token?, sql, SelectText.tokens, SelectText.sourceTokens, SelectText.groupTokens,
    SelectText.orderTokens, SelectText.limitTokens] using htokens

end ScopedQuery
