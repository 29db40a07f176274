import ScopedQuery.Proofs.Bound.Marks
import ScopedQuery.Proofs.Bound.Selected
import ScopedQuery.Proofs.Text.Neat
import ScopedQuery.Sql.Safety
/-!
# Bound queries as they are read for the safety check

The check reads a text with zeros for its question marks and without needless blanks.

* `Sql.zeroed` writes the zeros. Of a bound query it changes the conditions only (`Query.Written.zeroed_sql`).
* `Query.Written.neat_sql`: a bound query of a neat dataset has no needless blanks.
* `Query.Written.normalised_statements?`: what the check reads of a bound query is the selection that the
  query is meant to be, with zeros for its operands.
-/

namespace ScopedQuery

open Sql Text

/-! ### Zeros -/

namespace Sql

/-- A text with a zero for each question mark. -/
def zeroed (text : String) : String :=
  String.ofList (text.toList.map fun c => if c = '?' then '0' else c)

theorem normalised_eq (text : String) : normalised text = collapse (zeroed text) := rfl

theorem zeroed_append (a b : String) : zeroed (a ++ b) = zeroed a ++ zeroed b := by
  rw [zeroed, String.toList_append, List.map_append, String.ofList_append, ← zeroed, ← zeroed]

theorem zeroed_intercalate (sep : String) (texts : List String) :
    zeroed (String.intercalate sep texts) =
      String.intercalate (zeroed sep) (texts.map zeroed) := by
  induction texts with
  | nil => rfl
  | cons t texts ih =>
    cases texts with
    | nil => rfl
    | cons u texts =>
      rw [String.intercalate_cons_cons, zeroed_append, zeroed_append, ih]
      exact String.intercalate_cons_cons.symm

/-- A text without question marks stays as it is. -/
theorem zeroed_eq_self {text : String} (h : marksIn text = 0) : zeroed text = text := by
  have hmap : text.toList.map (fun c => if c = '?' then '0' else c) = text.toList := by
    refine (List.map_congr_left fun c hc => ?_).trans (List.map_id' _)
    have hmark : c ≠ '?' := by
      rintro rfl
      exact List.count_eq_zero.mp h hc
    rw [if_neg hmark]
  rw [zeroed, hmap, String.ofList_toList]

theorem map_zeroed_eq_self {texts : List String} (h : ∀ t ∈ texts, marksIn t = 0) :
    texts.map zeroed = texts :=
  (List.map_congr_left fun t ht => zeroed_eq_self (h t ht)).trans (List.map_id' _)

/-- The zeros of a predicate stand in the places of its operands. -/
theorem zeroed_predicate {text : String} (h : marksIn text = 0) (p : Predicate) :
    zeroed (p.sql text) = p.textWith "0" text := by
  have htext := zeroed_eq_self h
  have hzero : zeroed "?" = "0" := by decide
  rw [Predicate.sql_eq]
  cases p with
  | compare op _ =>
    have hop : zeroed op.sql = op.sql := by cases op <;> decide
    have hspace : zeroed " " = " " := by decide
    simp only [Predicate.textWith, zeroed_append, htext, hop, hspace, hzero]
  | oneOf values =>
    have hopen : zeroed " IN (" = " IN (" := by decide
    have hcomma : zeroed "," = "," := by decide
    have hclose : zeroed ")" = ")" := by decide
    simp only [Predicate.textWith, zeroed_append, zeroed_intercalate, List.map_replicate, htext, hopen,
      hcomma, hclose, hzero]
  | between _ _ =>
    have hbetween : zeroed " BETWEEN " = " BETWEEN " := by decide
    have hand : zeroed " AND " = " AND " := by decide
    simp only [Predicate.textWith, zeroed_append, htext, hbetween, hand, hzero]

end Sql

/-- With zeros for question marks, conditions have zeros for their operands. -/
theorem Dataset.Unmarked.readWith_zero {d : Dataset} (hd : d.Unmarked) (dialect : Dialect) :
    d.ReadWith dialect zeroed .zero := by
  have hzero : Writes "0" ExprText.zero.tokens :=
    Writes.phrase [.number "0"] (by decide) (by decide) rfl
  intro f hf x hx p
  rw [zeroed_predicate (hd.fields f hf dialect)]
  exact Predicate.writes_textWith hx hzero p

namespace Query.Written

variable {q : Query} {d : Dataset} {dialect : Dialect} {c : Clauses}
  (h : q.Written d dialect c) (hd : d.Unmarked)

include h hd

/-- Only the conditions of a bound query have question marks to write zeros for. -/
theorem zeroed_sql : zeroed c.sql = (c.rewritten zeroed).sql := by
  have hspace : zeroed " " = " " := by decide
  have hand : zeroed " AND " = " AND " := by decide
  have hwhere : zeroed "WHERE " = "WHERE " := by decide
  have hsoft : zeroed c.softDelete = c.softDelete := by
    rw [h.softDelete]
    exact zeroed_eq_self hd.softDelete
  have hconditions : (c.conditions.map (·.sql)).map zeroed =
      (c.rewritten zeroed).conditions.map (·.sql) := by
    rw [Clauses.rewritten, List.map_map, List.map_map]
    rfl
  rw [Clauses.sql, Clauses.sql, zeroed_intercalate, hspace, c.texts_eq, (c.rewritten zeroed).texts_eq,
    List.map_append, List.map_cons, zeroed_append, hwhere, zeroed_intercalate, hand, List.map_cons,
    hsoft, hconditions, map_zeroed_eq_self (h.marksIn_front hd), map_zeroed_eq_self (h.marksIn_back hd)]
  rfl

end Query.Written

/-! ### Neatness -/

/-- The texts of a dataset are neat. -/
structure Dataset.Neat (d : Dataset) : Prop where
  table : Text.Neat d.table
  shortName : Text.Neat d.shortName
  softDelete : Text.Neat d.softDelete
  fields : ∀ f ∈ d.fields, ∀ dialect, Text.Neat (Field.expressionIn f dialect)
  joins : ∀ j ∈ d.joins, Text.Neat (JoinClause.sql j)

theorem Dataset.tasks_neat : Dataset.tasks.Neat where
  table := by decide
  shortName := by decide
  softDelete := by decide
  fields := by
    have hall : ∀ f ∈ Dataset.tasks.fields,
        Text.Neat (f.expressionIn .mysql) ∧ Text.Neat (f.expressionIn .sqlite) := by
      decide +kernel
    intro f hf dialect
    cases dialect with
    | mysql => exact (hall f hf).1
    | sqlite => exact (hall f hf).2
  joins := by decide +kernel

theorem Text.Neat.called {word text : String} (hword : Neat word) (h : Neat text) :
    Neat (word ++ "(" ++ text ++ ")") :=
  ((hword.append (by decide)).append h).append (by decide)

theorem Aggregation.neat_wrap {text : String} (h : Neat text) (agg : Aggregation) :
    Neat (agg.wrap text) := by
  have hcode : Neat agg.code := by cases agg <;> decide
  cases agg with
  | countDistinct =>
    have hfront : Neat "COUNT(DISTINCT" := by decide
    exact (hfront.spaced h).append (by decide)
  | _ => exact hcode.called h

theorem Predicate.neat_textWith {mark text : String} (hmark : Neat mark) (h : Neat text)
    {p : Predicate} (hp : p ≠ .oneOf []) : Neat (p.textWith mark text) := by
  cases p with
  | compare op _ =>
    have hop : Neat op.sql := by cases op <;> decide
    exact (h.spaced hop).spaced hmark
  | oneOf values =>
    have hne : List.replicate values.length mark ≠ [] := by
      cases values with
      | nil => exact absurd rfl hp
      | cons v vs => exact List.cons_ne_nil _ _
    have hlist : Neat (String.intercalate "," (List.replicate values.length mark)) :=
      Neat.intercalate (fun a b ha hb => (ha.append (by decide)).append hb) hne fun t ht =>
        (List.mem_replicate.mp ht).2 ▸ hmark
    have hopen : " IN (" = " " ++ "IN" ++ " " ++ "(" := by decide
    have hparens : Neat ("(" ++ String.intercalate "," (List.replicate values.length mark) ++ ")") :=
      (Neat.append (by decide) hlist).append (by decide)
    have htext := h.around (show Neat "IN" by decide) hparens
    simpa only [textWith, hopen, String.append_assoc] using htext
  | between _ _ =>
    have hbetween : " BETWEEN " = " " ++ "BETWEEN" ++ " " := by decide
    have hand : " AND " = " " ++ "AND" ++ " " := by decide
    rw [textWith, hbetween, hand]
    exact (h.around (by decide) hmark).around (by decide) hmark

namespace Clauses

theorem neat_optionalClause {w words : String} {parts : List String} (hwords : words = w ++ " ")
    (hw : Neat w) (hparts : ∀ t ∈ parts, Neat t) : ∀ t ∈ optionalClause words parts, Neat t := by
  rw [optionalClause, hwords]
  split
  · exact List.forall_mem_nil _
  · next hne =>
    rw [List.forall_mem_singleton]
    exact hw.spaced (Neat.commas (by simpa using hne) hparts)

theorem neat_namedItems {items : List String} (hne : items ≠ []) (h : ∀ t ∈ items, Neat t) :
    Neat (String.intercalate ", " (namedItems items)) := by
  refine Neat.commas (by simpa [namedItems] using hne) ?_
  have has : " AS c" = " " ++ "AS c" := by decide
  rw [namedItems, List.forall_mem_map, has]
  intro item hitem
  rw [← String.append_assoc]
  exact ((h item.1 (List.fst_mem_of_mem_zipIdx hitem)).spaced (by decide)).append
    (neat_toString item.2)

theorem neat_conditions {first : String} {texts : List String} (hfirst : Neat first)
    (h : ∀ t ∈ texts, Neat t) : Neat (String.intercalate " AND " (first :: texts)) := by
  have hand : " AND " = " " ++ "AND" ++ " " := by decide
  refine Neat.intercalate (fun a b ha hb => ?_) (List.cons_ne_nil _ _) ?_
  · rw [hand]
    exact ha.around (by decide) hb
  · rw [List.forall_mem_cons]
    exact ⟨hfirst, h⟩

end Clauses

namespace Query.Written

variable {q : Query} {d : Dataset} {dialect : Dialect} {c : Clauses}
  (h : q.Written d dialect c) (hd : d.Neat)

include h hd

theorem neat_front : ∀ t ∈ c.front, Neat t := by
  have hselect : "SELECT " = "SELECT" ++ " " := by decide
  have hfrom : "FROM " = "FROM" ++ " " := by decide
  have hitems := h.forall_items (fun f hf => hd.fields f hf dialect) fun agg _ ht => agg.neat_wrap ht
  rw [Clauses.front, List.forall_mem_cons, List.forall_mem_cons, hselect, hfrom, h.source]
  refine ⟨?_, ?_, h.forall_joins hd.joins⟩
  · exact Neat.spaced (by decide) (Clauses.neat_namedItems h.selected hitems)
  · exact Neat.spaced (by decide) (hd.table.spaced hd.shortName)

theorem neat_back : ∀ t ∈ c.back, Neat t := by
  have hlimit : "LIMIT " = "LIMIT" ++ " " := by decide
  have hfield : ∀ f ∈ d.fields, Neat (Field.expressionIn f dialect) := fun f hf =>
    hd.fields f hf dialect
  have hkeys := h.forall_orderBy hfield fun direction _ ht =>
    ht.spaced (by cases direction <;> decide)
  rw [Clauses.back, List.forall_mem_append, List.forall_mem_append, List.forall_mem_singleton, hlimit]
  refine ⟨⟨?_, ?_⟩, ?_⟩
  · exact Clauses.neat_optionalClause (w := "GROUP BY") rfl (by decide) (h.forall_groupBy hfield)
  · exact Clauses.neat_optionalClause (w := "ORDER BY") rfl (by decide) hkeys
  · exact Neat.spaced (by decide) (neat_toString c.limit.toNat)

/-- A bound query has no needless blanks if the texts of its conditions have none. -/
theorem neat_sql {rewrite : String → String}
    (hconditions : ∀ t ∈ (c.rewritten rewrite).conditions.map (·.sql), Neat t) :
    Neat (c.rewritten rewrite).sql := by
  have hwhere : "WHERE " = "WHERE" ++ " " := by decide
  have hsoft : Neat c.softDelete := h.softDelete ▸ hd.softDelete
  rw [Clauses.sql, Clauses.texts_eq]
  refine Neat.intercalate (fun a b ha hb => ha.spaced hb) (by simp) ?_
  rw [List.forall_mem_append, List.forall_mem_cons, hwhere]
  exact ⟨h.neat_front hd, Neat.spaced (by decide) (Clauses.neat_conditions hsoft hconditions),
    h.neat_back hd⟩

/-- What the safety check reads of a bound query. -/
theorem normalised_sql (hmarks : d.Unmarked) :
    normalised c.sql = (c.rewritten zeroed).sql := by
  rw [normalised_eq, h.zeroed_sql hmarks]
  apply Neat.collapse
  apply h.neat_sql hd
  have hzeroed : (c.rewritten zeroed).conditions.map (·.sql) = (c.conditions.map (·.sql)).map zeroed := by
    rw [Clauses.rewritten, List.map_map, List.map_map]
    rfl
  rw [hzeroed, List.forall_mem_map]
  refine h.forall_conditions fun f hf p hp => ?_
  rw [zeroed_predicate (hmarks.fields f hf dialect)]
  exact Predicate.neat_textWith (by decide) (hd.fields f hf dialect) hp

/-- What the check reads of a bound query is the selection that the query is meant to be, with zeros
for its operands. -/
theorem normalised_statements? {r : DatasetText} (hread : d.Read dialect r) (hmarks : d.Unmarked) :
    ∃ s, q.Selects d dialect r .zero s ∧ Sql.statements? (normalised c.sql) = some [.query s.query] := by
  obtain ⟨s, hs, hspelled⟩ := h.exists_selects hread (hmarks.readWith_zero dialect)
  rw [h.normalised_sql hd hmarks]
  exact ⟨s, hs, (hs.sound hread (ExprText.operand_zero 2)).statements? hspelled.writes⟩

end Query.Written

end ScopedQuery
