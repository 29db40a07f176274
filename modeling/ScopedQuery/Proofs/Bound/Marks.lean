import ScopedQuery.Proofs.Bound.Clauses
import ScopedQuery.Schema.Tasks
/-!
# Question marks of a bound query

* `marksIn` counts the question marks of a text.
* `Dataset.Unmarked` holds of a dataset whose own texts have none.
* `exists_around_part` and `Predicate.exists_around_mark` find a part of a text, and a question mark of a
  predicate, with the question marks before it.
* `Query.Written.marksIn_front`, `Query.Written.marksIn_conditions` and `Query.Written.marksIn_back`: the
  question marks of a bound query are those of its conditions, one for each operand.
-/

namespace ScopedQuery

/-- The number of question marks in a text. -/
def marksIn (s : String) : Nat := s.toList.count '?'

@[simp] theorem marksIn_append (a b : String) : marksIn (a ++ b) = marksIn a + marksIn b := by
  rw [marksIn, String.toList_append, List.count_append, ← marksIn, ← marksIn]

theorem marksIn_intercalate {sep : String} (hsep : marksIn sep = 0) (texts : List String) :
    marksIn (String.intercalate sep texts) = (texts.map marksIn).sum := by
  induction texts with
  | nil => rfl
  | cons t texts ih =>
    cases texts with
    | nil => simp
    | cons u texts =>
      rw [String.intercalate_cons_cons, marksIn_append, marksIn_append, hsep, ih, Nat.add_zero]
      rfl

theorem sum_marksIn_eq_zero {texts : List String} (h : ∀ t ∈ texts, marksIn t = 0) :
    (texts.map marksIn).sum = 0 := by
  rw [List.map_eq_replicate_iff.mpr h, List.sum_replicate_nat, Nat.mul_zero]

/-- Texts without question marks stay without them in a row. -/
theorem marksIn_intercalate_eq_zero {sep : String} (hsep : marksIn sep = 0) {texts : List String}
    (h : ∀ t ∈ texts, marksIn t = 0) : marksIn (String.intercalate sep texts) = 0 := by
  rw [marksIn_intercalate hsep, sum_marksIn_eq_zero h]

theorem marksIn_toString (n : Nat) : marksIn (toString n) = 0 := by
  rw [marksIn, List.count_eq_zero]
  intro hmem
  have hdigit := List.all_eq_true.mp (Text.all_isDigit_toString n) '?' hmem
  exact absurd hdigit (by decide)

/-- A part of a text that is joined, with the question marks before it. -/
theorem exists_around_part (sep : String) (hsep : marksIn sep = 0) {texts : List String} {k : Nat}
    {t : String} (h : texts[k]? = some t) :
    ∃ before after, String.intercalate sep texts = before ++ t ++ after ∧
      marksIn before = ((texts.take k).map marksIn).sum := by
  induction texts generalizing k with
  | nil => simp at h
  | cons u texts ih =>
    cases k with
    | zero =>
      obtain rfl : u = t := by simpa using h
      cases texts with
      | nil => exact ⟨"", "", by simp, rfl⟩
      | cons v texts =>
        refine ⟨"", sep ++ String.intercalate sep (v :: texts), ?_, rfl⟩
        rw [String.intercalate_cons_cons, String.empty_append, String.append_assoc]
    | succ k =>
      rw [List.getElem?_cons_succ] at h
      cases texts with
      | nil => simp at h
      | cons v texts =>
        obtain ⟨before, after, htext, hmarks⟩ := ih h
        refine ⟨u ++ sep ++ before, after, ?_, ?_⟩
        · rw [String.intercalate_cons_cons, htext]
          simp only [String.append_assoc]
        · rw [marksIn_append, marksIn_append, hsep, hmarks, List.take_succ_cons, List.map_cons,
            List.sum_cons, Nat.add_zero]

/-! ### Parts of a query -/

theorem marksIn_marks (n : Nat) : marksIn (marks n) = n := by
  have hmark : marksIn "?" = 1 := by decide
  rw [marks, marksIn_intercalate (by decide), List.map_replicate, hmark, List.sum_replicate_nat,
    Nat.mul_one]

/-- A predicate adds a question mark for each of its operands. -/
theorem Predicate.marksIn_sql (text : String) (p : Predicate) :
    marksIn (p.sql text) = marksIn text + p.operands.length := by
  cases p with
  | compare op _ =>
    have hop : marksIn op.sql = 0 := by cases op <;> decide
    have hspace : marksIn " " = 0 := by decide
    have hmark : marksIn " ?" = 1 := by decide
    rw [sql, marksIn_append, marksIn_append, marksIn_append, hop, hspace, hmark, operands,
      List.length_singleton, Nat.add_zero, Nat.add_zero]
  | oneOf values =>
    have hopen : marksIn " IN (" = 0 := by decide
    have hclose : marksIn ")" = 0 := by decide
    rw [sql, marksIn_append, marksIn_append, marksIn_append, marksIn_marks, hopen, hclose, operands,
      Nat.add_zero, Nat.add_zero]
  | between _ _ =>
    have hmarks : marksIn " BETWEEN ? AND ?" = 2 := by decide
    rw [sql, marksIn_append, hmarks, operands, List.length_cons, List.length_singleton]

/-- The question mark of an operand, with those before it. -/
theorem Predicate.exists_around_mark {p : Predicate} {i : Nat} (h : i < p.operands.length)
    (text : String) : ∃ before after, p.sql text = text ++ before ++ "?" ++ after ∧
      marksIn before = i := by
  cases p with
  | compare op v =>
    have hop : marksIn op.sql = 0 := by cases op <;> decide
    have hspace : marksIn " " = 0 := by decide
    have hi : i = 0 := by simpa [operands] using h
    refine ⟨" " ++ op.sql ++ " ", "", ?_, ?_⟩
    · simp only [sql, String.append_empty, String.append_assoc]
      rfl
    · rw [marksIn_append, marksIn_append, hop, hspace, hi]
  | oneOf values =>
    have hlt : i < values.length := h
    have hget : (List.replicate values.length "?")[i]? = some "?" := by
      rw [List.getElem?_replicate, if_pos hlt]
    obtain ⟨before, after, hmarks, hcount⟩ := exists_around_part "," (by decide) hget
    refine ⟨" IN (" ++ before, after ++ ")", ?_, ?_⟩
    · simp only [sql, marks, hmarks, String.append_assoc]
    · have hopen : marksIn " IN (" = 0 := by decide
      have hmark : marksIn "?" = 1 := by decide
      rw [marksIn_append, hopen, hcount, List.take_replicate, List.map_replicate, hmark,
        List.sum_replicate_nat, Nat.mul_one, Nat.zero_add]
      exact Nat.min_eq_left (Nat.le_of_lt hlt)
  | between low high =>
    have hi : i = 0 ∨ i = 1 := by
      simp only [operands, List.length_cons, List.length_nil] at h
      omega
    rcases hi with rfl | rfl
    · refine ⟨" BETWEEN ", " AND ?", ?_, by decide⟩
      simp only [sql, String.append_assoc]
      rfl
    · refine ⟨" BETWEEN ? AND ", "", ?_, by decide⟩
      simp only [sql, String.append_assoc]
      rfl

theorem Aggregation.marksIn_wrap (agg : Aggregation) (text : String) :
    marksIn (agg.wrap text) = marksIn text := by
  have hcall : ∀ front : String, marksIn front = 0 →
      marksIn (front ++ text ++ ")") = marksIn text := by
    intro front hfront
    have hclose : marksIn ")" = 0 := by decide
    rw [marksIn_append, marksIn_append, hfront, hclose, Nat.zero_add, Nat.add_zero]
  have hcode : marksIn (agg.code ++ "(") = 0 := by cases agg <;> decide
  cases agg with
  | countDistinct => exact hcall "COUNT(DISTINCT " (by decide)
  | _ => exact hcall _ hcode

/-- A dataset in whose own texts there are no question marks. -/
structure Dataset.Unmarked (d : Dataset) : Prop where
  table : marksIn d.table = 0
  shortName : marksIn d.shortName = 0
  softDelete : marksIn d.softDelete = 0
  fields : ∀ f ∈ d.fields, ∀ dialect, marksIn (Field.expressionIn f dialect) = 0
  joins : ∀ j ∈ d.joins, marksIn (JoinClause.sql j) = 0

theorem Dataset.tasks_unmarked : Dataset.tasks.Unmarked where
  table := by decide
  shortName := by decide
  softDelete := by decide
  fields := by
    have hall : ∀ f ∈ Dataset.tasks.fields,
        marksIn (f.expressionIn .mysql) = 0 ∧ marksIn (f.expressionIn .sqlite) = 0 := by
      decide +kernel
    intro f hf dialect
    cases dialect with
    | mysql => exact (hall f hf).1
    | sqlite => exact (hall f hf).2
  joins := by decide +kernel

section

variable {d : Dataset} (hd : d.Unmarked) {dialect : Dialect}

include hd

theorem Dataset.Unmarked.field {name : String} {field : Field} (h : d.field? name = some field) :
    marksIn (field.expressionIn dialect) = 0 :=
  hd.fields field (List.mem_of_find?_eq_some h) dialect

/-- A condition has as many question marks as its filter has operands. -/
theorem Query.Filter.marksIn_condition {f : Query.Filter} {cond : Condition}
    (h : f.condition d dialect = .ok cond) : marksIn cond.sql = f.predicate.operands.length := by
  obtain ⟨field, hfield, -, hsql, -⟩ := Query.Filter.condition_eq_ok.mp h
  rw [hsql, Predicate.marksIn_sql, hd.field hfield, Nat.zero_add]

end

/-! ### Clauses -/

theorem Clauses.marksIn_namedItems {items : List String} (h : ∀ t ∈ items, marksIn t = 0) :
    ∀ t ∈ Clauses.namedItems items, marksIn t = 0 := by
  have has : marksIn " AS c" = 0 := by decide
  rw [Clauses.namedItems, List.forall_mem_map]
  intro item hitem
  rw [marksIn_append, marksIn_append, h item.1 (List.fst_mem_of_mem_zipIdx hitem), has,
    marksIn_toString]

theorem Clauses.marksIn_optionalClause {words : String} (hwords : marksIn words = 0)
    {parts : List String} (h : ∀ t ∈ parts, marksIn t = 0) :
    ∀ t ∈ Clauses.optionalClause words parts, marksIn t = 0 := by
  rw [Clauses.optionalClause]
  split
  · exact List.forall_mem_nil _
  · rw [List.forall_mem_singleton, marksIn_append, hwords,
      marksIn_intercalate_eq_zero (by decide) h]

namespace Query.Written

variable {q : Query} {d : Dataset} {dialect : Dialect} {c : Clauses}
  (h : q.Written d dialect c) (hd : d.Unmarked)

include h hd

theorem marksIn_groupBy : ∀ t ∈ c.groupBy, marksIn t = 0 :=
  h.forall_groupBy fun f hf => hd.fields f hf dialect

theorem marksIn_items : ∀ t ∈ c.items, marksIn t = 0 :=
  h.forall_items (fun f hf => hd.fields f hf dialect) fun agg _ ht =>
    (agg.marksIn_wrap _).trans ht

theorem marksIn_orderBy : ∀ t ∈ c.orderBy, marksIn t = 0 := by
  refine h.forall_orderBy (fun f hf => hd.fields f hf dialect) fun direction t ht => ?_
  have hspace : marksIn " " = 0 := by decide
  have hdirection : marksIn direction.sql = 0 := by cases direction <;> decide
  rw [marksIn_append, marksIn_append, ht, hspace, hdirection]

/-- There are no question marks before WHERE. -/
theorem marksIn_front : ∀ t ∈ c.front, marksIn t = 0 := by
  have hselect : marksIn "SELECT " = 0 := by decide
  have hfrom : marksIn "FROM " = 0 := by decide
  have hspace : marksIn " " = 0 := by decide
  rw [Clauses.front, List.forall_mem_cons, List.forall_mem_cons]
  refine ⟨?_, ?_, ?_⟩
  · rw [marksIn_append, hselect,
      marksIn_intercalate_eq_zero (by decide) (Clauses.marksIn_namedItems (h.marksIn_items hd))]
  · rw [marksIn_append, hfrom, h.source, Dataset.source, marksIn_append, marksIn_append, hd.table,
      hspace, hd.shortName]
  · exact h.forall_joins hd.joins

/-- There are no question marks behind the conditions. -/
theorem marksIn_back : ∀ t ∈ c.back, marksIn t = 0 := by
  have hlimit : marksIn "LIMIT " = 0 := by decide
  rw [Clauses.back, List.forall_mem_append, List.forall_mem_append, List.forall_mem_singleton]
  refine ⟨⟨?_, ?_⟩, ?_⟩
  · exact Clauses.marksIn_optionalClause (by decide) (h.marksIn_groupBy hd)
  · exact Clauses.marksIn_optionalClause (by decide) (h.marksIn_orderBy hd)
  · rw [marksIn_append, hlimit, Nat.zero_add]
    exact marksIn_toString c.limit.toNat

/-- The conditions have a question mark for each operand of their filters. -/
theorem marksIn_conditions : c.conditions.map (fun cond => marksIn cond.sql) =
    q.filters.map (·.predicate.operands.length) := by
  have hall : ∀ {fs : List Filter} {cs : List Condition},
      List.Forall₂ (fun f cond => Filter.condition f d dialect = .ok cond) fs cs →
        cs.map (fun cond => marksIn cond.sql) = fs.map (·.predicate.operands.length) := by
    intro fs cs hfs
    induction hfs with
    | nil => rfl
    | cons hfirst _ ih =>
      rw [List.map_cons, List.map_cons, ih, Filter.marksIn_condition hd hfirst]
  exact hall h.conditions

end Query.Written

end ScopedQuery
