import ScopedQuery.Proofs.Bound.Marks
import ScopedQuery.Proofs.Bound.Operands
import ScopedQuery.Proofs.Text.DisplayName
import ScopedQuery.Schema.Tasks
/-!
# Question marks, parameters and columns

* `Query.StandsFor` says which operand a question mark of a bound query stands for: the mark is found in
  the condition of the operand's filter, and the parameter with its number is read from the operand.
* `Query.Written.standsFor`: so it is with each question mark and each operand.
* `Query.bind_aligned` adds the numbers of parameters and question marks, and the names of the columns.
-/

namespace ScopedQuery

open Steps

namespace Query

/-- The number of operands of the first filters. -/
def operandsBefore (q : Query) (k : Nat) : Nat :=
  ((q.filters.take k).map (·.predicate.operands.length)).sum

/-- The question mark with number `j` stands for operand `i` of filter `k`. -/
structure StandsFor (q : Query) (d : Dataset) (dialect : Dialect) (b : BoundQuery)
    (j k i : Nat) : Prop where
  number : j = q.operandsBefore k + i
  /-- The parameter with this number is read from the operand. -/
  param : ∃ f field raw param, q.filters[k]? = some f ∧ d.field? f.field = some field ∧
    f.predicate.operands[i]? = some raw ∧ b.params[j]? = some param ∧
      Param.ofOperand field raw = .ok param ∧ param.IsOf field.type
  /-- The mark is the one with number `i` in the condition of the filter, before which the marks of the
  filters before stand. -/
  mark : ∃ f field before inside rest after, q.filters[k]? = some f ∧ d.field? f.field = some field ∧
    b.sql = before ++ (inside ++ "?" ++ rest) ++ after ∧
      inside ++ "?" ++ rest = f.predicate.sql (field.expressionIn dialect) ∧
        marksIn before = q.operandsBefore k ∧ marksIn inside = i

namespace Written

variable {q : Query} {d : Dataset} {dialect : Dialect} {c : Clauses}
  (h : q.Written d dialect c)

include h

/-- The parameters are those of the filters, one after the other. -/
theorem params_parts : ∃ parts, c.params = parts.flatten ∧
    List.Forall₂ (fun f params => ∃ field, d.field? (Filter.field f) = some field ∧
      List.Forall₂ (fun raw param => Param.ofOperand field raw = .ok param ∧ param.IsOf field.type)
        f.predicate.operands params) q.filters parts := by
  refine ⟨c.conditions.map (·.params), by rw [Clauses.params, List.flatMap_def], ?_⟩
  rw [List.forall₂_map_right_iff]
  refine h.conditions.imp fun f cond hcond => ?_
  obtain ⟨field, hfield, -, -, hparams⟩ := Filter.condition_eq_ok.mp hcond
  exact ⟨field, hfield, hparams.imp fun raw param hread => ⟨hread, Param.isOf_of_ofOperand hread⟩⟩

theorem length_params :
    c.params.length = (q.filters.map (·.predicate.operands.length)).sum := by
  have hall := h.params_before q.filters.length
  rw [List.take_of_length_le (Nat.le_of_eq h.conditions.length_eq.symm), List.take_length] at hall
  rw [Clauses.params, List.length_flatMap, ← hall]

variable (hd : d.Unmarked)

include hd

/-- The question marks of a bound query are those of its conditions. -/
theorem marksIn_sql : marksIn c.sql = (q.filters.map (·.predicate.operands.length)).sum := by
  have hwhere : marksIn "WHERE " = 0 := by decide
  have hsoft : marksIn c.softDelete = 0 := by rw [h.softDelete, hd.softDelete]
  rw [Clauses.sql, Clauses.texts_eq, marksIn_intercalate (by decide), List.map_append, List.map_cons,
    List.sum_append, List.sum_cons, sum_marksIn_eq_zero (h.marksIn_front hd),
    sum_marksIn_eq_zero (h.marksIn_back hd), marksIn_append, hwhere,
    marksIn_intercalate (by decide), List.map_cons, List.sum_cons, hsoft, List.map_map,
    ← h.marksIn_conditions hd]
  simp only [Nat.zero_add, Nat.add_zero]
  rfl

/-- The question marks before a condition are those of the conditions before it. -/
theorem marksIn_before (k : Nat) :
    (((c.softDelete :: c.conditions.map (·.sql)).take (k + 1)).map marksIn).sum =
      q.operandsBefore k := by
  have hsoft : marksIn c.softDelete = 0 := by rw [h.softDelete, hd.softDelete]
  rw [List.take_succ_cons, List.map_cons, List.sum_cons, hsoft, Nat.zero_add, operandsBefore,
    List.map_take, List.map_map, List.map_take, ← h.marksIn_conditions hd]
  rfl

/-- Each operand has its question mark and its parameter. -/
theorem standsFor {k i : Nat} {f : Filter} (hf : q.filters[k]? = some f)
    (hi : i < f.predicate.operands.length) :
    q.StandsFor d dialect ⟨c.sql, c.params, q.columns⟩ (q.operandsBefore k + i) k i := by
  obtain ⟨cond, hcond, hwritten⟩ := exists_partner h.conditions hf
  obtain ⟨field, hfield, -, hsql, hparams⟩ := Filter.condition_eq_ok.mp hwritten
  refine ⟨rfl, ?_, ?_⟩
  · obtain ⟨param, hparam, hread⟩ := exists_partner hparams (List.getElem?_eq_getElem hi)
    refine ⟨f, field, _, param, hf, hfield, List.getElem?_eq_getElem hi, ?_, hread,
      Param.isOf_of_ofOperand hread⟩
    rw [operandsBefore, ← h.params_before]
    exact Clauses.getElem?_params_add hcond hparam
  · have hpart : (c.softDelete :: c.conditions.map (·.sql))[k + 1]? = some cond.sql := by
      rw [List.getElem?_cons_succ, List.getElem?_map, hcond, Option.map_some]
    have hwhere : c.texts[c.front.length]? = some ("WHERE " ++
        String.intercalate " AND " (c.softDelete :: c.conditions.map (·.sql))) := by
      rw [Clauses.texts_eq, List.getElem?_append_right (Nat.le_refl _), Nat.sub_self]
      rfl
    obtain ⟨before, after, htext, hmarks⟩ := exists_around_part " " (by decide) hwhere
    obtain ⟨before', after', htext', hmarks'⟩ := exists_around_part " AND " (by decide) hpart
    obtain ⟨inside, rest, hinside, hmark⟩ :=
      Predicate.exists_around_mark hi (field.expressionIn dialect)
    refine ⟨f, field, before ++ "WHERE " ++ before', field.expressionIn dialect ++ inside, rest,
      after' ++ after, hf, hfield, ?_, hinside.symm, ?_, ?_⟩
    · rw [← hinside, ← hsql, Clauses.sql, htext, htext']
      simp only [String.append_assoc]
    · have hword : marksIn "WHERE " = 0 := by decide
      rw [Clauses.texts_eq, List.take_left, sum_marksIn_eq_zero (h.marksIn_front hd)] at hmarks
      rw [marksIn_append, marksIn_append, hmarks, hword, hmarks', h.marksIn_before hd, Nat.zero_add]
    · rw [marksIn_append, hd.field hfield, hmark, Nat.zero_add]

end Written

/-! ### Columns -/

/-- A column is named by a cleaned label, or in place of a blank one by something else. -/
def NamedBy (label fallback name : String) : Prop :=
  (Text.trim label ≠ "" → name = Text.cleanName (Text.trim label)) ∧
    (Text.trim label = "" → name = Text.cleanName fallback)

theorem namedBy_displayName (label fallback : String) :
    NamedBy label fallback (Text.displayName (some label) fallback) :=
  ⟨fun h => Text.displayName_of_filled h fallback, fun h => Text.displayName_of_blank h fallback⟩

/-- There is a column for each item of the select list. -/
theorem Written.length_columns {q : Query} {d : Dataset} {dialect : Dialect} {c : Clauses}
    (h : q.Written d dialect c) : q.columns.length = c.items.length := by
  obtain ⟨calls, hcalls, hitems⟩ := h.items
  rw [hitems, columns, List.length_append, List.length_append, List.length_map, List.length_map,
    h.groupBy.length_eq, hcalls.length_eq]

end Query

namespace Plan

theorem Dimension.check_label {d : Dataset} {x : Dimension} {y : Query.Dimension}
    (h : x.check d = .ok y) : Text.displayName (some y.label) y.field = y.label := by
  simp only [Dimension.check, bind_eq_ok, requireField_eq_ok, pure_eq_ok] at h
  obtain ⟨name, ⟨hname, -⟩, rfl⟩ := h
  obtain ⟨_, -, -, hfilled⟩ := Text.filled?_eq_some.mp hname
  exact Text.displayName_displayName _ hfilled _

theorem Measure.check_label {d : Dataset} {x : Measure} {y : Query.Measure}
    (h : x.check d = .ok y) :
    Text.displayName (some y.label) (y.agg.code ++ "_" ++ y.field) = y.label := by
  simp only [Measure.check, bind_eq_ok] at h
  obtain ⟨word, -, name, -, h⟩ := h
  split at h
  · cases h
  · obtain ⟨field, -, h⟩ := bind_eq_ok.mp h
    split at h
    · rw [← pure_eq_ok.mp h]
      exact Text.displayName_displayName _ (by simp [measureName]) _
    · cases h

/-- The labels of a checked query are the names of its columns. -/
theorem Checked.columns_eq {d : Dataset} {limits : Limits} {p : Plan} {q : Query}
    (h : Checked d limits p q) : q.columns = q.dimensions.map (·.label) ++ q.measures.map (·.label) := by
  have hdimensions : q.dimensions.map (fun y => Text.displayName (some y.label) y.field) =
      q.dimensions.map (·.label) := by
    refine List.map_congr_left fun y hy => ?_
    obtain ⟨x, -, hx⟩ := exists_origin h.dimensions hy
    exact Dimension.check_label hx
  have hmeasures :
      q.measures.map (fun y => Text.displayName (some y.label) (y.agg.code ++ "_" ++ y.field)) =
        q.measures.map (·.label) := by
    refine List.map_congr_left fun y hy => ?_
    obtain ⟨x, -, hx⟩ := exists_origin h.measures hy
    exact Measure.check_label hx
  rw [Query.columns, hdimensions, hmeasures]

end Plan

/-! ### Bound queries -/

/-- A bound query of a dataset without question marks of its own has as many of them as parameters, one for
each operand of its filters. The parameters are read from the operands, filter by filter, as values of the
types of their fields, and each question mark stands in the condition whose operand the parameter with
its number is. There is a column for each item of the select list, named by a label or, if that is
blank, by the field or by the aggregation and the field; the labels of a checked query are such names. -/
theorem Query.bind_aligned {q : Query} {registry : Registry} {dialect : Dialect} {b : BoundQuery}
    (hd : registry.dataset.Unmarked) (h : q.bind registry dialect = .ok b) :
    b.placeholders = b.params.length ∧
    b.params.length = (q.filters.map (·.predicate.operands.length)).sum ∧
    (∃ parts, b.params = parts.flatten ∧
      List.Forall₂ (fun f params => ∃ field, registry.dataset.field? (Filter.field f) = some field ∧
        List.Forall₂ (fun raw param => Param.ofOperand field raw = .ok param ∧ param.IsOf field.type)
          f.predicate.operands params) q.filters parts) ∧
    (∀ j < b.params.length, ∃ k i, q.StandsFor registry.dataset dialect b j k i) ∧
    (∃ c, q.Written registry.dataset dialect c ∧ b.sql = c.sql ∧ b.columns.length = c.items.length) ∧
    (∃ dims measures, b.columns = dims ++ measures ∧
      List.Forall₂ (fun x => NamedBy (Dimension.label x) (Dimension.field x)) q.dimensions dims ∧
      List.Forall₂ (fun x => NamedBy (Measure.label x) ((Measure.agg x).code ++ "_" ++ Measure.field x))
        q.measures measures) ∧
    ∀ limits p, Plan.check registry limits p = .ok (.query q) →
      b.columns = q.dimensions.map (·.label) ++ q.measures.map (·.label) := by
  obtain ⟨-, c, hwritten, rfl⟩ := Query.bind_eq_ok.mp h
  have hparams := hwritten.length_params
  refine ⟨(hwritten.marksIn_sql hd).trans hparams.symm, hparams, hwritten.params_parts, ?_,
    ⟨c, hwritten, rfl, hwritten.length_columns⟩, ?_, ?_⟩
  · intro j hj
    rw [hparams] at hj
    obtain ⟨k, i, n, hn, hi, rfl⟩ := exists_place hj
    rw [List.getElem?_map, Option.map_eq_some_iff] at hn
    obtain ⟨f, hf, rfl⟩ := hn
    rw [← List.map_take]
    exact ⟨k, i, hwritten.standsFor hd hf hi⟩
  · refine ⟨_, _, rfl, ?_, ?_⟩
    · rw [List.forall₂_map_right_iff, List.forall₂_same]
      exact fun x _ => namedBy_displayName x.label x.field
    · rw [List.forall₂_map_right_iff, List.forall₂_same]
      exact fun x _ => namedBy_displayName x.label (x.agg.code ++ "_" ++ x.field)
  · intro limits p hcheck
    obtain ⟨-, -, hchecked⟩ := Plan.check_eq_query.mp hcheck
    exact hchecked.columns_eq

/-- The tasks of some states and of January by state, for which MySQL is given four parameters. -/
theorem Query.bind_aligned_in_january :
    let p : Plan := {
      dataset := some "TASK"
      measures := [{ agg := some "COUNT", field := some "TASK_ID" }]
      dimensions := [{ field := some "STATUS", label := some " the state" }]
      filters := [
        { field := some "STATUS", op := some "IN", values := ["DONE", " ", "?"] },
        { field := some "PUBLISHED_TIME", op := some "BETWEEN", low := some "2024-01-01",
          high := some "2024-01-31 23:59" }] }
    ∃ q b, p.check .builtin .standard = .ok (.query q) ∧ q.bind .builtin .mysql = .ok b ∧
      b.placeholders = b.params.length ∧ b.params.length = 4 ∧
        b.columns = ["the_state", "COUNT_TASK_ID"] ∧
          q.columns = q.dimensions.map (·.label) ++ q.measures.map (·.label) ∧
            ∀ j < 4, ∃ k i, q.StandsFor .tasks .mysql b j k i := by
  intro p
  have hbound : (p.bound? .builtin .standard .mysql).map (fun b => (b.params.length, b.columns)) =
      some (4, ["the_state", "COUNT_TASK_ID"]) := by decide
  obtain ⟨b, hb, hparts⟩ := Option.map_eq_some_iff.mp hbound
  obtain ⟨hlength, hcolumns⟩ := Prod.mk.inj hparts
  obtain ⟨q, hcheck, hbind⟩ := Plan.bound?_eq_some.mp hb
  obtain ⟨hmarks, -, -, hstands, -, -, hlabels⟩ := Query.bind_aligned Dataset.tasks_unmarked hbind
  obtain ⟨-, c, -, rfl⟩ := Query.bind_eq_ok.mp hbind
  exact ⟨q, _, hcheck, hbind, hmarks, hlength, hcolumns, hlabels _ p hcheck, hlength ▸ hstands⟩

end ScopedQuery
