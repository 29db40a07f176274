import ScopedQuery.Proofs.Bound.Clauses
import ScopedQuery.Schema.Tasks
/-!
# Operands and labels never reach the text

* `Query.SameShape` relates queries that differ in their labels and in the texts of their operands only,
  and `Query.SameNames` those that have the same labels.
* `Query.SameShape.sql_eq`: queries of the same shape have the same text.
* `Query.bind_noninterference` adds what parameters and columns depend on, and that labels do not decide
  whether a query is bound.
-/

namespace ScopedQuery

open Steps

/-- Two predicates have the same operator and as many operands. -/
inductive Predicate.SameShape : Predicate → Predicate → Prop
  | compare (op : CompareOp) (v w : String) : SameShape (.compare op v) (.compare op w)
  | oneOf (vs ws : List String) (length : vs.length = ws.length) : SameShape (.oneOf vs) (.oneOf ws)
  | between (low high low' high' : String) : SameShape (.between low high) (.between low' high')

/-- The text of a predicate does not depend on its operands. -/
theorem Predicate.SameShape.sql_eq {p r : Predicate} (h : p.SameShape r) (text : String) :
    p.sql text = r.sql text := by
  cases h with
  | compare op v w => rfl
  | oneOf vs ws hlength => rw [Predicate.sql, Predicate.sql, hlength]
  | between low high low' high' => rfl

namespace Query

/-- Two queries differ in their labels and in the texts of their operands only. -/
structure SameShape (q r : Query) : Prop where
  dataset : q.dataset = r.dataset
  dimensions : List.Forall₂ (fun x y => Dimension.field x = Dimension.field y) q.dimensions r.dimensions
  measures : List.Forall₂ (fun x y => Measure.agg x = Measure.agg y ∧ Measure.field x = Measure.field y)
    q.measures r.measures
  filters : List.Forall₂ (fun x y => Filter.field x = Filter.field y ∧
    Predicate.SameShape (Filter.predicate x) (Filter.predicate y)) q.filters r.filters
  orderBy : q.orderBy = r.orderBy
  limit : q.limit = r.limit
  usedFields : q.usedFields = r.usedFields

/-- Two queries have the same labels, and where a label is blank, what is named in its place. -/
structure SameNames (q r : Query) : Prop where
  dimensions : List.Forall₂ (fun x y => Dimension.label x = Dimension.label y ∧
    (Text.trim (Dimension.label x) = "" → Dimension.field x = Dimension.field y))
    q.dimensions r.dimensions
  measures : List.Forall₂ (fun x y => Measure.label x = Measure.label y ∧
    (Text.trim (Measure.label x) = "" → Measure.agg x = Measure.agg y ∧
      Measure.field x = Measure.field y)) q.measures r.measures

/-! ### Texts -/

section

variable {d : Dataset} {dialect : Dialect}

theorem Filter.condition_sql_eq {f g : Filter} {a b : Condition} (hfield : f.field = g.field)
    (hshape : f.predicate.SameShape g.predicate) (ha : f.condition d dialect = .ok a)
    (hb : g.condition d dialect = .ok b) : a.sql = b.sql := by
  obtain ⟨field, hfind, -, hsql, -⟩ := Filter.condition_eq_ok.mp ha
  obtain ⟨field', hfind', -, hsql', -⟩ := Filter.condition_eq_ok.mp hb
  rw [hfield, hfind', Option.some.injEq] at hfind
  rw [hsql, hsql', ← hfind, hshape.sql_eq]

theorem Measure.item_congr {x y : Measure} (hagg : x.agg = y.agg) (hfield : x.field = y.field) :
    x.item d dialect = y.item d dialect := by
  unfold Measure.item
  rw [hagg, hfield]

variable {q r : Query} (h : q.SameShape r)

include h

theorem SameShape.groups (d : Dataset) (dialect : Dialect) :
    List.Forall₂ (fun x y => d.expression dialect (Dimension.field x) =
      d.expression dialect (Dimension.field y)) q.dimensions r.dimensions :=
  h.dimensions.imp fun _ _ hfield => by rw [hfield]

theorem SameShape.calls (d : Dataset) (dialect : Dialect) :
    List.Forall₂ (fun x y => Measure.item x d dialect = Measure.item y d dialect)
      q.measures r.measures :=
  h.measures.imp fun _ _ hxy => Measure.item_congr hxy.1 hxy.2

/-- The clauses of queries of the same shape have the same texts. -/
theorem SameShape.clauses_sql_eq {a b : Clauses} (ha : q.Written d dialect a)
    (hb : r.Written d dialect b) : a.sql = b.sql := by
  have hgroups : a.groupBy = b.groupBy := results_eq (h.groups d dialect) ha.groupBy hb.groupBy
  have hitems : a.items = b.items := by
    obtain ⟨calls, hcalls, hitems⟩ := ha.items
    obtain ⟨calls', hcalls', hitems'⟩ := hb.items
    rw [hitems, hitems', hgroups, results_eq (h.calls d dialect) hcalls hcalls']
  have hkeys : a.orderBy = b.orderBy :=
    results_eq (List.forall₂_same.mpr fun _ _ => rfl) (h.orderBy ▸ ha.orderBy) hb.orderBy
  have hconditions : a.conditions.map (·.sql) = b.conditions.map (·.sql) := by
    rw [← List.forall₂_eq_eq_eq, List.forall₂_map_left_iff, List.forall₂_map_right_iff]
    exact related_results h.filters ha.conditions hb.conditions fun x y e e' hxy he he' =>
      Filter.condition_sql_eq hxy.1 hxy.2 he he'
  have hjoins : a.joins = b.joins := by rw [ha.joins, hb.joins, h.usedFields]
  have hlimit : a.limit = b.limit := by rw [ha.limit, hb.limit, h.limit]
  simp only [Clauses.sql, Clauses.texts, Clauses.conditionTexts, hitems, hgroups, hconditions, hkeys,
    hjoins, hlimit, ha.source, hb.source, ha.softDelete, hb.softDelete]

/-- Labels have no part in the clauses. -/
theorem SameShape.clauses_eq (hfilters : q.filters = r.filters) :
    q.clauses d dialect = r.clauses d dialect := by
  have hgroups := mapM_congr (h.groups d dialect)
  have hcalls := mapM_congr (h.calls d dialect)
  simp only [clauses, hgroups, hcalls, hfilters, h.orderBy, h.usedFields, h.limit]

end

/-! ### Columns -/

/-- Columns are named by labels and by what is named in place of blank ones. -/
theorem SameNames.columns_eq {q r : Query} (h : q.SameNames r) : q.columns = r.columns := by
  have hname : ∀ {a b fallback fallback' : String}, a = b →
      (Text.trim a = "" → fallback = fallback') →
        Text.displayName (some a) fallback = Text.displayName (some b) fallback' := by
    rintro a _ fallback fallback' rfl hblank
    simp only [Text.displayName, Text.filled?, Option.bind_some, Text.nonBlank?]
    split
    · next htrim => rw [hblank htrim]
    · rfl
  have hdimensions : q.dimensions.map (fun x => Text.displayName (some x.label) x.field) =
      r.dimensions.map fun x => Text.displayName (some x.label) x.field := by
    rw [← List.forall₂_eq_eq_eq, List.forall₂_map_left_iff, List.forall₂_map_right_iff]
    exact h.dimensions.imp fun x y hxy => hname hxy.1 hxy.2
  have hmeasures : q.measures.map (fun x => Text.displayName (some x.label) (x.agg.code ++ "_" ++ x.field)) =
      r.measures.map fun x => Text.displayName (some x.label) (x.agg.code ++ "_" ++ x.field) := by
    rw [← List.forall₂_eq_eq_eq, List.forall₂_map_left_iff, List.forall₂_map_right_iff]
    refine h.measures.imp fun x y hxy => hname hxy.1 fun hblank => ?_
    obtain ⟨hagg, hfield⟩ := hxy.2 hblank
    rw [hagg, hfield]
  rw [columns, columns, hdimensions, hmeasures]

/-! ### Whole queries -/

theorem Written.params_eq {q r : Query} {d : Dataset} {dialect dialect' : Dialect} {a b : Clauses}
    (hfilters : q.filters = r.filters) (ha : q.Written d dialect a) (hb : r.Written d dialect' b) :
    a.params = b.params := by
  have hconditions : a.conditions.map (·.params) = b.conditions.map (·.params) := by
    rw [← List.forall₂_eq_eq_eq, List.forall₂_map_left_iff, List.forall₂_map_right_iff]
    refine related_results (R := Eq) (by rw [hfilters, List.forall₂_eq_eq_eq]) ha.conditions hb.conditions
      fun f g cond cond' hfg hcond hcond' => ?_
    subst hfg
    obtain ⟨field, hfind, -, -, hparams⟩ := Filter.condition_eq_ok.mp hcond
    obtain ⟨field', hfind', -, -, hparams'⟩ := Filter.condition_eq_ok.mp hcond'
    rw [hfind, Option.some.injEq] at hfind'
    subst hfind'
    exact results_eq (List.forall₂_same.mpr fun _ _ => rfl) hparams hparams'
  rw [Clauses.params, Clauses.params, List.flatMap_def, List.flatMap_def, hconditions]

/-- Queries that differ in their labels and in the texts of their operands only have the same text. The
columns depend on the labels, with what is named in place of blank ones, the parameters depend on the
filters, and whether a query is bound, or what keeps it from being bound, does not depend on the labels. -/
theorem bind_noninterference (registry : Registry) (dialect : Dialect) (q r : Query) :
    (∀ b c, q.bind registry dialect = .ok b → r.bind registry dialect = .ok c →
      (q.SameShape r → b.sql = c.sql) ∧ (q.SameNames r → b.columns = c.columns) ∧
        (q.filters = r.filters → b.params = c.params)) ∧
    (q.SameShape r → q.filters = r.filters →
      r.bind registry dialect =
        (q.bind registry dialect).map fun b => { b with columns := r.columns }) := by
  constructor
  · intro b c hb hc
    obtain ⟨-, x, hx, rfl⟩ := Query.bind_eq_ok.mp hb
    obtain ⟨-, y, hy, rfl⟩ := Query.bind_eq_ok.mp hc
    exact ⟨fun h => h.clauses_sql_eq hx hy, fun h => h.columns_eq, fun h => hx.params_eq h hy⟩
  · intro h hfilters
    simp only [Query.bind, ← h.dataset]
    cases hfind : registry.find? q.dataset with
    | none => rfl
    | some d =>
      simp only [← h.clauses_eq hfilters]
      cases q.clauses d dialect with
      | error e => rfl
      | ok c => rfl

/-- Two queries for tasks with one of two states, of which the second has odd states and other labels. -/
theorem bind_noninterference_of_states :
    let q : Query := {
      dataset := "TASK"
      dimensions := [⟨"STATUS", "State"⟩]
      measures := [⟨.count, "TASK_ID", "Tasks"⟩]
      filters := [⟨"STATUS", .oneOf ["OPEN", "DONE"]⟩, ⟨"TASK_ID", .compare .gt "7"⟩]
      orderBy := [⟨"STATUS", .desc⟩]
      limit := 10
      usedFields := ["STATUS", "TASK_ID"] }
    let r : Query := { q with
      dimensions := [⟨"STATUS", "x FROM sys_user"⟩]
      measures := [⟨.count, "TASK_ID", " "⟩]
      filters := [⟨"STATUS", .oneOf ["') OR 1 = 1 --", "?"]⟩, ⟨"TASK_ID", .compare .gt "-1"⟩] }
    let s : Query := { r with filters := q.filters }
    ∃ b c, q.bind .builtin .sqlite = .ok b ∧ r.bind .builtin .sqlite = .ok c ∧ b.sql = c.sql ∧
      s.bind .builtin .sqlite = .ok { b with columns := ["x_FROM_sys_user", "COUNT_TASK_ID"] } := by
  intro q r s
  have hqr : q.SameShape r :=
    ⟨rfl, .cons rfl .nil, .cons ⟨rfl, rfl⟩ .nil,
      .cons ⟨rfl, .oneOf _ _ rfl⟩ (.cons ⟨rfl, .compare _ _ _⟩ .nil), rfl, rfl, rfl⟩
  have hqs : q.SameShape s := ⟨rfl, .cons rfl .nil, .cons ⟨rfl, rfl⟩ .nil,
    .cons ⟨rfl, .oneOf _ _ rfl⟩ (.cons ⟨rfl, .compare _ _ _⟩ .nil), rfl, rfl, rfl⟩
  have hcolumns : s.columns = ["x_FROM_sys_user", "COUNT_TASK_ID"] := by decide +kernel
  have hqbound : (q.bind .builtin .sqlite).toOption.isSome = true := by decide +kernel
  have hrbound : (r.bind .builtin .sqlite).toOption.isSome = true := by decide +kernel
  cases hq : q.bind .builtin .sqlite with
  | error e => rw [hq] at hqbound; cases hqbound
  | ok b =>
    cases hr : r.bind .builtin .sqlite with
    | error e => rw [hr] at hrbound; cases hrbound
    | ok c =>
      have htext := ((bind_noninterference .builtin .sqlite q r).1 b c hq hr).1 hqr
      have hbind := (bind_noninterference .builtin .sqlite q s).2 hqs rfl
      refine ⟨b, c, rfl, rfl, htext, ?_⟩
      rw [hbind, hq, hcolumns]
      rfl

end Query

end ScopedQuery
