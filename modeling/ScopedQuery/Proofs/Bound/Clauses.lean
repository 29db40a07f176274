import ScopedQuery.Bound.Basic
import ScopedQuery.Proofs.Query.Checked
/-!
# Clauses of a bound query

What is known of the clauses that a query is written with.

* `Query.Filter.condition_eq_ok`: a condition names its field's expression and has one parameter for
  each operand.
* `Query.Written` lists what the clauses are made of, and `Query.bind_eq_ok` says that `Query.bind`
  writes exactly such clauses.
* `Query.Written.forall_items` and its like: what holds of the texts of a dataset, and of whatever the
  clauses make of such texts, holds of the parts of the clauses.
* `Clauses.texts_eq` finds the WHERE clause in the text.
-/

namespace ScopedQuery

open Steps

/-- An expression is the one of a field. -/
theorem Dataset.expression_eq_ok {d : Dataset} {dialect : Dialect} {name text : String} :
    d.expression dialect name = .ok text ↔
      ∃ field, d.field? name = some field ∧ field.expressionIn dialect = text := by
  unfold Dataset.expression
  cases d.field? name with
  | none => simp
  | some field => simp

namespace Query

theorem Measure.item_eq_ok {m : Measure} {d : Dataset} {dialect : Dialect} {text : String} :
    m.item d dialect = .ok text ↔
      ∃ expression, d.expression dialect m.field = .ok expression ∧
        d.supports m.agg m.field = true ∧ m.agg.wrap expression = text := by
  simp only [Measure.item, bind_eq_ok]
  refine exists_congr fun expression => and_congr_right fun _ => ?_
  by_cases hsupports : d.supports m.agg m.field = true
  · simp [hsupports]
  · simp [hsupports]

theorem Order.key_eq_ok {o : Order} {d : Dataset} {dialect : Dialect} {text : String} :
    o.key d dialect = .ok text ↔
      ∃ expression, d.expression dialect o.field = .ok expression ∧
        expression ++ " " ++ o.direction.sql = text := by
  simp only [Order.key, bind_eq_ok, pure_eq_ok]

/-- A condition is written from the field of its filter and reads each operand as a value of that
field. -/
theorem Filter.condition_eq_ok {f : Filter} {d : Dataset} {dialect : Dialect} {c : Condition} :
    f.condition d dialect = .ok c ↔
      ∃ field, d.field? f.field = some field ∧ f.predicate ≠ .oneOf [] ∧
        c.sql = f.predicate.sql (field.expressionIn dialect) ∧
        List.Forall₂ (fun raw param => Param.ofOperand field raw = .ok param)
          f.predicate.operands c.params := by
  simp only [Filter.condition]
  cases hfield : d.field? f.field with
  | none => simp
  | some field =>
    simp only [unless_eq_ok, bind_eq_ok, mapError_eq_ok, mapM_eq_ok, pure_eq_ok,
      Option.some.injEq, exists_eq_left']
    refine and_congr_right fun _ => ?_
    constructor
    · rintro ⟨params, hparams, rfl⟩
      exact ⟨rfl, hparams⟩
    · rintro ⟨hsql, hparams⟩
      exact ⟨c.params, hparams, by rw [← hsql]⟩

/-- What the clauses of a query are made of. -/
structure Written (q : Query) (d : Dataset) (dialect : Dialect) (c : Clauses) : Prop where
  groupBy : List.Forall₂ (fun dim e => d.expression dialect dim.field = .ok e)
    q.dimensions c.groupBy
  items : ∃ measures,
    List.Forall₂ (fun m e => Measure.item m d dialect = .ok e) q.measures measures ∧
      c.items = c.groupBy ++ measures
  selected : c.items ≠ []
  conditions : List.Forall₂ (fun f cond => Filter.condition f d dialect = .ok cond)
    q.filters c.conditions
  orderBy : List.Forall₂ (fun o key => Order.key o d dialect = .ok key) q.orderBy c.orderBy
  source : c.source = d.source
  joins : c.joins = if d.needsJoin q.usedFields then d.joins.map (·.sql) else []
  softDelete : c.softDelete = d.softDelete
  limit : c.limit = q.limit

theorem clauses_eq_ok {q : Query} {d : Dataset} {dialect : Dialect} {c : Clauses} :
    q.clauses d dialect = .ok c ↔ Written q d dialect c := by
  simp only [clauses, bind_eq_ok, mapM_eq_ok, unless_eq_ok, pure_eq_ok, List.isEmpty_iff]
  constructor
  · rintro ⟨groups, hgroups, measures, hmeasures, hitems, conditions, hconditions, keys, hkeys, rfl⟩
    exact ⟨hgroups, ⟨measures, hmeasures, rfl⟩, hitems, hconditions, hkeys, rfl, rfl, rfl, rfl⟩
  · rintro ⟨hgroups, ⟨measures, hmeasures, hitems⟩, hselected, hconditions, hkeys, hs, hj, hd, hl⟩
    rw [hitems] at hselected
    refine ⟨_, hgroups, measures, hmeasures, hselected, _, hconditions, _, hkeys, ?_⟩
    rw [← hitems, ← hs, ← hj, ← hd, ← hl]

/-- Binding writes the clauses that the query has in the one dataset there is. -/
theorem bind_eq_ok {q : Query} {registry : Registry} {dialect : Dialect} {b : BoundQuery} :
    q.bind registry dialect = .ok b ↔
      (registry.find? q.dataset).isSome ∧
        ∃ c, Written q registry.dataset dialect c ∧ b = ⟨c.sql, c.params, q.columns⟩ := by
  simp only [Query.bind]
  cases hfind : registry.find? q.dataset with
  | none => simp
  | some d =>
    obtain ⟨rfl, -⟩ := Registry.find?_eq_some.mp hfind
    simp only [Steps.bind_eq_ok, clauses_eq_ok, pure_eq_ok, Option.isSome_some, true_and]
    refine exists_congr fun c => and_congr_right fun _ => ?_
    exact eq_comm

/-! ### Properties of all parts -/

namespace Written

variable {q : Query} {d : Dataset} {dialect : Dialect} {c : Clauses} (h : q.Written d dialect c)
  {P : String → Prop}

include h

theorem forall_joins (hjoin : ∀ j ∈ d.joins, P (JoinClause.sql j)) : ∀ t ∈ c.joins, P t := by
  rw [h.joins]
  split
  · exact List.forall_mem_map.mpr hjoin
  · exact List.forall_mem_nil _

theorem forall_conditions (hcondition : ∀ f ∈ d.fields, ∀ p : Predicate, p ≠ .oneOf [] →
    P (p.sql (Field.expressionIn f dialect))) : ∀ t ∈ c.conditions.map (·.sql), P t := by
  rw [List.forall_mem_map]
  intro cond hcond
  obtain ⟨f, -, hf⟩ := exists_origin h.conditions hcond
  obtain ⟨field, hfind, hne, hsql, -⟩ := Filter.condition_eq_ok.mp hf
  rw [hsql]
  exact hcondition field (List.mem_of_find?_eq_some hfind) f.predicate hne

section

variable (hfield : ∀ f ∈ d.fields, P (Field.expressionIn f dialect))

include hfield

theorem forall_groupBy : ∀ t ∈ c.groupBy, P t := by
  intro t ht
  obtain ⟨dim, -, hdim⟩ := exists_origin h.groupBy ht
  obtain ⟨field, hfind, rfl⟩ := Dataset.expression_eq_ok.mp hdim
  exact hfield field (List.mem_of_find?_eq_some hfind)

theorem forall_items (hwrap : ∀ (agg : Aggregation) t, P t → P (agg.wrap t)) :
    ∀ t ∈ c.items, P t := by
  obtain ⟨measures, hmeasures, hitems⟩ := h.items
  rw [hitems, List.forall_mem_append]
  refine ⟨h.forall_groupBy hfield, fun t ht => ?_⟩
  obtain ⟨m, -, hm⟩ := exists_origin hmeasures ht
  obtain ⟨expression, hexpression, -, rfl⟩ := Measure.item_eq_ok.mp hm
  obtain ⟨field, hfind, rfl⟩ := Dataset.expression_eq_ok.mp hexpression
  exact hwrap m.agg _ (hfield field (List.mem_of_find?_eq_some hfind))

theorem forall_orderBy (hkey : ∀ (direction : SortDirection) t, P t → P (t ++ " " ++ direction.sql)) :
    ∀ t ∈ c.orderBy, P t := by
  intro t ht
  obtain ⟨o, -, ho⟩ := exists_origin h.orderBy ht
  obtain ⟨expression, hexpression, rfl⟩ := Order.key_eq_ok.mp ho
  obtain ⟨field, hfind, rfl⟩ := Dataset.expression_eq_ok.mp hexpression
  exact hkey o.direction _ (hfield field (List.mem_of_find?_eq_some hfind))

end

end Written

end Query

namespace Clauses

/-! ### The place of the WHERE clause -/

/-- The clauses before WHERE. -/
def front (c : Clauses) : List String :=
  ("SELECT " ++ String.intercalate ", " (namedItems c.items)) :: ("FROM " ++ c.source) :: c.joins

/-- The clauses behind WHERE. -/
def back (c : Clauses) : List String :=
  optionalClause "GROUP BY " c.groupBy ++ optionalClause "ORDER BY " c.orderBy ++
    ["LIMIT " ++ toString c.limit]

theorem texts_eq (c : Clauses) :
    c.texts = c.front ++
      ("WHERE " ++ String.intercalate " AND " (c.softDelete :: c.conditions.map (·.sql))) ::
        c.back := by
  simp [texts, front, back, conditionTexts]

/-- The parameters of a condition stand behind those of the conditions before. -/
theorem getElem?_params_add {c : Clauses} {k i : Nat} {cond : Condition} {param : Param}
    (hk : c.conditions[k]? = some cond) (hparam : cond.params[i]? = some param) :
    c.params[((c.conditions.take k).map (·.params.length)).sum + i]? = some param :=
  getElem?_flatMap hk hparam

theorem getElem?_params {c : Clauses} {k : Nat} {cond : Condition} {param : Param}
    (hk : c.conditions[k]? = some cond) (hparam : cond.params = [param]) :
    c.params[((c.conditions.take k).map (·.params.length)).sum]? = some param := by
  have hfirst : cond.params[0]? = some param := by
    rw [hparam]
    rfl
  exact getElem?_params_add hk hfirst

end Clauses

/-- There are as many parameters before a condition as there are operands before its filter. -/
theorem Query.Written.params_before {q : Query} {d : Dataset} {dialect : Dialect} {c : Clauses}
    (h : q.Written d dialect c) (k : Nat) :
    ((c.conditions.take k).map (·.params.length)).sum =
      ((q.filters.take k).map (·.predicate.operands.length)).sum := by
  have hlen : ∀ {fs : List Query.Filter} {cs : List Condition},
      List.Forall₂ (fun f cond => Query.Filter.condition f d dialect = .ok cond) fs cs →
        cs.map (·.params.length) = fs.map (·.predicate.operands.length) := by
    intro fs cs hfs
    induction hfs with
    | nil => rfl
    | cons hcond _ ih =>
      obtain ⟨_, -, -, -, hparams⟩ := Query.Filter.condition_eq_ok.mp hcond
      rw [List.map_cons, List.map_cons, ih, hparams.length_eq]
  rw [hlen (List.forall₂_take k h.conditions)]

/-! ### Plans -/

/-- The bound query of a plan that is checked as it is. -/
def Plan.bound? (p : Plan) (registry : Registry) (limits : Limits) (dialect : Dialect) :
    Option BoundQuery :=
  match p.check registry limits with
  | .ok (.query q) => (q.bind registry dialect).toOption
  | _ => none

theorem Plan.bound?_eq_some {p : Plan} {registry : Registry} {limits : Limits} {dialect : Dialect}
    {b : BoundQuery} :
    p.bound? registry limits dialect = some b ↔
      ∃ q, p.check registry limits = .ok (.query q) ∧ q.bind registry dialect = .ok b := by
  unfold Plan.bound?
  cases p.check registry limits with
  | error fault => simp
  | ok checked =>
    cases checked with
    | clarification code question => simp
    | query q =>
      cases hbind : q.bind registry dialect with
      | error e => simp [Except.toOption, hbind]
      | ok c => simp [Except.toOption, hbind]

end ScopedQuery
