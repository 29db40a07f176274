import ScopedQuery.Proofs.Caller.Scoping
import ScopedQuery.Proofs.Compiled.Accepted
import ScopedQuery.Proofs.Decimal.Written
/-!
# Rows of one caller

A query that is run for a plain user asks for the user's own rows only.

* `PinnedAt` says what this means: some condition of the WHERE clause, all of which have to hold,
  equates the scoped field with a parameter, and the parameter is the user's id.
* `Caller.compile_pinned`: each query that is ready for a plain user is pinned to the user.
-/

namespace ScopedQuery

open Steps

/-- In the query with clauses `c`, the condition of filter `k` equates the scoped field with the
caller's id. -/
structure PinnedAt (caller : Caller) (d : Dataset) (dialect : Dialect) (q : Query) (b : BoundQuery)
    (c : Clauses) (field : Field) (k : Nat) : Prop where
  declared : d.field? d.scopedField = some field
  filter : q.filters[k]? = some ⟨Text.trim d.scopedField, .compare .eq caller.idText⟩
  conditions : List.Forall₂ (fun f cond => Query.Filter.condition f d dialect = .ok cond)
    q.filters c.conditions
  sql : b.sql = String.intercalate " " (c.front ++
    ("WHERE " ++ String.intercalate " AND " (d.softDelete :: c.conditions.map (·.sql))) :: c.back)
  condition : (c.conditions[k]?).map (·.sql) = some (field.expressionIn dialect ++ " = ?")
  param : ∃ param, Param.ofOperand field caller.idText = .ok param ∧
    b.params[((q.filters.take k).map (·.predicate.operands.length)).sum]? = some param

/-- An id is read as itself by a field of integers. -/
theorem Caller.ofOperand_idText {caller : Caller} {field : Field} (h : field.type = .integer) :
    Param.ofOperand field caller.idText = .ok (.integer caller.id) := by
  simp only [Param.ofOperand, Caller.idText, Text.trim_toString, h, Decimal.integer?_toString]

/-- The condition of an equation, and its one parameter. -/
theorem Query.Filter.condition_equation {d : Dataset} {dialect : Dialect} {name value : String}
    {cond : Condition}
    (h : Query.Filter.condition ⟨name, .compare .eq value⟩ d dialect = .ok cond) :
    ∃ field param, d.field? name = some field ∧
      cond.sql = field.expressionIn dialect ++ " = ?" ∧
      Param.ofOperand field value = .ok param ∧ cond.params = [param] := by
  obtain ⟨field, hfield, -, hsql, hparams⟩ := Query.Filter.condition_eq_ok.mp h
  simp only [Predicate.operands, List.forall₂_cons_left_iff, List.forall₂_nil_left_iff] at hparams
  obtain ⟨param, rest, hparam, rfl, hone⟩ := hparams
  refine ⟨field, param, hfield, ?_, hparam, hone⟩
  rw [hsql, Predicate.sql, String.append_assoc, String.append_assoc]
  rfl

/-- A filter of the plan that names the caller pins the query. -/
theorem Scope.Names.pinnedAt {caller : Caller} {d : Dataset} {limits : Limits} {dialect : Dialect}
    {p : Plan} {q : Query} {b : BoundQuery} {c : Clauses} {f : Plan.Filter}
    (hmem : f ∈ p.filters) (hnames : Scope.Names d caller.idText f)
    (hchecked : Plan.Checked d limits p q) (hwritten : Query.Written q d dialect c)
    (hb : b = ⟨c.sql, c.params, q.columns⟩) :
    ∃ field k, PinnedAt caller d dialect q b c field k := by
  obtain ⟨k, hk⟩ := List.mem_iff_getElem?.mp hmem
  obtain ⟨g, hg, hcheck⟩ := exists_partner hchecked.filters hk
  obtain ⟨name, hname, rfl⟩ := Plan.Filter.check_equation hnames.op hnames.value hcheck
  obtain ⟨raw, hraw, htrim⟩ := hnames.field
  obtain rfl : Text.trim d.scopedField = name := by
    rw [hraw] at hname
    obtain ⟨s, hs, hst, -⟩ := Text.filled?_eq_some.mp hname
    rw [← hst, ← Option.some.inj hs, htrim]
  obtain ⟨cond, hcond, hsql⟩ := exists_partner hwritten.conditions hg
  obtain ⟨field, param, hfield, htext, hparam, hone⟩ := Query.Filter.condition_equation hsql
  rw [Dataset.field?_trim] at hfield
  refine ⟨field, k, hfield, hg, hwritten.conditions, ?_, ?_, param, hparam, ?_⟩
  · rw [hb, ← hwritten.softDelete, ← Clauses.texts_eq]
    rfl
  · rw [hcond, Option.map_some, htext]
  · rw [hb, ← hwritten.params_before]
    exact Clauses.getElem?_params hcond hone

/-- In the dataset of tasks the parameter is the id as a number. -/
theorem PinnedAt.param_tasks {caller : Caller} {dialect : Dialect} {q : Query} {b : BoundQuery}
    {c : Clauses} {field : Field} {k : Nat}
    (h : PinnedAt caller .tasks dialect q b c field k) :
    b.params[((q.filters.take k).map (·.predicate.operands.length)).sum]? =
      some (.integer caller.id) := by
  have hinteger : field.type = .integer := by
    obtain rfl : Field.plain "ASSIGNEE_ID" "t.assignee_id" .integer = field :=
      Option.some.inj h.declared
    rfl
  obtain ⟨param, hparam, hat⟩ := h.param
  rw [Caller.ofOperand_idText hinteger, Except.ok.injEq] at hparam
  rw [hat, ← hparam]

/-- What is run for a caller is written from a checked query, and for a plain user it is pinned. -/
theorem Caller.compile_written {caller : Caller} {registry : Registry} {limits : Limits}
    {dialect : Dialect} {question : String} {p plan : Plan} {b : BoundQuery}
    (h : caller.compile registry limits dialect question p = .ok (.ready plan b)) :
    ∃ q c, plan.check registry limits = .ok (.query q) ∧
      Query.Written q registry.dataset dialect c ∧ b = ⟨c.sql, c.params, q.columns⟩ ∧
      (caller.role ≠ .admin → 1 ≤ caller.id.toInt ∧
        ∃ field k, PinnedAt caller registry.dataset dialect q b c field k) := by
  obtain ⟨hscope, q, hcheck, hcompile⟩ := Caller.compile_eq_ready.mp h
  obtain ⟨hbind, -⟩ := Query.compile_eq_ok.mp hcompile
  obtain ⟨-, c, hwritten, hb⟩ := Query.bind_eq_ok.mp hbind
  refine ⟨q, c, hcheck, hwritten, hb, fun hrole => ?_⟩
  obtain ⟨hid, hnames⟩ := Caller.scope_names hrole hscope
  obtain ⟨f, hmem, hf⟩ := hnames rfl
  obtain ⟨-, -, hchecked⟩ := Plan.check_eq_query.mp hcheck
  exact ⟨hid, hf.pinnedAt hmem hchecked hwritten hb⟩

/-- A query that is ready for a plain user is pinned to the user, who has a positive id; in the
registry of tasks the parameter is the id as a number. -/
theorem Caller.compile_pinned {caller : Caller} {registry : Registry} {limits : Limits}
    {dialect : Dialect} {question : String} {p plan : Plan} {b : BoundQuery}
    (hrole : caller.role ≠ .admin)
    (h : caller.compile registry limits dialect question p = .ok (.ready plan b)) :
    1 ≤ caller.id.toInt ∧
      ∃ q c field k, plan.check registry limits = .ok (.query q) ∧
        PinnedAt caller registry.dataset dialect q b c field k ∧
        (registry = Registry.builtin →
          b.params[((q.filters.take k).map (·.predicate.operands.length)).sum]? =
            some (.integer caller.id)) := by
  obtain ⟨q, c, hcheck, -, -, hpinned⟩ := Caller.compile_written h
  obtain ⟨hid, field, k, hpinned⟩ := hpinned hrole
  refine ⟨hid, q, c, field, k, hcheck, hpinned, fun hbuiltin => ?_⟩
  rw [hbuiltin] at hpinned
  exact hpinned.param_tasks

/-- User 42, who asks for the tasks of user 7, is given the tasks of user 42. -/
theorem Caller.compile_pinned_to_42 :
    let caller : Caller := ⟨42, "amy", .user⟩
    let p : Plan := {
      dataset := some " task "
      measures := [{ agg := some "count", field := some "TASK_ID" }]
      filters := [.eq "STATUS" "DONE", .compare " ASSIGNEE_ID" "eq" "7"] }
    ∃ plan b q c field k,
      caller.compile .builtin .standard .mysql "How many?" p = .ok (.ready plan b) ∧
        PinnedAt caller Dataset.tasks .mysql q b c field k ∧
        b.params[((q.filters.take k).map (·.predicate.operands.length)).sum]? =
          some (.integer 42) := by
  intro caller p
  have hscope : caller.scope .builtin "How many?" p = .ok ⟨true, Scope.pin .tasks p caller.idText⟩ := by
    decide +kernel
  have hbound : ((Scope.pin .tasks p caller.idText).bound? .builtin .standard .mysql).isSome := by
    decide +kernel
  obtain ⟨b, hb⟩ := Option.isSome_iff_exists.mp hbound
  have hready := Caller.compile_builtin_eq_ready.mpr ⟨hscope, hb⟩
  obtain ⟨-, q, c, field, k, -, hpinned, hparam⟩ := Caller.compile_pinned (by decide) hready
  exact ⟨_, b, q, c, field, k, hready, hpinned, hparam rfl⟩

end ScopedQuery
