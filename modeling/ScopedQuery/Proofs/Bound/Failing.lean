import ScopedQuery.Proofs.Bound.Clauses
import ScopedQuery.Proofs.Bound.Operands
/-!
# Queries that cannot be bound

* `Query.Filter.Misreads` holds of a filter with an operand that stands for no value of its field.
* `Query.Fits.bind_cases`: a query that fits its dataset is bound, unless there is such a filter; then it
  is the operand that is complained about.
-/

namespace ScopedQuery

open Steps

/-- The fault is that an operand is no number or no instant. -/
def PlanFault.OfOperand (fault : PlanFault) : Prop :=
  (∃ name, fault = .notNumber name) ∨ ∃ text, fault = .notInstant text

namespace Query

/-- Some operand of the filter does not stand for a value of its field. -/
def Filter.Misreads (f : Filter) (d : Dataset) : Prop :=
  ∃ field, d.field? f.field = some field ∧ ∃ raw ∈ f.predicate.operands, ¬field.type.Reads raw

/-- A filter of a field that the dataset has becomes a condition, unless it has operands that cannot
be read. -/
theorem Filter.condition_cases {f : Filter} {d : Dataset} (hfield : (d.field? f.field).isSome = true)
    (hne : f.predicate ≠ .oneOf []) (dialect : Dialect) :
    (∃ cond, f.condition d dialect = .ok cond ∧ ¬f.Misreads d) ∨
      ∃ fault, f.condition d dialect = .error (.invalidPlan fault) ∧ f.Misreads d ∧ fault.OfOperand := by
  obtain ⟨field, hfind⟩ := Option.isSome_iff_exists.mp hfield
  have hcondition : f.condition d dialect =
      ((f.predicate.operands.mapM (Param.ofOperand field)).mapError .invalidPlan >>= fun params =>
        pure ⟨f.predicate.sql (field.expressionIn dialect), params⟩) := by
    simp only [Filter.condition, hfind, if_neg hne]
  rw [hcondition]
  cases hparams : f.predicate.operands.mapM (Param.ofOperand field) with
  | ok params =>
    refine .inl ⟨_, rfl, ?_⟩
    rintro ⟨field', hfield', raw, hraw, hmisread⟩
    rw [hfind, Option.some.injEq] at hfield'
    obtain ⟨k, hk⟩ := List.mem_iff_getElem?.mp hraw
    obtain ⟨param, -, hparam⟩ := exists_partner (mapM_eq_ok.mp hparams) hk
    exact hmisread (hfield' ▸ Param.reads_of_ofOperand hparam)
  | error fault =>
    obtain ⟨before, raw, after, hoperands, -, hraw⟩ := mapM_eq_error.mp hparams
    obtain ⟨hmisread, hfault⟩ := Param.fault_of_ofOperand hraw
    refine .inr ⟨fault, rfl, ⟨field, hfind, raw, by simp [hoperands], hmisread⟩, ?_⟩
    rcases hfault with rfl | rfl
    · exact .inl ⟨_, rfl⟩
    · exact .inr ⟨_, rfl⟩

namespace Fits

variable {q : Query} {d : Dataset} (h : q.Fits d) (dialect : Dialect)

include h

theorem exists_groups :
    ∃ groups, (q.dimensions.mapM fun dim => d.expression dialect dim.field) = .ok groups := by
  apply exists_mapM_eq_ok
  intro dim hdim
  obtain ⟨field, hfield⟩ := Option.isSome_iff_exists.mp (h.dimensions dim hdim)
  exact ⟨_, Dataset.expression_eq_ok.mpr ⟨field, hfield, rfl⟩⟩

theorem exists_measures : ∃ items, (q.measures.mapM fun m => m.item d dialect) = .ok items := by
  apply exists_mapM_eq_ok
  intro m hm
  have hsupports := h.measures m hm
  obtain ⟨field, hfield, -⟩ := Option.any_eq_true _ _ |>.mp hsupports
  exact ⟨_, Measure.item_eq_ok.mpr
    ⟨_, Dataset.expression_eq_ok.mpr ⟨field, hfield, rfl⟩, hsupports, rfl⟩⟩

theorem exists_keys : ∃ keys, (q.orderBy.mapM fun o => o.key d dialect) = .ok keys := by
  apply exists_mapM_eq_ok
  intro o ho
  obtain ⟨field, hfield⟩ := Option.isSome_iff_exists.mp (h.orderBy o ho)
  exact ⟨_, Order.key_eq_ok.mpr ⟨_, Dataset.expression_eq_ok.mpr ⟨field, hfield, rfl⟩, rfl⟩⟩

/-- Only the conditions can fail. -/
theorem clauses_map : (q.clauses d dialect).map (fun _ => ()) =
    (q.filters.mapM fun f => Filter.condition f d dialect).map fun _ => () := by
  obtain ⟨groups, hgroups⟩ := h.exists_groups dialect
  obtain ⟨measures, hmeasures⟩ := h.exists_measures dialect
  obtain ⟨keys, hkeys⟩ := h.exists_keys dialect
  have hselected : ¬(groups ++ measures).isEmpty = true := by
    obtain ⟨m, ms, hms⟩ := List.exists_cons_of_ne_nil h.measured
    have hlen := (mapM_eq_ok.mp hmeasures).length_eq
    rw [hms, List.length_cons] at hlen
    rw [List.isEmpty_iff, ← List.length_eq_zero_iff, List.length_append]
    omega
  cases hconditions : q.filters.mapM fun f => Filter.condition f d dialect with
  | ok conditions =>
    simp only [clauses, hgroups, hmeasures, hkeys, hconditions, ok_bind, if_neg hselected]
    rfl
  | error e =>
    simp only [clauses, hgroups, hmeasures, hconditions, ok_bind, error_bind, if_neg hselected]
    rfl

theorem clauses_cases :
    (∃ c, q.clauses d dialect = .ok c ∧ ∀ f ∈ q.filters, ¬f.Misreads d) ∨
      ∃ fault, q.clauses d dialect = .error (.invalidPlan fault) ∧
        (∃ f ∈ q.filters, f.Misreads d) ∧ fault.OfOperand := by
  have hmap := h.clauses_map dialect
  cases hclauses : q.clauses d dialect with
  | ok c =>
    refine .inl ⟨c, rfl, fun f hf => ?_⟩
    obtain ⟨k, hk⟩ := List.mem_iff_getElem?.mp hf
    obtain ⟨cond, -, hcond⟩ := exists_partner (clauses_eq_ok.mp hclauses).conditions hk
    obtain ⟨hfield, hne⟩ := h.filters f hf
    obtain ⟨_, -, hreads⟩ | ⟨_, hfails, -⟩ := Filter.condition_cases hfield hne dialect
    · exact hreads
    · rw [hcond] at hfails
      cases hfails
  | error e =>
    rw [hclauses] at hmap
    cases hconditions : q.filters.mapM fun f => Filter.condition f d dialect with
    | ok conditions =>
      rw [hconditions] at hmap
      cases hmap
    | error e' =>
      rw [hconditions] at hmap
      obtain rfl : e = e' := Except.error.inj hmap
      obtain ⟨before, f, after, hfilters, -, hf⟩ := mapM_eq_error.mp hconditions
      have hmem : f ∈ q.filters := by simp [hfilters]
      obtain ⟨hfield, hne⟩ := h.filters f hmem
      obtain ⟨_, hgood, -⟩ | ⟨fault, hfails, hmisreads, hfault⟩ :=
        Filter.condition_cases hfield hne dialect
      · rw [hf] at hgood
        cases hgood
      · rw [hf, Except.error.injEq] at hfails
        exact .inr ⟨fault, congrArg _ hfails, ⟨f, hmem, hmisreads⟩, hfault⟩

/-- A query that fits the dataset of a registry is bound, unless operands of it cannot be read. -/
theorem bind_cases {registry : Registry} (hfind : registry.find? q.dataset = some d) :
    (∃ b, q.bind registry dialect = .ok b ∧ ∀ f ∈ q.filters, ¬f.Misreads d) ∨
      ∃ fault, q.bind registry dialect = .error (.invalidPlan fault) ∧
        (∃ f ∈ q.filters, f.Misreads d) ∧ fault.OfOperand := by
  simp only [Query.bind, hfind]
  obtain ⟨c, hc, hreads⟩ | ⟨fault, hc, hmisreads⟩ := h.clauses_cases dialect
  · rw [hc, ok_bind]
    exact .inl ⟨_, rfl, hreads⟩
  · rw [hc, error_bind]
    exact .inr ⟨fault, rfl, hmisreads⟩

end Fits

end Query

end ScopedQuery
