import ScopedQuery.Caller.Scope
import ScopedQuery.Proofs.Schema.Dataset
/-!
# Plans of plain users

What row scoping makes sure of.

* `Scope.Names` describes a filter that pins the scoped field to an id.
* `Caller.scope_eq`: what becomes of a plan of a plain user.
* `Caller.scope_names`: a plan that a plain user may run has such a filter, with the user's id.
-/

namespace ScopedQuery

namespace Scope

/-- The filter is an equation of the scoped field with the id, up to case and blanks. -/
structure Names (d : Dataset) (id : String) (f : Plan.Filter) : Prop where
  field : ∃ raw, f.field = some raw ∧ Text.trim raw = Text.trim d.scopedField
  op : f.op.bind FilterOp.read? = some .eq
  value : Text.filled? f.value = some id

/-- A plan that is left as it is names the caller in one of its own filters. -/
theorem names_of_isPinned {d : Dataset} {p : Plan} {id : String} (h : isPinned d p id = true) :
    ∃ f ∈ p.filters, Names d id f := by
  simp only [isPinned] at h
  split at h
  · next f hfind =>
    have hmem := List.mem_of_find?_eq_some hfind
    have hop := List.find?_some hfind
    simp only [List.mem_filter, isScoped, beq_iff_eq] at hmem
    obtain ⟨hf, hfield⟩ := hmem
    obtain ⟨raw, hraw, htrim, -⟩ := Text.filled?_eq_some.mp hfield
    refine ⟨f, hf, ⟨raw, hraw, ?_⟩, ?_, ?_⟩
    · rw [← htrim, Text.trim_trim]
    · simpa [isEquation] using hop
    · simpa using h
  · simp at h

/-- The filter that scoping puts in names the caller. -/
theorem names_pin (d : Dataset) (p : Plan) (caller : Caller) :
    ∃ f ∈ (pin d p caller.idText).filters, Names d caller.idText f := by
  refine ⟨.eq d.scopedField caller.idText, by simp [pin], ⟨_, rfl, rfl⟩, ?_, ?_⟩
  · show FilterOp.read? "EQ" = some .eq
    decide
  · apply Text.filled?_eq_some.mpr
    exact ⟨_, rfl, Text.trim_toString _, Text.toString_ne_empty _⟩

end Scope

/-- A caller who is no administrator is scoped. -/
theorem Caller.isAdmin_eq_false {caller : Caller} (hrole : caller.role ≠ .admin) :
    caller.isAdmin = false := by
  cases hr : caller.role with
  | admin => exact absurd hr hrole
  | user => rw [Caller.isAdmin, hr]; rfl

theorem Caller.id_le_zero_iff {caller : Caller} : caller.id ≤ 0 ↔ ¬1 ≤ caller.id.toInt := by
  rw [Int64.le_iff_toInt_le, Int64.toInt_zero]
  omega

/-- A plain user without a positive id is turned away, whatever is asked. -/
theorem Caller.scope_of_not_positive {caller : Caller} (hrole : caller.role ≠ .admin)
    (hid : ¬1 ≤ caller.id.toInt) (registry : Registry) (question : String) (p : Plan) :
    caller.scope registry question p = .error (.invalidId caller.id) := by
  simp only [scope, isAdmin_eq_false hrole, Bool.false_eq_true, if_false, Caller.id_le_zero_iff.mpr hid,
    if_true]

/-- A plan of a plain user is left as it is, turned into a question back, or pinned to the user. -/
theorem Caller.scope_eq {caller : Caller} (hrole : caller.role ≠ .admin)
    (hid : 1 ≤ caller.id.toInt) (registry : Registry) (question : String) (p : Plan) :
    caller.scope registry question p =
      if Scope.isPinned registry.dataset p caller.idText then .ok ⟨true, p⟩
      else if Scope.isCrossPerson registry.dataset question p then
        .ok ⟨false, .clarification p.dataset Scope.clarification⟩
      else .ok ⟨true, Scope.pin registry.dataset p caller.idText⟩ := by
  have hpositive : ¬caller.id ≤ 0 := fun h => Caller.id_le_zero_iff.mp h hid
  simp only [scope, isAdmin_eq_false hrole, Bool.false_eq_true, if_false, hpositive,
    Registry.findOrDefault_eq]

/-- Only a plain user with a positive id is served. -/
theorem Caller.one_le_of_scope {caller : Caller} {registry : Registry} {question : String} {p : Plan}
    {s : ScopedPlan} (hrole : caller.role ≠ .admin)
    (h : caller.scope registry question p = .ok s) : 1 ≤ caller.id.toInt := by
  by_contra hid
  rw [Caller.scope_of_not_positive hrole hid] at h
  cases h

/-- A plan that a plain user may run names the user in one of its filters. -/
theorem Caller.scope_names {caller : Caller} {registry : Registry} {question : String} {p : Plan}
    {s : ScopedPlan} (hrole : caller.role ≠ .admin)
    (h : caller.scope registry question p = .ok s) :
    1 ≤ caller.id.toInt ∧
      (s.mayRun = true → ∃ f ∈ s.plan.filters, Scope.Names registry.dataset caller.idText f) := by
  have hid := Caller.one_le_of_scope hrole h
  refine ⟨hid, fun hrun => ?_⟩
  rw [Caller.scope_eq hrole hid] at h
  split at h
  · next hpin =>
    exact Except.ok.inj h ▸ Scope.names_of_isPinned hpin
  · split at h
    · rw [← Except.ok.inj h] at hrun
      cases hrun
    · exact Except.ok.inj h ▸ Scope.names_pin registry.dataset p caller

end ScopedQuery
