import ScopedQuery.Proofs.Steps
import ScopedQuery.Query.Checking
/-!
# Faults that checking finds

* `PlanFault.list?` is the list of a plan that a fault is about: an element of a list is at fault in that
  list only, as `Plan.Measure.check_failsOnly` and its like say, and the wording of the fault starts with the
  name of the list.
* Two faults are left to binding: that there is nothing to select, and that a set of operands is empty.
  `Plan.check_failsOnly` says that checking never finds them, so they are never the answer to a plan.
-/

namespace ScopedQuery

open Steps

/-! ### Lists of a plan -/

/-- The lists of a plan whose elements are checked, in the order in which they are. -/
inductive PlanList
  | dimensions | measures | filters | orderBy
deriving DecidableEq

def PlanList.name : PlanList → String
  | dimensions => "dimensions"
  | measures => "measures"
  | filters => "filters"
  | orderBy => "orderBy"

/-- The list that a part belongs to. -/
def PlanPath.list : PlanPath → PlanList
  | dimensionField => .dimensions
  | measureAgg => .measures
  | measureField => .measures
  | filterField => .filters
  | filterOp => .filters
  | orderField => .orderBy

/-- The list that a fault is about. -/
def PlanFault.list? : PlanFault → Option PlanList
  | .blank path => some path.list
  | .unsupportedField path _ => some path.list
  | .unsupportedAggregation _ => some .measures
  | .notNumeric _ _ => some .measures
  | .unsupportedOperator _ => some .filters
  | .noValues => some .filters
  | .blankValues => some .filters
  | .noBounds => some .filters
  | .noValue _ => some .filters
  | .unsupportedDirection _ => some .orderBy
  | _ => none

theorem PlanPath.exists_name_eq (path : PlanPath) : ∃ rest, path.name = path.list.name ++ rest := by
  cases path with
  | dimensionField => exact ⟨".field", by decide⟩
  | measureAgg => exact ⟨".agg", by decide⟩
  | measureField => exact ⟨".field", by decide⟩
  | filterField => exact ⟨".field", by decide⟩
  | filterOp => exact ⟨".op", by decide⟩
  | orderField => exact ⟨".field", by decide⟩

/-- A fault that is about a list names it first. -/
theorem PlanFault.exists_message_eq {fault : PlanFault} {l : PlanList} (h : fault.list? = some l) :
    ∃ rest, fault.message = l.name ++ rest := by
  have hpath : ∀ (path : PlanPath) (more : String), path.list = l →
      ∃ rest, path.name ++ more = l.name ++ rest := by
    rintro path more rfl
    obtain ⟨rest, hrest⟩ := path.exists_name_eq
    exact ⟨rest ++ more, by rw [hrest, String.append_assoc]⟩
  cases fault with
  | blank path =>
    show ∃ rest, path.name ++ " must not be blank" = l.name ++ rest
    exact hpath path _ (Option.some.inj h)
  | unsupportedField path name =>
    show ∃ rest, path.name ++ ": unsupported field " ++ inQuotes name = l.name ++ rest
    rw [String.append_assoc]
    exact hpath path _ (Option.some.inj h)
  | unsupportedAggregation raw =>
    obtain rfl := Option.some.inj h
    exact ⟨".agg: unsupported aggregation " ++ inQuotes raw, rfl⟩
  | notNumeric agg numeric =>
    obtain rfl := Option.some.inj h
    refine ⟨": aggregation " ++ agg.code ++ " only applies to " ++ String.intercalate " or " numeric, ?_⟩
    show "measures: aggregation " ++ agg.code ++ " only applies to " ++ String.intercalate " or " numeric = _
    simp only [← String.append_assoc]
    rfl
  | unsupportedOperator raw =>
    obtain rfl := Option.some.inj h
    exact ⟨".op: unsupported filter operator " ++ inQuotes raw, rfl⟩
  | noValues =>
    obtain rfl := Option.some.inj h
    exact ⟨".values: IN requires values", rfl⟩
  | blankValues =>
    obtain rfl := Option.some.inj h
    exact ⟨".values: IN requires non-blank values", rfl⟩
  | noBounds =>
    obtain rfl := Option.some.inj h
    exact ⟨".from/to: BETWEEN requires both from and to", rfl⟩
  | noValue op =>
    obtain rfl := Option.some.inj h
    refine ⟨".value: " ++ op.filterOp.code ++ " requires a value", ?_⟩
    show "filters.value: " ++ op.filterOp.code ++ " requires a value" = _
    simp only [← String.append_assoc]
    rfl
  | unsupportedDirection raw =>
    obtain rfl := Option.some.inj h
    exact ⟨".direction: unsupported sort direction " ++ inQuotes raw, rfl⟩
  | _ => cases h

/-- The fault is one that only binding looks for. -/
def PlanFault.isOfBinding : PlanFault → Bool
  | .nothingToSelect => true
  | .emptySet _ => true
  | _ => false

namespace Plan

/-! ### Elements of lists -/

/-- A step that finds faults of one list only. -/
abbrev ChecksList {α : Type} (l : PlanList) (x : Except PlanFault α) : Prop :=
  FailsOnly (fun fault => fault.list? = some l) x

theorem requireText_failsOnly (path : PlanPath) (raw : Option String) :
    ChecksList path.list (requireText path raw) := by
  unfold requireText
  split
  · exact .ok _
  · exact .error rfl

theorem requireField_failsOnly (d : Dataset) (path : PlanPath) (raw : Option String) :
    ChecksList path.list (requireField d path raw) := by
  refine (requireText_failsOnly path raw).bind fun name => ?_
  split
  · exact .ok _
  · exact .error rfl

theorem requireOperator_failsOnly (d : Dataset) (raw : Option String) :
    ChecksList .filters (requireOperator d raw) := by
  refine (requireText_failsOnly .filterOp raw).bind fun word => ?_
  split
  · exact .error rfl
  · split
    · exact .ok _
    · exact .error rfl

theorem Dimension.check_failsOnly (d : Dataset) (dim : Dimension) : ChecksList .dimensions (dim.check d) :=
  (requireField_failsOnly d .dimensionField _).bind fun _ => .ok _

theorem Measure.check_failsOnly (d : Dataset) (m : Measure) : ChecksList .measures (m.check d) := by
  refine (requireText_failsOnly .measureAgg _).bind fun word =>
    (requireText_failsOnly .measureField _).bind fun name => ?_
  split
  · exact .error rfl
  · refine (requireField_failsOnly d .measureField _).bind fun field => ?_
    split
    · exact .ok _
    · exact .error rfl

theorem Filter.predicate_failsOnly (f : Filter) (op : FilterOp) : ChecksList .filters (f.predicate op) := by
  have hcomparison : ∀ op, ChecksList .filters (Filter.predicate.comparison f op) := by
    intro op
    unfold Filter.predicate.comparison
    split
    · exact .ok _
    · exact .error rfl
  cases op with
  | isIn =>
    simp only [Filter.predicate]
    split
    · exact .error rfl
    · split
      · exact .error rfl
      · exact .ok _
  | between =>
    simp only [Filter.predicate]
    split
    · exact .ok _
    · exact .error rfl
  | _ => exact hcomparison _

theorem Filter.check_failsOnly (d : Dataset) (f : Filter) : ChecksList .filters (f.check d) :=
  (requireField_failsOnly d .filterField _).bind fun _ => (requireOperator_failsOnly d _).bind fun op =>
    (f.predicate_failsOnly op).bind fun _ => .ok _

theorem Order.check_failsOnly (d : Dataset) (o : Order) : ChecksList .orderBy (o.check d) := by
  refine (requireField_failsOnly d .orderField _).bind fun field => ?_
  simp only
  split
  · exact .ok _
  · exact .error rfl

/-! ### All of a plan -/

/-- A step that finds no faults that only binding looks for. -/
abbrev Checking {α : Type} (x : Except PlanFault α) : Prop :=
  FailsOnly (fun fault => fault.isOfBinding = false) x

theorem ChecksList.checking {α : Type} {l : PlanList} {x : Except PlanFault α} (h : ChecksList l x) :
    Checking x := by
  intro fault hfault
  have hlist := h fault hfault
  cases fault with
  | nothingToSelect => cases hlist
  | emptySet field => cases hlist
  | _ => rfl

theorem checkParts_failsOnly (d : Dataset) (limits : Limits) (p : Plan) :
    Checking (p.checkParts d limits) := by
  unfold checkParts
  split
  · exact .error rfl
  · exact (FailsOnly.mapM (fun x => (Dimension.check_failsOnly d x).checking) _).bind fun _ =>
      (FailsOnly.mapM (fun x => (Measure.check_failsOnly d x).checking) _).bind fun _ =>
        (FailsOnly.mapM (fun x => (Filter.check_failsOnly d x).checking) _).bind fun _ =>
          (FailsOnly.mapM (fun x => (Order.check_failsOnly d x).checking) _).bind fun _ => .ok _

/-- Checking never finds that there is nothing to select, or that a set of operands is empty. -/
theorem check_failsOnly (registry : Registry) (limits : Limits) (p : Plan) :
    Checking (p.check registry limits) := by
  simp only [check]
  split
  · exact .error rfl
  · split
    · split
      · exact .ok _
      · exact .error rfl
    · exact (checkParts_failsOnly _ limits p).bind fun _ => .ok _

end Plan

end ScopedQuery
