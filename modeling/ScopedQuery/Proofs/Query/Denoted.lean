import ScopedQuery.Proofs.Query.Checked
import ScopedQuery.Proofs.Text.DisplayName
import ScopedQuery.Proofs.Text.Sorted
import ScopedQuery.Proofs.Text.Spelled
/-!
# What a plan denotes

Which query a plan stands for, said without checking it.

* `Plan.Dimension.Denotes`, `Plan.Measure.Denotes`, `Plan.Filter.Denotes` and `Plan.Order.Denotes` relate
  a part of a plan to a part of a query; `Plan.Filter.Gives` lists the operands that operators take.
* `Plan.Denotes` puts the parts together, with the limit and the fields in use.
* `Plan.check_query_iff_denotes`: checking gives exactly the query that the plan denotes.
* `Plan.Denotes.tells_usedFields`: the fields in use are those that the parts of the plan tell.
-/

namespace ScopedQuery

open Steps Text

/-- A raw text tells the name of a field, exactly as the dataset declares it. -/
structure Dataset.Names (d : Dataset) (raw : Option String) (name : String) : Prop where
  tells : Tells raw name
  declared : name ∈ d.fields.map (·.name)

/-- A trimmed name is found just if it is declared. -/
theorem Dataset.field?_isSome_iff {d : Dataset} {name : String} (h : trim name = name) :
    (d.field? name).isSome = true ↔ name ∈ d.fields.map (·.name) := by
  simp [Dataset.field?, h, List.mem_map]

namespace Plan

theorem requireField_iff_names {d : Dataset} {path : PlanPath} {raw : Option String}
    {name : String} : requireField d path raw = .ok name ↔ d.Names raw name := by
  rw [requireField_eq_ok, filled?_iff_tells]
  constructor
  · rintro ⟨htells, hfield⟩
    exact ⟨htells, (Dataset.field?_isSome_iff htells.trim_eq).mp hfield⟩
  · rintro ⟨htells, hdeclared⟩
    exact ⟨htells, (Dataset.field?_isSome_iff htells.trim_eq).mpr hdeclared⟩

/-! ### Dimensions and measures -/

/-- A dimension is a declared field; without a label of its own it is called by the field. -/
structure Dimension.Denotes (d : Dataset) (x : Dimension) (y : Query.Dimension) : Prop where
  field : d.Names x.field y.field
  label : y.label = displayName x.label y.field
  displayable : IsDisplayName y.label

theorem Dimension.check_iff_denotes {d : Dataset} {x : Dimension} {y : Query.Dimension} :
    x.check d = .ok y ↔ x.Denotes d y := by
  simp only [Dimension.check, bind_eq_ok, requireField_iff_names, pure_eq_ok]
  constructor
  · rintro ⟨name, hname, rfl⟩
    exact ⟨hname, rfl, isDisplayName_displayName _ hname.tells.2⟩
  · intro h
    refine ⟨y.field, h.field, ?_⟩
    rw [← h.label]

/-- A measure is an aggregation that the field supports; without a label of its own it is called by
both. -/
structure Measure.Denotes (d : Dataset) (x : Measure) (y : Query.Measure) : Prop where
  agg : Spells x.agg y.agg.code
  field : d.Names x.field y.field
  supported : d.supports y.agg y.field = true
  label : y.label = displayName x.label (y.agg.code ++ "_" ++ y.field)
  displayable : IsDisplayName y.label

theorem measureName_ne_empty (agg : Aggregation) (field : String) : measureName agg field ≠ "" := by
  intro h
  have hlist := congrArg String.toList h
  simp [measureName] at hlist

/-- A word that must not be blank is an aggregation just if it spells one. -/
theorem exists_tells_aggregation {raw : Option String} {agg : Aggregation} :
    (∃ word, Tells raw word ∧ Aggregation.read? word = some agg) ↔ Spells raw agg.code :=
  exists_tells_read_iff (fun _ _ => Aggregation.read?_eq_some) (fun a => by cases a <;> decide)

theorem Measure.check_iff_denotes {d : Dataset} {x : Measure} {y : Query.Measure} :
    x.check d = .ok y ↔ x.Denotes d y := by
  simp only [Measure.check, bind_eq_ok, requireText_eq_ok, filled?_iff_tells]
  constructor
  · rintro ⟨word, hword, name, hname, h⟩
    split at h
    · cases h
    · next agg hagg =>
      obtain ⟨field, hfield, h⟩ := bind_eq_ok.mp h
      split at h
      · next hsupports =>
        obtain rfl := pure_eq_ok.mp h
        obtain ⟨hsame, hdeclared⟩ := requireField_iff_names.mp hfield
        obtain rfl : name = field := by
          have hagain := hname.again.1.symm.trans hsame.1
          exact Option.some.inj hagain
        exact ⟨exists_tells_aggregation.mp ⟨word, hword, hagg⟩, ⟨hname, hdeclared⟩, hsupports, rfl,
          isDisplayName_displayName _ (measureName_ne_empty agg name)⟩
      · cases h
  · intro h
    obtain ⟨word, hword, hagg⟩ := exists_tells_aggregation.mpr h.agg
    have hfield : requireField d .measureField (some y.field) = .ok y.field :=
      requireField_iff_names.mpr ⟨h.field.tells.again, h.field.declared⟩
    refine ⟨word, hword, y.field, h.field.tells, ?_⟩
    rw [hagg]
    simp only [hfield, ok_bind, h.supported, if_true, pure_eq_ok]
    rw [measureName, ← h.label]

/-! ### Filters -/

/-- The operands that an operator takes of a filter: those of a set without the blank ones, but at least
one, and otherwise each of its operands, which must not be blank. -/
inductive Filter.Gives (x : Filter) : Predicate → Prop
  | compare (op : CompareOp) {value : String} (h : Tells x.value value) :
      Gives x (.compare op value)
  | oneOf (h : (x.values.map trim).filter (· ≠ "") ≠ []) :
      Gives x (.oneOf ((x.values.map trim).filter (· ≠ "")))
  | between {low high : String} (hlow : Tells x.low low) (hhigh : Tells x.high high) :
      Gives x (.between low high)

/-- Whatever is given is trimmed and not blank, and it is not nothing. -/
theorem Filter.Gives.operands {x : Filter} {p : Predicate} (h : x.Gives p) :
    p.operands ≠ [] ∧ ∀ operand ∈ p.operands, trim operand = operand ∧ operand ≠ "" := by
  cases h with
  | compare op hvalue =>
    exact ⟨List.cons_ne_nil _ _, by simpa [Predicate.operands] using ⟨hvalue.trim_eq, hvalue.2⟩⟩
  | oneOf hne =>
    refine ⟨hne, fun operand hoperand => ?_⟩
    obtain ⟨hmem, hfilled⟩ := List.mem_filter.mp hoperand
    obtain ⟨s, -, rfl⟩ := List.mem_map.mp hmem
    exact ⟨trim_trim s, by simpa using hfilled⟩
  | between hlow hhigh =>
    refine ⟨List.cons_ne_nil _ _, ?_⟩
    simpa [Predicate.operands] using
      ⟨⟨hlow.trim_eq, hlow.2⟩, hhigh.trim_eq, hhigh.2⟩

theorem filledValues_eq (values : List String) :
    filledValues values = (values.map trim).filter (· ≠ "") := by
  induction values with
  | nil => rfl
  | cons v vs ih =>
    rw [filledValues] at ih ⊢
    by_cases hv : trim v = ""
    · simp [nonBlank?, hv, ih]
    · simp [nonBlank?, hv, ih]

theorem Filter.comparison_eq_ok {x : Filter} {op : CompareOp} {p : Predicate} :
    Filter.predicate.comparison x op = .ok p ↔ ∃ value, Tells x.value value ∧ p = .compare op value := by
  simp only [Filter.predicate.comparison, ← filled?_iff_tells]
  cases filled? x.value with
  | none => simp
  | some value =>
    simp only [pure_eq_ok, Option.some.injEq, exists_eq_left']
    exact eq_comm

/-- A comparison is given just if its one operand is. -/
theorem Filter.comparison_iff_gives (x : Filter) (op : CompareOp) (p : Predicate) :
    Filter.predicate.comparison x op = .ok p ↔ p.op = op.filterOp ∧ x.Gives p := by
  rw [Filter.comparison_eq_ok]
  constructor
  · rintro ⟨value, hvalue, rfl⟩
    exact ⟨rfl, .compare op hvalue⟩
  · rintro ⟨hop, hgives⟩
    cases hgives with
    | compare op' hvalue =>
      refine ⟨_, hvalue, ?_⟩
      have hsame := congrArg CompareOp.ofFilterOp? hop
      simp only [Predicate.op, CompareOp.ofFilterOp?_filterOp, Option.some.injEq] at hsame
      rw [hsame]
    | oneOf hne => cases op <;> cases hop
    | between hlow hhigh => cases op <;> cases hop

theorem Filter.set_iff_gives {x : Filter} {p : Predicate} :
    x.predicate .isIn = .ok p ↔ p.op = .isIn ∧ x.Gives p := by
  simp only [Filter.predicate, filledValues_eq]
  constructor
  · intro h
    split at h
    · cases h
    · split at h
      · cases h
      · next hne =>
        obtain rfl := pure_eq_ok.mp h
        exact ⟨rfl, .oneOf (by simpa using hne)⟩
  · rintro ⟨hop, hgives⟩
    cases hgives with
    | compare op hvalue => cases op <;> cases hop
    | oneOf hne =>
      have hvalues : x.values ≠ [] := by
        intro hnil
        rw [hnil] at hne
        exact hne rfl
      simp only [List.isEmpty_iff, if_neg hvalues, if_neg hne, pure_eq_ok]
    | between hlow hhigh => cases hop

theorem Filter.bounds_iff_gives {x : Filter} {p : Predicate} :
    x.predicate .between = .ok p ↔ p.op = .between ∧ x.Gives p := by
  simp only [Filter.predicate]
  constructor
  · intro h
    split at h
    · next low high hlow hhigh =>
      obtain rfl := pure_eq_ok.mp h
      exact ⟨rfl, .between (filled?_iff_tells.mp hlow) (filled?_iff_tells.mp hhigh)⟩
    · cases h
  · rintro ⟨hop, hgives⟩
    cases hgives with
    | compare op hvalue => cases op <;> cases hop
    | oneOf hne => cases hop
    | between hlow hhigh =>
      rw [filled?_iff_tells.mpr hlow, filled?_iff_tells.mpr hhigh]
      exact pure_eq_ok.mpr rfl

/-- A filter has a predicate with an operator just if it gives one. -/
theorem Filter.predicate_iff_gives {x : Filter} {op : FilterOp} {p : Predicate} :
    x.predicate op = .ok p ↔ p.op = op ∧ x.Gives p := by
  cases op with
  | isIn => exact Filter.set_iff_gives
  | between => exact Filter.bounds_iff_gives
  | eq => exact Filter.comparison_iff_gives x .eq p
  | ne => exact Filter.comparison_iff_gives x .ne p
  | gt => exact Filter.comparison_iff_gives x .gt p
  | gte => exact Filter.comparison_iff_gives x .gte p
  | lt => exact Filter.comparison_iff_gives x .lt p
  | lte => exact Filter.comparison_iff_gives x .lte p

/-- A filter has an operator that the dataset allows, with the operands that it takes. -/
structure Filter.Denotes (d : Dataset) (x : Filter) (y : Query.Filter) : Prop where
  field : d.Names x.field y.field
  op : Spells x.op y.predicate.op.code
  allowed : y.predicate.op ∈ d.filterOps
  gives : x.Gives y.predicate
  operands : y.predicate.operands ≠ [] ∧
    ∀ operand ∈ y.predicate.operands, trim operand = operand ∧ operand ≠ ""

/-- A word that must not be blank is a filter operator just if it spells one. -/
theorem exists_tells_operator {raw : Option String} {op : FilterOp} :
    (∃ word, Tells raw word ∧ FilterOp.read? word = some op) ↔ Spells raw op.code :=
  exists_tells_read_iff (fun _ _ => FilterOp.read?_eq_some) (fun op => by cases op <;> decide)

theorem Filter.check_iff_denotes {d : Dataset} {x : Filter} {y : Query.Filter} :
    x.check d = .ok y ↔ x.Denotes d y := by
  simp only [Filter.check, bind_eq_ok, requireField_iff_names, requireOperator_eq_ok,
    filled?_iff_tells, Filter.predicate_iff_gives, pure_eq_ok]
  constructor
  · rintro ⟨name, hname, op, ⟨word, hword, hread, hallowed⟩, p, ⟨rfl, hgives⟩, rfl⟩
    exact ⟨hname, exists_tells_operator.mp ⟨word, hword, hread⟩, hallowed, hgives, hgives.operands⟩
  · intro h
    obtain ⟨word, hword, hread⟩ := exists_tells_operator.mpr h.op
    exact ⟨y.field, h.field, _, ⟨word, hword, hread, h.allowed⟩, y.predicate, ⟨rfl, h.gives⟩, rfl⟩

/-! ### Sort keys -/

/-- A sort key has one of the two directions. -/
structure Order.Denotes (d : Dataset) (x : Order) (y : Query.Order) : Prop where
  field : d.Names x.field y.field
  direction : Spells x.direction y.direction.sql

/-- A direction that is left out is none of the two. -/
theorem read?_getD_iff_spells {raw : Option String} {direction : SortDirection} :
    SortDirection.read? (raw.getD "") = some direction ↔ Spells raw direction.sql := by
  rw [SortDirection.read?_eq_some]
  cases raw with
  | none => cases direction <;> simp [Spells] <;> decide
  | some s => simp [Spells]

theorem Order.check_iff_denotes {d : Dataset} {x : Order} {y : Query.Order} :
    x.check d = .ok y ↔ x.Denotes d y := by
  simp only [Order.check, bind_eq_ok, requireField_iff_names]
  constructor
  · rintro ⟨name, hname, h⟩
    split at h
    · next direction hread =>
      obtain rfl := pure_eq_ok.mp h
      exact ⟨hname, read?_getD_iff_spells.mp hread⟩
    · cases h
  · intro h
    refine ⟨y.field, h.field, ?_⟩
    rw [read?_getD_iff_spells.mpr h.direction]
    exact pure_eq_ok.mpr rfl

/-! ### The whole plan -/

/-- The query is what the plan asks of a dataset. -/
structure Denotes (d : Dataset) (limits : Limits) (p : Plan) (q : Query) : Prop where
  dataset : q.dataset = d.code
  measured : q.measures ≠ []
  dimensions : List.Forall₂ (Dimension.Denotes d) p.dimensions q.dimensions
  measures : List.Forall₂ (Measure.Denotes d) p.measures q.measures
  filters : List.Forall₂ (Filter.Denotes d) p.filters q.filters
  orderBy : List.Forall₂ (Order.Denotes d) p.orderBy q.orderBy
  limit : q.limit.toNat = min (max 1 (limits.wanted p.limit)) (max 1 limits.cap.toNat)
  limited : 1 ≤ q.limit.toNat ∧ q.limit.toNat ≤ max 1 limits.cap.toNat
  sorted : q.usedFields.Pairwise (· < ·)
  usedFields : ∀ name, name ∈ q.usedFields ↔
    (∃ dim ∈ q.dimensions, dim.field = name) ∨ (∃ m ∈ q.measures, m.field = name) ∨
      (∃ f ∈ q.filters, f.field = name) ∨ ∃ o ∈ q.orderBy, o.field = name

theorem usedFields_eq_iff {q : Query} :
    q.usedFields = fieldsOf q.dimensions q.measures q.filters q.orderBy ↔
      q.usedFields.Pairwise (· < ·) ∧ ∀ name, name ∈ q.usedFields ↔
        (∃ dim ∈ q.dimensions, dim.field = name) ∨ (∃ m ∈ q.measures, m.field = name) ∨
          (∃ f ∈ q.filters, f.field = name) ∨ ∃ o ∈ q.orderBy, o.field = name := by
  simp only [fieldsOf, eq_sorted_iff, List.mem_append, List.mem_map, or_assoc]

theorem checked_iff_denotes {d : Dataset} {limits : Limits} {p : Plan} {q : Query} :
    Checked d limits p q ↔ p.Denotes d limits q := by
  constructor
  · intro h
    obtain ⟨hsorted, hused⟩ := usedFields_eq_iff.mp h.usedFields
    have hlimit := Limits.toNat_normalize limits p.limit
    rw [← h.limit] at hlimit
    exact {
      dataset := h.dataset
      measured := h.fits.measured
      dimensions := h.dimensions.imp fun _ _ => Dimension.check_iff_denotes.mp
      measures := h.measures.imp fun _ _ => Measure.check_iff_denotes.mp
      filters := h.filters.imp fun _ _ => Filter.check_iff_denotes.mp
      orderBy := h.orderBy.imp fun _ _ => Order.check_iff_denotes.mp
      limit := hlimit
      limited := by omega
      sorted := hsorted
      usedFields := hused }
  · intro h
    have hmeasured : p.measures ≠ [] := by
      intro hnil
      have hlen := h.measures.length_eq
      rw [hnil] at hlen
      exact h.measured (List.length_eq_zero_iff.mp hlen.symm)
    exact {
      measured := hmeasured
      dataset := h.dataset
      dimensions := h.dimensions.imp fun _ _ => Dimension.check_iff_denotes.mpr
      measures := h.measures.imp fun _ _ => Measure.check_iff_denotes.mpr
      filters := h.filters.imp fun _ _ => Filter.check_iff_denotes.mpr
      orderBy := h.orderBy.imp fun _ _ => Order.check_iff_denotes.mpr
      limit := UInt32.toNat_inj.mp (h.limit.trans (Limits.toNat_normalize limits p.limit).symm)
      usedFields := usedFields_eq_iff.mpr ⟨h.sorted, h.usedFields⟩ }

/-- Checking a plan gives exactly the query that the plan denotes in the one dataset there is, if the plan
names this dataset and has no question to ask back. -/
theorem check_query_iff_denotes {registry : Registry} {limits : Limits} {p : Plan} {q : Query} :
    p.check registry limits = .ok (.query q) ↔
      sameFold registry.dataset.code (trim (p.dataset.getD "")) = true ∧
        p.isClarification = false ∧ p.Denotes registry.dataset limits q := by
  rw [check_eq_query, checked_iff_denotes]
  simp [Registry.find?]

/-! ### Fields of a plan -/

/-- The fields of all parts as they are written. -/
def rawFields (p : Plan) : List (Option String) :=
  p.dimensions.map (·.field) ++ p.measures.map (·.field) ++ p.filters.map (·.field) ++
    p.orderBy.map (·.field)

/-- The fields of the parts of a query are told by the parts of the plan, one by one. -/
theorem Denotes.tells_fields {d : Dataset} {limits : Limits} {p : Plan} {q : Query}
    (h : p.Denotes d limits q) :
    List.Forall₂ Tells p.rawFields
      (q.dimensions.map (·.field) ++ q.measures.map (·.field) ++ q.filters.map (·.field) ++
        q.orderBy.map (·.field)) := by
  refine List.rel_append (List.rel_append (List.rel_append ?_ ?_) ?_) ?_
  all_goals rw [List.forall₂_map_left_iff, List.forall₂_map_right_iff]
  · exact h.dimensions.imp fun _ _ hx => hx.field.tells
  · exact h.measures.imp fun _ _ hx => hx.field.tells
  · exact h.filters.imp fun _ _ hx => hx.field.tells
  · exact h.orderBy.imp fun _ _ hx => hx.field.tells

/-- Each part of the plan tells a field in use, and each of these is told by a part. -/
theorem Denotes.tells_usedFields {d : Dataset} {limits : Limits} {p : Plan} {q : Query}
    (h : p.Denotes d limits q) :
    (∀ raw ∈ p.rawFields, ∃ name ∈ q.usedFields, Tells raw name) ∧
      ∀ name ∈ q.usedFields, ∃ raw ∈ p.rawFields, Tells raw name := by
  rw [(checked_iff_denotes.mpr h).usedFields]
  simp only [fieldsOf, mem_sorted]
  exact ⟨fun _ hraw => exists_origin h.tells_fields.flip hraw,
    fun _ hname => exists_origin h.tells_fields hname⟩

end Plan

end ScopedQuery
