import ScopedQuery.Proofs.Schema.Dataset
import ScopedQuery.Proofs.Steps
import ScopedQuery.Query.Checking
/-!
# Checked plans

What is known of a query that a plan has been turned into.

* `Plan.Checked` lists it: dimensions, measures, filters and sort keys correspond one by one.
* `Plan.check_eq_query` says that `Plan.check` gives exactly such a query.
* `Plan.Filter.check_equation`: an equation is kept as an equation with its trimmed operand.
* `Query.Fits` is what binding relies on, and `Plan.Checked.fits` says that checking makes sure of it.
-/

namespace ScopedQuery

open Steps

namespace Plan

/-! ### Words and names -/

theorem requireText_eq_ok {path : PlanPath} {raw : Option String} {text : String} :
    requireText path raw = .ok text ↔ Text.filled? raw = some text := by
  simp only [requireText]
  split
  · next h => simp [h]
  · next h => simp [h]

theorem requireField_eq_ok {d : Dataset} {path : PlanPath} {raw : Option String} {name : String} :
    requireField d path raw = .ok name ↔
      Text.filled? raw = some name ∧ (d.field? name).isSome := by
  simp only [requireField, bind_eq_ok, requireText_eq_ok]
  constructor
  · rintro ⟨t, ht, h⟩
    split at h
    · next hf => exact pure_eq_ok.mp h ▸ ⟨ht, hf⟩
    · exact absurd h (by simp)
  · rintro ⟨ht, hf⟩
    exact ⟨name, ht, by simp [hf]⟩

theorem requireOperator_eq_ok {d : Dataset} {raw : Option String} {op : FilterOp} :
    requireOperator d raw = .ok op ↔
      ∃ word, Text.filled? raw = some word ∧ FilterOp.read? word = some op ∧ op ∈ d.filterOps := by
  simp only [requireOperator, bind_eq_ok, requireText_eq_ok]
  refine exists_congr fun word => and_congr_right fun _ => ?_
  cases hr : FilterOp.read? word with
  | none => simp
  | some o =>
    by_cases ho : o ∈ d.filterOps
    · simp only [List.contains_iff_mem, ho, if_true, pure_eq_ok, Option.some.injEq]
      exact ⟨fun h => h ▸ ⟨rfl, ho⟩, fun h => h.1⟩
    · simp only [List.contains_iff_mem, ho, if_false, throw_eq_ok, Option.some.injEq, false_iff]
      rintro ⟨rfl, hop⟩
      exact ho hop

/-! ### All of a plan -/

/-- What is known of the query that a plan amounts to. -/
structure Checked (d : Dataset) (limits : Limits) (p : Plan) (q : Query) : Prop where
  measured : p.measures ≠ []
  dataset : q.dataset = d.code
  dimensions : List.Forall₂ (fun x y => Dimension.check d x = .ok y) p.dimensions q.dimensions
  measures : List.Forall₂ (fun x y => Measure.check d x = .ok y) p.measures q.measures
  filters : List.Forall₂ (fun x y => Filter.check d x = .ok y) p.filters q.filters
  orderBy : List.Forall₂ (fun x y => Order.check d x = .ok y) p.orderBy q.orderBy
  limit : q.limit = limits.normalize p.limit
  usedFields : q.usedFields = fieldsOf q.dimensions q.measures q.filters q.orderBy

theorem checkParts_eq_ok {d : Dataset} {limits : Limits} {p : Plan} {q : Query} :
    checkParts d limits p = .ok q ↔ Checked d limits p q := by
  simp only [checkParts, unless_eq_ok, bind_eq_ok, mapM_eq_ok, pure_eq_ok, List.isEmpty_iff]
  constructor
  · rintro ⟨hm, dims, hdims, ms, hms, fs, hfs, os, hos, rfl⟩
    exact ⟨hm, rfl, hdims, hms, hfs, hos, rfl, rfl⟩
  · rintro ⟨hm, hd, hdims, hms, hfs, hos, hl, hu⟩
    refine ⟨hm, _, hdims, _, hms, _, hfs, _, hos, ?_⟩
    cases q
    simp_all

/-- A plan is turned into a query of the one dataset there is. -/
theorem check_eq_query {registry : Registry} {limits : Limits} {p : Plan} {q : Query} :
    p.check registry limits = .ok (.query q) ↔
      (registry.find? (p.dataset.getD "")).isSome ∧ p.isClarification = false ∧
        Checked registry.dataset limits p q := by
  simp only [check]
  cases hfind : registry.find? (p.dataset.getD "") with
  | none => simp
  | some d =>
    obtain ⟨rfl, -⟩ := Registry.find?_eq_some.mp hfind
    by_cases hc : p.isClarification = true
    · simp only [hc, if_true]
      split <;> simp
    · simp [hc, checkParts_eq_ok]

/-- A question is asked back only if the plan calls for it. -/
theorem isClarification_of_check {registry : Registry} {limits : Limits} {p : Plan}
    {code question : String} (h : p.check registry limits = .ok (.clarification code question)) :
    p.isClarification = true := by
  simp only [check] at h
  split at h
  · cases h
  · split at h
    · assumption
    · simp at h

/-! ### Filters -/

/-- An equation whose field the dataset has is kept, with field and operand trimmed. -/
theorem Filter.check_equation {d : Dataset} {f : Filter} {g : Query.Filter} {value : String}
    (hop : f.op.bind FilterOp.read? = some .eq) (hvalue : Text.filled? f.value = some value)
    (h : Filter.check d f = .ok g) :
    ∃ name, Text.filled? f.field = some name ∧ g = ⟨name, .compare .eq value⟩ := by
  simp only [Filter.check, bind_eq_ok, requireField_eq_ok, requireOperator_eq_ok, pure_eq_ok] at h
  obtain ⟨name, ⟨hname, -⟩, op, ⟨word, hword, hread, -⟩, predicate, hp, rfl⟩ := h
  obtain ⟨raw, hraw, rfl, -⟩ := Text.filled?_eq_some.mp hword
  obtain rfl : op = .eq := by
    rw [hraw, Option.bind_some] at hop
    rw [FilterOp.read?, Text.trim_trim, ← FilterOp.read?, hop] at hread
    exact (Option.some.inj hread).symm
  simp only [Filter.predicate, Filter.predicate.comparison, hvalue, pure_eq_ok] at hp
  exact ⟨name, hname, by rw [hp]⟩

end Plan

/-! ### What binding relies on -/

/-- A query names fields of the dataset only, with aggregations that they support, and its sets of
operands are not empty. -/
structure Query.Fits (q : Query) (d : Dataset) : Prop where
  measured : q.measures ≠ []
  dimensions : ∀ dim ∈ q.dimensions, (d.field? dim.field).isSome = true
  measures : ∀ m ∈ q.measures, d.supports m.agg m.field = true
  filters : ∀ f ∈ q.filters, (d.field? f.field).isSome = true ∧ f.predicate ≠ .oneOf []
  orderBy : ∀ o ∈ q.orderBy, (d.field? o.field).isSome = true

namespace Plan

theorem Dimension.check_field {d : Dataset} {x : Dimension} {y : Query.Dimension}
    (h : x.check d = .ok y) : (d.field? y.field).isSome = true := by
  simp only [Dimension.check, bind_eq_ok, requireField_eq_ok, pure_eq_ok] at h
  obtain ⟨name, ⟨-, hname⟩, rfl⟩ := h
  exact hname

theorem Measure.check_supports {d : Dataset} {x : Measure} {y : Query.Measure}
    (h : x.check d = .ok y) : d.supports y.agg y.field = true := by
  simp only [Measure.check, bind_eq_ok] at h
  obtain ⟨word, -, name, -, h⟩ := h
  split at h
  · cases h
  · obtain ⟨field, -, h⟩ := bind_eq_ok.mp h
    split at h
    · next hsupports =>
      rw [← pure_eq_ok.mp h]
      exact hsupports
    · cases h

theorem Filter.predicate_ne_empty {f : Filter} {op : FilterOp} {p : Predicate}
    (h : f.predicate op = .ok p) : p ≠ .oneOf [] := by
  rintro rfl
  unfold Filter.predicate at h
  split at h
  · split at h
    · cases h
    · split at h
      · cases h
      · next hfilled =>
        have hempty := Predicate.oneOf.inj (pure_eq_ok.mp h)
        rw [hempty] at hfilled
        exact hfilled rfl
  · split at h
    · cases h
    · cases h
  all_goals
    unfold Filter.predicate.comparison at h
    split at h
    · cases h
    · cases h

theorem Filter.check_fits {d : Dataset} {x : Filter} {y : Query.Filter} (h : x.check d = .ok y) :
    (d.field? y.field).isSome = true ∧ y.predicate ≠ .oneOf [] := by
  simp only [Filter.check, bind_eq_ok, requireField_eq_ok, pure_eq_ok] at h
  obtain ⟨name, ⟨-, hname⟩, op, -, p, hp, rfl⟩ := h
  exact ⟨hname, Filter.predicate_ne_empty hp⟩

theorem Order.check_field {d : Dataset} {x : Order} {y : Query.Order} (h : x.check d = .ok y) :
    (d.field? y.field).isSome = true := by
  simp only [Order.check, bind_eq_ok, requireField_eq_ok] at h
  obtain ⟨name, ⟨-, hname⟩, h⟩ := h
  split at h
  · rw [← pure_eq_ok.mp h]
    exact hname
  · cases h

/-- A checked query fits the dataset that it was checked against. -/
theorem Checked.fits {d : Dataset} {limits : Limits} {p : Plan} {q : Query}
    (h : Checked d limits p q) : q.Fits d where
  measured := by
    intro hnil
    have hlen := h.measures.length_eq
    rw [hnil] at hlen
    exact h.measured (List.length_eq_zero_iff.mp hlen)
  dimensions := fun y hy => by
    obtain ⟨x, -, hx⟩ := exists_origin h.dimensions hy
    exact Dimension.check_field hx
  measures := fun y hy => by
    obtain ⟨x, -, hx⟩ := exists_origin h.measures hy
    exact Measure.check_supports hx
  filters := fun y hy => by
    obtain ⟨x, -, hx⟩ := exists_origin h.filters hy
    exact Filter.check_fits hx
  orderBy := fun y hy => by
    obtain ⟨x, -, hx⟩ := exists_origin h.orderBy hy
    exact Order.check_field hx

end Plan

end ScopedQuery
