import Mathlib.Tactic.MkIffOfInductiveProp
import ScopedQuery.Compiled
import ScopedQuery.Proofs.Query.Denoted
import ScopedQuery.Schema.Tasks
/-!
# Which plans are checked

What a plan must be like to become a query, said part by part and without looking for faults.

* `Plan.Acceptable` asks of each part what the dataset asks of it; `Plan.NamesFilled` asks that no field is
  left blank, which matters only to a dataset that declares a field without a name.
* `Plan.SameDemands`: two plans differ in nothing but labels, the limit, and operands that no operator takes.
* `Plan.check_accepts_iff`: just the acceptable plans become queries, every other one is invalid, and
  plans with the same demands are turned down for the same fault.
-/

namespace ScopedQuery

open Steps Text

/-- A raw text that is not blank. -/
def Text.Told (raw : Option String) : Prop := ∃ text, Tells raw text

instance (raw : Option String) : Decidable (Told raw) :=
  decidable_of_iff ((filled? raw).isSome = true) (by
    simp only [Option.isSome_iff_exists, filled?_iff_tells, Told])

/-- The trimmed text is the name of a declared field. -/
def Dataset.Declares (d : Dataset) (raw : Option String) : Prop :=
  ∃ field ∈ d.fields, raw.map trim = some field.name

instance (d : Dataset) (raw : Option String) : Decidable (d.Declares raw) :=
  inferInstanceAs (Decidable (∃ field ∈ d.fields, raw.map trim = some field.name))

theorem Dataset.exists_names_iff {d : Dataset} {raw : Option String} :
    (∃ name, d.Names raw name) ↔ d.Declares raw ∧ raw.map trim ≠ some "" := by
  constructor
  · rintro ⟨name, htells, hdeclared⟩
    obtain ⟨field, hfield, rfl⟩ := List.mem_map.mp hdeclared
    refine ⟨⟨field, hfield, htells.1⟩, fun hblank => htells.2 ?_⟩
    exact Option.some.inj (htells.1.symm.trans hblank)
  · rintro ⟨⟨field, hfield, hraw⟩, hfilled⟩
    refine ⟨field.name, ⟨hraw, fun hblank => hfilled ?_⟩, List.mem_map_of_mem hfield⟩
    rw [hraw, hblank]

namespace Plan

/-! ### What is asked of the parts -/

/-- A measure of a declared field whose aggregation this field supports. -/
@[mk_iff]
structure Measure.Acceptable (d : Dataset) (x : Measure) : Prop where
  field : d.Declares x.field
  agg : ∃ agg ∈ Aggregation.all, Spells x.agg agg.code ∧
    ∃ name ∈ x.field.map trim, d.supports agg name = true

/-- The operands that an operator takes are there and not blank, of a set at least one. -/
def Filter.Has (x : Filter) : FilterOp → Prop
  | .isIn => ∃ value ∈ x.values, trim value ≠ ""
  | .between => Told x.low ∧ Told x.high
  | _ => Told x.value

instance (x : Filter) : (op : FilterOp) → Decidable (x.Has op)
  | .isIn => inferInstanceAs (Decidable (∃ value ∈ x.values, trim value ≠ ""))
  | .between => inferInstanceAs (Decidable (Told x.low ∧ Told x.high))
  | .eq | .ne | .gt | .gte | .lt | .lte => inferInstanceAs (Decidable (Told x.value))

/-- A filter of a declared field whose operator the dataset allows, with the operands that it takes. -/
@[mk_iff]
structure Filter.Acceptable (d : Dataset) (x : Filter) : Prop where
  field : d.Declares x.field
  op : ∃ op ∈ d.filterOps, Spells x.op op.code ∧ x.Has op

/-- A sort key of a declared field, in one of the two directions. -/
@[mk_iff]
structure Order.Acceptable (d : Dataset) (x : Order) : Prop where
  field : d.Declares x.field
  direction : ∃ direction ∈ [SortDirection.asc, .desc], Spells x.direction direction.sql

instance (d : Dataset) (x : Measure) : Decidable (x.Acceptable d) :=
  decidable_of_iff _ (Measure.acceptable_iff d x).symm

instance (d : Dataset) (x : Filter) : Decidable (x.Acceptable d) :=
  decidable_of_iff _ (Filter.acceptable_iff d x).symm

instance (d : Dataset) (x : Order) : Decidable (x.Acceptable d) :=
  decidable_of_iff _ (Order.acceptable_iff d x).symm

/-- Every part of the plan is what the dataset asks for; a dataset that is left out counts as an empty
text. -/
@[mk_iff]
structure Acceptable (d : Dataset) (p : Plan) : Prop where
  dataset : sameFold d.code (trim (p.dataset.getD "")) = true
  measured : p.measures ≠ []
  dimensions : ∀ x ∈ p.dimensions, d.Declares x.field
  measures : ∀ x ∈ p.measures, x.Acceptable d
  filters : ∀ x ∈ p.filters, x.Acceptable d
  orderBy : ∀ x ∈ p.orderBy, x.Acceptable d

instance (d : Dataset) (p : Plan) : Decidable (p.Acceptable d) :=
  decidable_of_iff _ (acceptable_iff d p).symm

/-- No part has a blank text for its field. -/
def NamesFilled (p : Plan) : Prop := ∀ raw ∈ p.rawFields, raw.map trim ≠ some ""

/-! ### One part of a query for each part of the plan -/

theorem Dimension.exists_denotes_iff {d : Dataset} {x : Dimension} :
    (∃ y, x.Denotes d y) ↔ d.Declares x.field ∧ x.field.map trim ≠ some "" := by
  rw [← Dataset.exists_names_iff]
  constructor
  · rintro ⟨y, h⟩
    exact ⟨y.field, h.field⟩
  · rintro ⟨name, hname⟩
    exact ⟨⟨name, displayName x.label name⟩, hname, rfl, isDisplayName_displayName _ hname.tells.2⟩

theorem Measure.exists_denotes_iff {d : Dataset} {x : Measure} :
    (∃ y, x.Denotes d y) ↔ x.Acceptable d ∧ x.field.map trim ≠ some "" := by
  constructor
  · rintro ⟨y, h⟩
    obtain ⟨hdeclares, hfilled⟩ := Dataset.exists_names_iff.mp ⟨y.field, h.field⟩
    exact ⟨⟨hdeclares, y.agg, Aggregation.mem_all _, h.agg, y.field, h.field.tells.1, h.supported⟩,
      hfilled⟩
  · rintro ⟨⟨hdeclares, agg, -, hagg, name, hname, hsupports⟩, hfilled⟩
    obtain ⟨name', hnames⟩ := Dataset.exists_names_iff.mpr ⟨hdeclares, hfilled⟩
    obtain rfl : name = name' := Option.some.inj (hname.symm.trans hnames.tells.1)
    exact ⟨⟨agg, name, displayName x.label (measureName agg name)⟩, hagg, hnames, hsupports, rfl,
      isDisplayName_displayName _ (measureName_ne_empty agg name)⟩

/-- A filter has what an operator takes just if it gives a predicate with this operator. -/
theorem Filter.exists_gives_iff {x : Filter} {op : FilterOp} :
    (∃ p : Predicate, p.op = op ∧ x.Gives p) ↔ x.Has op := by
  have hcompare : ∀ cmp : CompareOp,
      (∃ p : Predicate, p.op = cmp.filterOp ∧ x.Gives p) ↔ Told x.value := by
    intro cmp
    simp only [← Filter.comparison_iff_gives, Filter.comparison_eq_ok]
    constructor
    · rintro ⟨_, value, hvalue, -⟩
      exact ⟨value, hvalue⟩
    · rintro ⟨value, hvalue⟩
      exact ⟨_, value, hvalue, rfl⟩
  cases op with
  | isIn =>
    have hsome : (x.values.map trim).filter (· ≠ "") ≠ [] ↔ x.Has .isIn := by
      simp [Filter.Has, List.filter_eq_nil_iff]
    rw [← hsome]
    constructor
    · rintro ⟨p, hop, hgives⟩
      cases hgives with
      | compare cmp hvalue => cases cmp <;> cases hop
      | oneOf hne => exact hne
      | between hlow hhigh => cases hop
    · intro hne
      exact ⟨_, rfl, .oneOf hne⟩
  | between =>
    constructor
    · rintro ⟨p, hop, hgives⟩
      cases hgives with
      | compare cmp hvalue => cases cmp <;> cases hop
      | oneOf hne => cases hop
      | between hlow hhigh => exact ⟨⟨_, hlow⟩, ⟨_, hhigh⟩⟩
    · rintro ⟨⟨low, hlow⟩, high, hhigh⟩
      exact ⟨_, rfl, .between hlow hhigh⟩
  | eq => exact hcompare .eq
  | ne => exact hcompare .ne
  | gt => exact hcompare .gt
  | gte => exact hcompare .gte
  | lt => exact hcompare .lt
  | lte => exact hcompare .lte

theorem Filter.exists_denotes_iff {d : Dataset} {x : Filter} :
    (∃ y, x.Denotes d y) ↔ x.Acceptable d ∧ x.field.map trim ≠ some "" := by
  constructor
  · rintro ⟨y, h⟩
    obtain ⟨hdeclares, hfilled⟩ := Dataset.exists_names_iff.mp ⟨y.field, h.field⟩
    have hhas : x.Has y.predicate.op := Filter.exists_gives_iff.mp ⟨y.predicate, rfl, h.gives⟩
    exact ⟨⟨hdeclares, y.predicate.op, h.allowed, h.op, hhas⟩, hfilled⟩
  · rintro ⟨⟨hdeclares, op, hallowed, hop, hhas⟩, hfilled⟩
    obtain ⟨name, hname⟩ := Dataset.exists_names_iff.mpr ⟨hdeclares, hfilled⟩
    obtain ⟨p, rfl, hgives⟩ := Filter.exists_gives_iff.mpr hhas
    exact ⟨⟨name, p⟩, hname, hop, hallowed, hgives, hgives.operands⟩

theorem Order.exists_denotes_iff {d : Dataset} {x : Order} :
    (∃ y, x.Denotes d y) ↔ x.Acceptable d ∧ x.field.map trim ≠ some "" := by
  constructor
  · rintro ⟨y, h⟩
    obtain ⟨hdeclares, hfilled⟩ := Dataset.exists_names_iff.mp ⟨y.field, h.field⟩
    have hdirection : y.direction ∈ [SortDirection.asc, .desc] := by cases y.direction <;> decide
    exact ⟨⟨hdeclares, y.direction, hdirection, h.direction⟩, hfilled⟩
  · rintro ⟨⟨hdeclares, direction, -, hdirection⟩, hfilled⟩
    obtain ⟨name, hname⟩ := Dataset.exists_names_iff.mpr ⟨hdeclares, hfilled⟩
    exact ⟨⟨name, direction⟩, hname, hdirection⟩

/-! ### The whole plan -/

/-- A plan is checked part by part, and nothing else is needed for there to be a query. -/
theorem exists_checked_iff {d : Dataset} {limits : Limits} {p : Plan} :
    (∃ q, Checked d limits p q) ↔
      p.measures ≠ [] ∧ (∀ x ∈ p.dimensions, ∃ y, x.check d = .ok y) ∧
        (∀ x ∈ p.measures, ∃ y, x.check d = .ok y) ∧ (∀ x ∈ p.filters, ∃ y, x.check d = .ok y) ∧
          ∀ x ∈ p.orderBy, ∃ y, x.check d = .ok y := by
  simp only [← exists_partners_iff]
  constructor
  · rintro ⟨q, h⟩
    exact ⟨h.measured, ⟨_, h.dimensions⟩, ⟨_, h.measures⟩, ⟨_, h.filters⟩, ⟨_, h.orderBy⟩⟩
  · rintro ⟨hmeasured, ⟨dims, hdims⟩, ⟨ms, hms⟩, ⟨fs, hfs⟩, ⟨os, hos⟩⟩
    exact ⟨⟨d.code, dims, ms, fs, os, limits.normalize p.limit, fieldsOf dims ms fs os⟩,
      hmeasured, rfl, hdims, hms, hfs, hos, rfl, rfl⟩

theorem exists_query_iff {registry : Registry} {limits : Limits} {p : Plan}
    (h : p.isClarification = false) :
    (∃ q, p.check registry limits = .ok (.query q)) ↔
      p.Acceptable registry.dataset ∧ p.NamesFilled := by
  simp only [check_eq_query, h, true_and, exists_and_left, exists_checked_iff,
    Dimension.check_iff_denotes, Measure.check_iff_denotes, Filter.check_iff_denotes,
    Order.check_iff_denotes, Dimension.exists_denotes_iff, Measure.exists_denotes_iff,
    Filter.exists_denotes_iff, Order.exists_denotes_iff]
  have hfound : (registry.find? (p.dataset.getD "")).isSome = true ↔
      sameFold registry.dataset.code (trim (p.dataset.getD "")) = true := by
    simp [Registry.find?]
  rw [hfound, NamesFilled, rawFields]
  simp only [List.forall_mem_append, List.forall_mem_map]
  constructor
  · rintro ⟨hdataset, hmeasured, hdims, hms, hfs, hos⟩
    exact ⟨⟨hdataset, hmeasured, fun x hx => (hdims x hx).1, fun x hx => (hms x hx).1,
        fun x hx => (hfs x hx).1, fun x hx => (hos x hx).1⟩,
      ⟨⟨fun x hx => (hdims x hx).2, fun x hx => (hms x hx).2⟩, fun x hx => (hfs x hx).2⟩,
      fun x hx => (hos x hx).2⟩
  · rintro ⟨hacceptable, ⟨⟨hdims, hms⟩, hfs⟩, hos⟩
    exact ⟨hacceptable.dataset, hacceptable.measured,
      fun x hx => ⟨hacceptable.dimensions x hx, hdims x hx⟩,
      fun x hx => ⟨hacceptable.measures x hx, hms x hx⟩,
      fun x hx => ⟨hacceptable.filters x hx, hfs x hx⟩,
      fun x hx => ⟨hacceptable.orderBy x hx, hos x hx⟩⟩

/-- A plan that asks for declared fields leaves none blank if all of them have names. -/
theorem Acceptable.namesFilled {d : Dataset} {p : Plan} (hnamed : ∀ field ∈ d.fields, field.name ≠ "")
    (h : p.Acceptable d) : p.NamesFilled := by
  have hfilled : ∀ {raw}, d.Declares raw → raw.map trim ≠ some "" := by
    rintro raw ⟨field, hfield, hraw⟩ hblank
    exact hnamed field hfield (Option.some.inj (hraw.symm.trans hblank))
  rw [NamesFilled, rawFields]
  simp only [List.forall_mem_append, List.forall_mem_map]
  exact ⟨⟨⟨fun x hx => hfilled (h.dimensions x hx), fun x hx => hfilled (h.measures x hx).field⟩,
    fun x hx => hfilled (h.filters x hx).field⟩, fun x hx => hfilled (h.orderBy x hx).field⟩

/-- A plan without a question to ask back becomes a query, or it has a fault. -/
theorem check_cases {registry : Registry} {limits : Limits} {p : Plan}
    (h : p.isClarification = false) :
    (∃ q, p.check registry limits = .ok (.query q)) ∨
      ∃ fault, p.check registry limits = .error fault := by
  cases hcheck : p.check registry limits with
  | error fault => exact .inr ⟨fault, rfl⟩
  | ok checked =>
    cases checked with
    | query q => exact .inl ⟨q, rfl⟩
    | clarification code question =>
      rw [isClarification_of_check hcheck] at h
      cases h

/-! ### Parts that do not count -/

/-- Two filters agree on the operands that an operator takes. -/
def Filter.SameOperands (f g : Filter) : FilterOp → Prop
  | .isIn => f.values = g.values
  | .between => f.low = g.low ∧ f.high = g.high
  | _ => f.value = g.value

/-- Two filters differ at most in operands that their operator does not take. -/
structure Filter.SameDemands (f g : Filter) : Prop where
  field : f.field = g.field
  op : f.op = g.op
  operands : ∀ op : FilterOp, Spells f.op op.code → f.SameOperands g op

/-- Two plans differ at most in their labels, their limits, the questions that they would ask back, and
operands that no operator takes. -/
structure SameDemands (p p' : Plan) : Prop where
  dataset : p.dataset = p'.dataset
  needClarification : p.needClarification = p'.needClarification
  dimensions : List.Forall₂ (fun x y => Dimension.field x = Dimension.field y) p.dimensions p'.dimensions
  measures : List.Forall₂ (fun x y => Measure.agg x = Measure.agg y ∧ Measure.field x = Measure.field y)
    p.measures p'.measures
  filters : List.Forall₂ Filter.SameDemands p.filters p'.filters
  orderBy : p.orderBy = p'.orderBy

/-- Two steps fail alike, or come both to a result. -/
abbrev Alike {α β : Type} (x : Except PlanFault α) (y : Except PlanFault β) : Prop :=
  Both (fun _ _ => True) x y

theorem Dimension.check_alike {d : Dataset} {x y : Dimension} (h : x.field = y.field) :
    Alike (x.check d) (y.check d) := by
  rw [Dimension.check, Dimension.check, h]
  exact Both.bind_same fun _ _ => .ok trivial

theorem Measure.check_alike {d : Dataset} {x y : Measure}
    (h : x.agg = y.agg ∧ x.field = y.field) : Alike (x.check d) (y.check d) := by
  rw [Measure.check, Measure.check, h.1, h.2]
  refine Both.bind_same fun word _ => Both.bind_same fun name _ => ?_
  cases Aggregation.read? word with
  | none => exact rfl
  | some agg =>
    refine Both.bind_same fun field _ => ?_
    by_cases hsupports : d.supports agg field = true
    · simp only [hsupports, if_true]
      exact .ok trivial
    · simp only [hsupports]
      exact rfl

theorem Filter.predicate_congr {f g : Filter} {op : FilterOp} (h : f.SameOperands g op) :
    f.predicate op = g.predicate op := by
  cases op with
  | isIn => simp only [Filter.predicate, show f.values = g.values from h]
  | between => simp only [Filter.predicate, h.1, h.2]
  | _ => simp only [Filter.predicate, Filter.predicate.comparison, show f.value = g.value from h]

theorem Filter.check_congr {d : Dataset} {f g : Filter} (h : f.SameDemands g) :
    f.check d = g.check d := by
  rw [Filter.check, Filter.check, h.field]
  congr 1
  funext field
  cases hop : requireOperator d f.op with
  | error fault => rw [← h.op, hop]; rfl
  | ok op =>
    obtain ⟨word, hword, hread, -⟩ := requireOperator_eq_ok.mp hop
    have hspells := exists_tells_operator.mp ⟨word, filled?_iff_tells.mp hword, hread⟩
    rw [← h.op, hop, ok_bind, ok_bind, Filter.predicate_congr (h.operands op hspells)]

theorem checkParts_alike {d : Dataset} {limits limits' : Limits} {p p' : Plan}
    (h : p.SameDemands p') : Alike (p.checkParts d limits) (p'.checkParts d limits') := by
  have hmeasured : p.measures.isEmpty = p'.measures.isEmpty := by
    rw [Bool.eq_iff_iff, List.isEmpty_iff, List.isEmpty_iff, ← List.length_eq_zero_iff,
      ← List.length_eq_zero_iff, h.measures.length_eq]
  have hdimensions : Alike (p.dimensions.mapM (Dimension.check d))
      (p'.dimensions.mapM (Dimension.check d)) :=
    (Both.mapM_forall₂ (h.dimensions.imp fun _ _ => Dimension.check_alike)).imp fun _ _ _ => trivial
  have hmeasures : Alike (p.measures.mapM (Measure.check d)) (p'.measures.mapM (Measure.check d)) :=
    (Both.mapM_forall₂ (h.measures.imp fun _ _ => Measure.check_alike)).imp fun _ _ _ => trivial
  have hfilters : p.filters.mapM (Filter.check d) = p'.filters.mapM (Filter.check d) :=
    mapM_congr (h.filters.imp fun _ _ => Filter.check_congr)
  rw [checkParts, checkParts, hmeasured, hfilters, h.orderBy]
  refine Both.check fun _ => hdimensions.bind fun _ _ _ => hmeasures.bind fun _ _ _ => ?_
  exact Both.bind_same fun _ _ => Both.bind_same fun _ _ => .ok trivial

/-- Plans with the same demands are turned down for the same fault, or not at all. -/
theorem check_error_congr {registry : Registry} {limits limits' : Limits} {p p' : Plan}
    (hplain : p.isClarification = false) (h : p.SameDemands p') {fault : PlanFault} :
    p.check registry limits = .error fault ↔ p'.check registry limits' = .error fault := by
  have hplain' : p'.isClarification = false := by
    rw [isClarification, ← h.needClarification]
    exact hplain
  simp only [check, ← h.dataset, hplain, hplain']
  cases registry.find? (p.dataset.getD "") with
  | none => exact Iff.rfl
  | some d =>
    have hparts : Alike (p.checkParts d limits) (p'.checkParts d limits') := checkParts_alike h
    exact (hparts.bind (S := fun _ _ => True) fun _ _ _ => .ok trivial).error_iff

/-- What is wrong with a plan is the answer to it. -/
theorem compile_of_check_eq_error {registry : Registry} {limits : Limits} {p : Plan} {fault : PlanFault}
    (hplain : p.isClarification = false) (h : p.check registry limits = .error fault)
    (dialect : Dialect) :
    ScopedPlan.compile ⟨true, p⟩ registry limits dialect = .error (.invalidPlan fault) := by
  simp only [ScopedPlan.compile, hplain, h, Except.mapError, Bool.not_true, Bool.or_false,
    Bool.false_eq_true, if_false]
  rfl

/-- A plan without a question to ask back becomes a query just if it is acceptable and leaves no field
blank, for which it is enough that it is acceptable if all fields of the dataset have names. Any other such
plan is turned down as invalid, and neither labels nor limits nor operands that no operator takes matter
to that. -/
theorem check_accepts_iff (registry : Registry) (limits : Limits) {p : Plan}
    (h : p.isClarification = false) :
    ((∃ q, p.check registry limits = .ok (.query q)) ↔
      p.Acceptable registry.dataset ∧ p.NamesFilled) ∧
    ((∀ field ∈ registry.dataset.fields, field.name ≠ "") →
      ((∃ q, p.check registry limits = .ok (.query q)) ↔ p.Acceptable registry.dataset)) ∧
    (¬(p.Acceptable registry.dataset ∧ p.NamesFilled) →
      ∃ fault, p.check registry limits = .error fault ∧ ∀ dialect,
        ScopedPlan.compile ⟨true, p⟩ registry limits dialect = .error (.invalidPlan fault)) ∧
    ∀ (limits' : Limits) (p' : Plan), p.SameDemands p' → ∀ fault,
      p.check registry limits = .error fault ↔ p'.check registry limits' = .error fault := by
  have haccepts : (∃ q, p.check registry limits = .ok (.query q)) ↔
      p.Acceptable registry.dataset ∧ p.NamesFilled := exists_query_iff h
  refine ⟨haccepts, fun hnamed => ?_, fun hnot => ?_, fun limits' p' hsame fault => ?_⟩
  · rw [haccepts, and_iff_left_iff_imp]
    exact Acceptable.namesFilled hnamed
  · rw [← haccepts] at hnot
    obtain ⟨fault, hfault⟩ := (check_cases h).resolve_left hnot
    exact ⟨fault, hfault, compile_of_check_eq_error h hfault⟩
  · exact check_error_congr h hsame

/-- Finished tasks by status are counted, whatever else is said about them. Without a value that is not
blank the same filter makes the plan invalid. -/
theorem check_accepts_iff_for_states :
    let given : Plan.Filter :=
      { field := some "STATUS ", op := some " in", values := [" ", "DONE"], low := some "?" }
    let p : Plan := {
      dataset := some " task"
      measures := [{ agg := some "count", field := some "TASK_ID", label := some " " }]
      dimensions := [{ field := some "STATUS" }]
      filters := [given]
      orderBy := [{ field := some "STATUS", direction := some "Desc" }]
      limit := some (-3) }
    let blank : Plan := { p with filters := [{ given with values := [" "] }] }
    p.isClarification = false ∧ blank.isClarification = false ∧
      (∃ q, p.check .builtin .standard = .ok (.query q)) ∧
      ∃ fault, blank.check .builtin .standard = .error fault ∧ ∀ dialect,
        ScopedPlan.compile ⟨true, blank⟩ .builtin .standard dialect = .error (.invalidPlan fault) := by
  intro given p blank
  have hnamed : ∀ field ∈ Registry.builtin.dataset.fields, field.name ≠ "" := by decide
  have hgood : p.Acceptable .tasks := by decide
  have hbad : ¬blank.Acceptable .tasks := by decide
  refine ⟨rfl, rfl, ?_, ?_⟩
  · exact ((check_accepts_iff .builtin .standard (p := p) rfl).2.1 hnamed).mpr hgood
  · exact (check_accepts_iff .builtin .standard (p := blank) rfl).2.2.1 fun h => hbad h.1

/-- A dataset may declare a field without a name, but no plan can ask for it. -/
theorem check_blank_declared_field :
    let d : Dataset := {
      code := "D", table := "d", shortName := "t", softDelete := "t.deleted = 0"
      fields := [.plain "" "t.kind" .text, .plain "ID" "t.id" .integer]
      joins := [], scopedField := "ID", crossPersonFields := [], filterOps := [.eq] }
    let p : Plan := {
      dataset := some "D"
      dimensions := [{ field := some "" }]
      measures := [{ agg := some "COUNT", field := some "ID" }] }
    p.isClarification = false ∧ p.Acceptable d ∧
      p.check ⟨d⟩ .standard = .error (.blank .dimensionField) ∧
        ¬∃ q, p.check ⟨d⟩ .standard = .ok (.query q) := by
  intro d p
  have hcheck : p.check ⟨d⟩ .standard = .error (.blank .dimensionField) := by decide
  refine ⟨rfl, by decide, hcheck, ?_⟩
  rintro ⟨q, hq⟩
  rw [hcheck] at hq
  cases hq

end Plan

end ScopedQuery
