import ScopedQuery.Compiled
import ScopedQuery.Proofs.Caller.Persons
import ScopedQuery.Schema.Tasks
/-!
# Row scoping as a projection

What row scoping keeps of a plan of a plain user, and what it takes from the caller alone.

* `Scope.IsOn` says that a filter is on the scoped field, `Scope.others` lists the other filters, and
  `Scope.PinsFirst` says that the first equation on the scoped field names an id.
* `Scope.SameButScoped`: two plans differ at most in their filters on the scoped field.
* `Caller.scope_projects`: scoping changes nothing else, it leaves an equation that names the caller first,
  and to scope once more changes nothing, whatever is asked then.
* `Caller.compile_erases`: unless they name the caller, filters on the scoped field do not matter to what
  is compiled.
-/

namespace ScopedQuery

open Text

namespace Scope

/-! ### Filters on the scoped field -/

/-- The filter is on the scoped field: what its field tells is the name of that field. -/
def IsOn (d : Dataset) (f : Plan.Filter) : Prop := Tells f.field d.scopedField

instance (d : Dataset) (f : Plan.Filter) : Decidable (IsOn d f) :=
  inferInstanceAs (Decidable (Tells f.field d.scopedField))

/-- The filters that are not on the scoped field, in order. -/
def others (d : Dataset) (p : Plan) : List Plan.Filter := p.filters.filter fun f => ¬IsOn d f

/-- There is an equation on the scoped field, and the first one has the id for its operand. -/
def PinsFirst (d : Dataset) (id : String) (p : Plan) : Prop :=
  ∃ before f after, p.filters = before ++ f :: after ∧
    (∀ g ∈ before, ¬(IsOn d g ∧ Spells g.op "EQ")) ∧ (IsOn d f ∧ Spells f.op "EQ") ∧
      f.value.map trim = some id

/-- Two plans differ at most in their filters on the scoped field. -/
structure SameButScoped (d : Dataset) (p p' : Plan) : Prop where
  dataset : p.dataset = p'.dataset
  needClarification : p.needClarification = p'.needClarification
  clarifyingQuestion : p.clarifyingQuestion = p'.clarifyingQuestion
  measures : p.measures = p'.measures
  dimensions : p.dimensions = p'.dimensions
  others : others d p = others d p'
  orderBy : p.orderBy = p'.orderBy
  limit : p.limit = p'.limit

variable {d : Dataset} {p p' : Plan} {id : String}

theorem isScoped_iff {f : Plan.Filter} : isScoped d f = true ↔ IsOn d f := by
  rw [isScoped, beq_iff_eq, filled?_iff_tells, IsOn]

theorem others_eq (d : Dataset) (p : Plan) :
    others d p = p.filters.filter fun f => !isScoped d f := by
  refine List.filter_congr fun f _ => ?_
  rw [Bool.eq_iff_iff, decide_eq_true_iff, ← isScoped_iff, Bool.not_eq_true, Bool.not_eq_true']

/-- What decides is the first equation on the scoped field. -/
theorem isPinned_iff_pinsFirst (hid : id ≠ "") : isPinned d p id = true ↔ PinsFirst d id p := by
  simp only [isPinned_iff_first hid, isScoped_iff, isEquation_iff, PinsFirst]

/-! ### Pinned plans -/

/-- The filter that scoping puts in is on the scoped field if this has a name that can be told. -/
theorem isOn_eq (hneat : trim d.scopedField = d.scopedField) (hfilled : d.scopedField ≠ "") :
    IsOn d (.eq d.scopedField id) :=
  ⟨congrArg some hneat, hfilled⟩

/-- Pinning a plan keeps its other filters. -/
theorem others_pin (hneat : trim d.scopedField = d.scopedField) (hfilled : d.scopedField ≠ "") :
    others d (pin d p id) = others d p := by
  have hpinned : isScoped d (.eq d.scopedField id) = true := isScoped_iff.mpr (isOn_eq hneat hfilled)
  rw [others_eq, others_eq, pin, List.filter_append, List.filter_filter]
  simp [hpinned]

theorem sameButScoped_pin (hneat : trim d.scopedField = d.scopedField) (hfilled : d.scopedField ≠ "") :
    SameButScoped d p (pin d p id) :=
  ⟨rfl, rfl, rfl, rfl, rfl, (others_pin hneat hfilled).symm, rfl, rfl⟩

/-- In a pinned plan the filter that was put in is the first equation on the scoped field. -/
theorem pinsFirst_pin (hneat : trim d.scopedField = d.scopedField) (hfilled : d.scopedField ≠ "")
    (hid : trim id = id) : PinsFirst d id (pin d p id) := by
  refine ⟨others d p, .eq d.scopedField id, [], ?_, ?_, ⟨isOn_eq hneat hfilled, ?_⟩,
    congrArg some hid⟩
  · rw [others_eq, pin]
  · rintro g hg ⟨hon, -⟩
    have hoff := (List.mem_filter.mp hg).2
    exact of_decide_eq_true hoff hon
  · show Spells (some "EQ") "EQ"
    decide

/-- Plans that differ in filters on the scoped field only are pinned to the same plan. -/
theorem SameButScoped.pin_eq (h : SameButScoped d p p') (id : String) : pin d p id = pin d p' id := by
  obtain ⟨hdataset, hneed, hquestion, hmeasures, hdimensions, hothers, horder, hlimit⟩ := h
  rw [others_eq, others_eq] at hothers
  cases p
  cases p'
  simp_all [pin]

/-- Filters do not show whether several persons are asked about. -/
theorem SameButScoped.isCrossPerson_eq (h : SameButScoped d p p') (question : String) :
    isCrossPerson d question p = isCrossPerson d question p' := by
  rw [isCrossPerson, isCrossPerson, groupsByPerson, groupsByPerson, countsPersons, countsPersons,
    h.dimensions, h.measures]

end Scope

open Scope

/-! ### Scoping -/

theorem Caller.trim_idText (caller : Caller) : trim caller.idText = caller.idText :=
  trim_toString caller.id.toInt

theorem Caller.idText_ne_empty (caller : Caller) : caller.idText ≠ "" :=
  toString_ne_empty caller.id.toInt

/-- A plan that names the caller first is left as it is, whatever is asked. -/
theorem Caller.scope_of_pinsFirst {caller : Caller} {registry : Registry} {p : Plan}
    (hrole : caller.role ≠ .admin) (hid : 1 ≤ caller.id.toInt)
    (h : PinsFirst registry.dataset caller.idText p) (question : String) :
    caller.scope registry question p = .ok ⟨true, p⟩ := by
  rw [Caller.scope_eq hrole hid, if_pos ((isPinned_iff_pinsFirst caller.idText_ne_empty).mpr h)]

/-- Plans that do not name the caller first are scoped alike if they differ in filters on the scoped
field only. -/
theorem Caller.scope_congr {caller : Caller} {registry : Registry} {p p' : Plan}
    (hrole : caller.role ≠ .admin) (h : SameButScoped registry.dataset p p')
    (hp : ¬PinsFirst registry.dataset caller.idText p)
    (hp' : ¬PinsFirst registry.dataset caller.idText p') (question : String) :
    caller.scope registry question p = caller.scope registry question p' := by
  rw [← isPinned_iff_pinsFirst caller.idText_ne_empty] at hp hp'
  by_cases hid : 1 ≤ caller.id.toInt
  · rw [Caller.scope_eq hrole hid, Caller.scope_eq hrole hid, if_neg hp, if_neg hp',
      h.isCrossPerson_eq, h.pin_eq, h.dataset]
  · rw [Caller.scope_of_not_positive hrole hid, Caller.scope_of_not_positive hrole hid]

/-- What a plain user may run of a plan differs from it at most in filters on the scoped field. The first
equation on this field names the user, and to scope the result again changes nothing, whatever is asked
then. -/
theorem Caller.scope_projects {caller : Caller} {registry : Registry} {question : String} {p plan : Plan}
    (hneat : trim registry.dataset.scopedField = registry.dataset.scopedField)
    (hfilled : registry.dataset.scopedField ≠ "") (hrole : caller.role ≠ .admin)
    (h : caller.scope registry question p = .ok ⟨true, plan⟩) :
    SameButScoped registry.dataset p plan ∧ PinsFirst registry.dataset caller.idText plan ∧
      ∀ question', caller.scope registry question' plan = .ok ⟨true, plan⟩ := by
  have hid := Caller.one_le_of_scope hrole h
  rw [Caller.scope_eq hrole hid] at h
  obtain ⟨hsame, hpins⟩ : SameButScoped registry.dataset p plan ∧
      PinsFirst registry.dataset caller.idText plan := by
    split at h
    · next hpinned =>
      cases h
      exact ⟨⟨rfl, rfl, rfl, rfl, rfl, rfl, rfl, rfl⟩,
        (isPinned_iff_pinsFirst caller.idText_ne_empty).mp hpinned⟩
    · split at h
      · cases h
      · cases h
        exact ⟨sameButScoped_pin hneat hfilled, pinsFirst_pin hneat hfilled caller.trim_idText⟩
  exact ⟨hsame, hpins, Caller.scope_of_pinsFirst hrole hid hpins⟩

/-- The plan of amy, who asks for tasks of another person, is pinned to her own. It stays what it is when
she asks about everyone. -/
theorem Caller.scope_projects_for_42 :
    let amy : Caller := ⟨42, "amy", .user⟩
    let p : Plan := {
      dataset := some "TASK"
      measures := [{ agg := some "COUNT", field := some "TASK_ID" }]
      filters := [.eq "ASSIGNEE_ID" "7", .eq "STATUS" "DONE", .oneOf " ASSIGNEE_ID " ["7", "8"]] }
    let plan : Plan := { p with filters := [.eq "STATUS" "DONE", .eq "ASSIGNEE_ID" "42"] }
    amy.scope .builtin "What has he done?" p = .ok ⟨true, plan⟩ ∧
      SameButScoped .tasks p plan ∧ PinsFirst .tasks amy.idText plan ∧
        amy.scope .builtin "And everyone?" plan = .ok ⟨true, plan⟩ := by
  intro amy p plan
  have hscope : amy.scope .builtin "What has he done?" p = .ok ⟨true, plan⟩ := by decide +kernel
  have hneat : trim Registry.builtin.dataset.scopedField = Registry.builtin.dataset.scopedField := by
    decide
  obtain ⟨hsame, hpins, hagain⟩ := Caller.scope_projects hneat (by decide) (by decide) hscope
  exact ⟨hscope, hsame, hpins, hagain _⟩

/-- Filters on the scoped field, unless the first equation among them names the caller, do not matter to
what a plain user may run of a plan, nor to what is compiled for the user. -/
theorem Caller.compile_erases {caller : Caller} {registry : Registry} {p p' : Plan}
    (hrole : caller.role ≠ .admin) (h : SameButScoped registry.dataset p p')
    (hp : ¬PinsFirst registry.dataset caller.idText p)
    (hp' : ¬PinsFirst registry.dataset caller.idText p') (question : String) :
    caller.scope registry question p = caller.scope registry question p' ∧
      ∀ limits dialect, caller.compile registry limits dialect question p =
        caller.compile registry limits dialect question p' := by
  have hscope := Caller.scope_congr hrole h hp hp' question
  refine ⟨hscope, fun limits dialect => ?_⟩
  rw [Caller.compile, Caller.compile, hscope]

/-- Whether amy asks for the tasks of one other person or of two, and not for her own, the tasks that are
counted are hers. -/
theorem Caller.compile_erases_for_42 :
    let amy : Caller := ⟨42, "amy", .user⟩
    let count (filters : List Plan.Filter) : Plan := {
      dataset := some "TASK"
      measures := [{ agg := some "COUNT", field := some "TASK_ID" }]
      filters }
    let ofOne := count [.eq "ASSIGNEE_ID" "7", .eq "STATUS" "DONE"]
    let ofTwo := count [.eq "STATUS" "DONE", .oneOf " ASSIGNEE_ID " ["7", "8"],
      { field := some "ASSIGNEE_ID", op := some "NE", value := some "42" }]
    let own := count [.eq "STATUS" "DONE", .eq "ASSIGNEE_ID" "42"]
    amy.scope .builtin "What is done?" ofOne = .ok ⟨true, own⟩ ∧
      amy.scope .builtin "What is done?" ofTwo = .ok ⟨true, own⟩ ∧
        ∀ limits dialect, amy.compile .builtin limits dialect "What is done?" ofOne =
          amy.compile .builtin limits dialect "What is done?" ofTwo := by
  intro amy count ofOne ofTwo own
  have hsame : SameButScoped .tasks ofOne ofTwo := ⟨rfl, rfl, rfl, rfl, rfl, by decide, rfl, rfl⟩
  have hone : ¬PinsFirst .tasks amy.idText ofOne := by
    rw [← isPinned_iff_pinsFirst amy.idText_ne_empty]
    decide
  have htwo : ¬PinsFirst .tasks amy.idText ofTwo := by
    rw [← isPinned_iff_pinsFirst amy.idText_ne_empty]
    decide
  have herases := @Caller.compile_erases amy .builtin ofOne ofTwo (by decide) hsame hone htwo
    "What is done?"
  have hscope : amy.scope .builtin "What is done?" ofOne = .ok ⟨true, own⟩ := by decide
  exact ⟨hscope, herases.1 ▸ hscope, herases.2⟩

end ScopedQuery
