import Mathlib.Tactic.Common
import ScopedQuery.Proofs.Query.Acceptable
import ScopedQuery.Proofs.Query.Faults
/-!
# The first offence

* `Plan.Entry` is an element of one of the lists of a plan, without its label; `Plan.entries p l` is a list
  of such elements.
* `Plan.OffendsAt registry p l i fault`: the first thing wrong with a plan is the element at place `i` of the
  list `l`. `Plan.TurnedAway registry p fault`: the plan is at fault before its lists are looked at.
* `Plan.AgreesUpTo p' p l i`: a plan starts as another one does, up to that place.
* `Plan.check_first_offence`: the first thing wrong with a plan is the reason why it is turned down, whatever
  stands behind it.
-/

namespace ScopedQuery

open Steps

/-- The number of lists that are checked before this one. -/
def PlanList.rank : PlanList → Nat
  | dimensions => 0
  | measures => 1
  | filters => 2
  | orderBy => 3

namespace Plan

/-! ### Elements without labels -/

/-- An element of a list of a plan, without its label. -/
inductive Entry
  | dimension (field : Option String)
  | measure (agg field : Option String)
  | filter (f : Filter)
  | order (o : Order)
deriving DecidableEq

/-- Whether an element passes its check, and if not the fault that is found. -/
def Entry.check (d : Dataset) : Entry → Except PlanFault Unit
  | dimension field => do
    let _ ← Dimension.check d { field }
  | measure agg field => do
    let _ ← Measure.check d { agg, field }
  | filter f => do
    let _ ← Filter.check d f
  | order o => do
    let _ ← Order.check d o

/-- The elements of a list of the plan. -/
def entries (p : Plan) : PlanList → List Entry
  | .dimensions => p.dimensions.map fun x => .dimension x.field
  | .measures => p.measures.map fun x => .measure x.agg x.field
  | .filters => p.filters.map .filter
  | .orderBy => p.orderBy.map .order

/-! ### Offences -/

/-- The first element at fault of a list of elements is the one at place `i`. -/
structure FailsAt (d : Dataset) (es : List Entry) (i : Nat) (fault : PlanFault) : Prop where
  before : ∀ e ∈ es.take i, e.check d = .ok ()
  fails : ∃ e, es[i]? = some e ∧ e.check d = .error fault

/-- The dataset is known, the plan is for a query, and it measures something. -/
structure Listed (registry : Registry) (p : Plan) : Prop where
  found : (registry.find? (p.dataset.getD "")).isSome
  plain : p.isClarification = false
  measured : p.measures ≠ []

/-- The first thing wrong with the plan is the element at place `i` of the list. -/
structure OffendsAt (registry : Registry) (p : Plan) (l : PlanList) (i : Nat) (fault : PlanFault) : Prop where
  listed : p.Listed registry
  earlier : ∀ l' : PlanList, l'.rank < l.rank → ∀ e ∈ p.entries l', e.check registry.dataset = .ok ()
  fails : FailsAt registry.dataset (p.entries l) i fault

/-- The plan is at fault before its lists are looked at. -/
inductive TurnedAway (registry : Registry) (p : Plan) : PlanFault → Prop
  | dataset (unknown : registry.find? (p.dataset.getD "") = none) :
      TurnedAway registry p (.unsupportedDataset (p.dataset.getD ""))
  | question (found : (registry.find? (p.dataset.getD "")).isSome) (asks : p.isClarification = true)
      (blank : Text.filled? p.clarifyingQuestion = none) : TurnedAway registry p .noClarifyingQuestion
  | measures (found : (registry.find? (p.dataset.getD "")).isSome) (plain : p.isClarification = false)
      (unmeasured : p.measures = []) : TurnedAway registry p .noMeasures

/-- A plan for the same dataset, with or without a query, has the same elements up to place `i` of the
list. Nothing is said of the rest, but that it measures something. -/
structure AgreesUpTo (p' p : Plan) (l : PlanList) (i : Nat) : Prop where
  dataset : p'.dataset = p.dataset
  isClarification : p'.isClarification = p.isClarification
  measured : p'.measures ≠ []
  earlier : ∀ l' : PlanList, l'.rank < l.rank → p'.entries l' = p.entries l'
  upTo : (p'.entries l).take (i + 1) = (p.entries l).take (i + 1)

/-! ### One list -/

section

variable {α β : Type} {d : Dataset} {f : α → Except PlanFault β} {entry : α → Entry}
  (hentry : ∀ x, (entry x).check d = (f x >>= fun _ => .ok ()))

include hentry

/-- An element passes its check just if the check of the plan comes to a result. -/
theorem check_entry_eq_ok (x : α) : (entry x).check d = .ok () ↔ ∃ y, f x = .ok y := by
  rw [hentry, bind_eq_ok]
  exact exists_congr fun y => and_iff_left rfl

theorem check_entry_eq_error (x : α) {fault : PlanFault} :
    (entry x).check d = .error fault ↔ f x = .error fault := by
  rw [hentry, bind_eq_error]
  refine or_iff_left ?_
  rintro ⟨_, _, ⟨⟩⟩

theorem exists_mapM_iff (xs : List α) :
    (∃ ys, xs.mapM f = .ok ys) ↔ ∀ e ∈ xs.map entry, e.check d = .ok () := by
  simp only [List.forall_mem_map, check_entry_eq_ok hentry]
  constructor
  · rintro ⟨ys, hys⟩ x hx
    obtain ⟨i, hi⟩ := List.mem_iff_getElem?.mp hx
    obtain ⟨y, -, hy⟩ := exists_partner (mapM_eq_ok.mp hys) hi
    exact ⟨y, hy⟩
  · exact exists_mapM_eq_ok

theorem mapM_eq_error_iff (xs : List α) {fault : PlanFault} :
    xs.mapM f = .error fault ↔ ∃ i, FailsAt d (xs.map entry) i fault := by
  rw [mapM_eq_error]
  constructor
  · rintro ⟨before, x, after, rfl, hbefore, hx⟩
    refine ⟨before.length, ?_, entry x, by simp, (check_entry_eq_error hentry x).mpr hx⟩
    rw [List.map_append, List.take_append_of_le_length (by simp), List.take_of_length_le (by simp),
      List.forall_mem_map]
    exact fun z hz => (check_entry_eq_ok hentry z).mpr (hbefore z hz)
  · rintro ⟨i, hbefore, e, he, hfails⟩
    rw [List.getElem?_map, Option.map_eq_some_iff] at he
    obtain ⟨x, hx, rfl⟩ := he
    obtain ⟨hi, hget⟩ := List.getElem?_eq_some_iff.mp hx
    refine ⟨xs.take i, x, xs.drop (i + 1), ?_, ?_, (check_entry_eq_error hentry x).mp hfails⟩
    · rw [← hget, List.getElem_cons_drop, List.take_append_drop]
    · rw [← List.map_take, List.forall_mem_map] at hbefore
      exact fun z hz => (check_entry_eq_ok hentry z).mp (hbefore z hz)

end

theorem Entry.check_dimension (d : Dataset) (x : Dimension) :
    Entry.check d (.dimension x.field) = (Dimension.check d x >>= fun _ => .ok ()) := by
  have halike : Alike (Dimension.check d { field := x.field }) (Dimension.check d x) :=
    Dimension.check_alike rfl
  exact (halike.bind fun _ _ _ => .ok rfl).eq

theorem Entry.check_measure (d : Dataset) (x : Measure) :
    Entry.check d (.measure x.agg x.field) = (Measure.check d x >>= fun _ => .ok ()) := by
  have halike : Alike (Measure.check d { agg := x.agg, field := x.field }) (Measure.check d x) :=
    Measure.check_alike ⟨rfl, rfl⟩
  exact (halike.bind fun _ _ _ => .ok rfl).eq

/-- A fault of an element is about the list that it stands in. -/
theorem list?_of_entries {d : Dataset} {p : Plan} {l : PlanList} {e : Entry} {fault : PlanFault}
    (hmem : e ∈ p.entries l) (h : e.check d = .error fault) : fault.list? = some l := by
  have hstep : ∀ {α : Type} {x : Except PlanFault α}, ChecksList l x →
      (x >>= fun _ => Except.ok ()) = .error fault → fault.list? = some l := by
    intro α x hx hfails
    exact hx.bind (fun _ => .ok ()) fault hfails
  cases l with
  | dimensions =>
    obtain ⟨x, -, rfl⟩ := List.mem_map.mp hmem
    exact hstep (Dimension.check_failsOnly d _) h
  | measures =>
    obtain ⟨x, -, rfl⟩ := List.mem_map.mp hmem
    exact hstep (Measure.check_failsOnly d _) h
  | filters =>
    obtain ⟨x, -, rfl⟩ := List.mem_map.mp hmem
    exact hstep (Filter.check_failsOnly d x) h
  | orderBy =>
    obtain ⟨x, -, rfl⟩ := List.mem_map.mp hmem
    exact hstep (Order.check_failsOnly d x) h

/-! ### All lists -/

/-- Lists are checked one after the other, and what is found first is the answer. -/
theorem checkParts_eq_error {d : Dataset} {limits : Limits} {p : Plan} {fault : PlanFault}
    (hmeasured : p.measures ≠ []) :
    p.checkParts d limits = .error fault ↔
      ∃ (l : PlanList) (i : Nat),
        (∀ l' : PlanList, l'.rank < l.rank → ∀ e ∈ p.entries l', e.check d = .ok ()) ∧
          FailsAt d (p.entries l) i fault := by
  have hempty : ¬p.measures.isEmpty = true := by
    rw [List.isEmpty_iff]
    exact hmeasured
  have hfilter : ∀ x, Entry.check d (.filter x) = (Filter.check d x >>= fun _ => .ok ()) := fun _ => rfl
  have horder : ∀ x, Entry.check d (.order x) = (Order.check d x >>= fun _ => .ok ()) := fun _ => rfl
  have hdims := exists_mapM_iff (Entry.check_dimension d) p.dimensions
  have hms := exists_mapM_iff (Entry.check_measure d) p.measures
  have hfs := exists_mapM_iff hfilter p.filters
  simp only [checkParts, if_neg hempty, bind_eq_error, mapM_eq_error_iff (Entry.check_dimension d),
    mapM_eq_error_iff (Entry.check_measure d), mapM_eq_error_iff hfilter, mapM_eq_error_iff horder]
  constructor
  · rintro (⟨i, hi⟩ | ⟨dims, hdims', ⟨i, hi⟩ | ⟨ms, hms', ⟨i, hi⟩ | ⟨fs, hfs', ⟨i, hi⟩ | ⟨os, -, ⟨⟩⟩⟩⟩⟩)
    · refine ⟨.dimensions, i, fun l' hl' => ?_, hi⟩
      exact absurd hl' (Nat.not_lt_zero _)
    · refine ⟨.measures, i, fun l' hl' => ?_, hi⟩
      cases l' with
      | dimensions => exact hdims.mp ⟨dims, hdims'⟩
      | _ => exact absurd hl' (by decide)
    · refine ⟨.filters, i, fun l' hl' => ?_, hi⟩
      cases l' with
      | dimensions => exact hdims.mp ⟨dims, hdims'⟩
      | measures => exact hms.mp ⟨ms, hms'⟩
      | _ => exact absurd hl' (by decide)
    · refine ⟨.orderBy, i, fun l' hl' => ?_, hi⟩
      cases l' with
      | dimensions => exact hdims.mp ⟨dims, hdims'⟩
      | measures => exact hms.mp ⟨ms, hms'⟩
      | filters => exact hfs.mp ⟨fs, hfs'⟩
      | orderBy => exact absurd hl' (by decide)
  · rintro ⟨l, i, hearlier, hi⟩
    cases l with
    | dimensions => exact .inl ⟨i, hi⟩
    | measures =>
      obtain ⟨dims, hdims'⟩ := hdims.mpr (hearlier .dimensions (by decide))
      exact .inr ⟨dims, hdims', .inl ⟨i, hi⟩⟩
    | filters =>
      obtain ⟨dims, hdims'⟩ := hdims.mpr (hearlier .dimensions (by decide))
      obtain ⟨ms, hms'⟩ := hms.mpr (hearlier .measures (by decide))
      exact .inr ⟨dims, hdims', .inr ⟨ms, hms', .inl ⟨i, hi⟩⟩⟩
    | orderBy =>
      obtain ⟨dims, hdims'⟩ := hdims.mpr (hearlier .dimensions (by decide))
      obtain ⟨ms, hms'⟩ := hms.mpr (hearlier .measures (by decide))
      obtain ⟨fs, hfs'⟩ := hfs.mpr (hearlier .filters (by decide))
      exact .inr ⟨dims, hdims', .inr ⟨ms, hms', .inr ⟨fs, hfs', .inl ⟨i, hi⟩⟩⟩⟩

section

variable {registry : Registry} {limits : Limits} {p : Plan}

theorem check_of_unknown (h : registry.find? (p.dataset.getD "") = none) :
    p.check registry limits = .error (.unsupportedDataset (p.dataset.getD "")) := by
  simp only [check, h]
  rfl

section

variable (hfound : (registry.find? (p.dataset.getD "")).isSome)

include hfound

/-- A plan that asks a question back needs one. -/
theorem check_of_asking (hasks : p.isClarification = true) {fault : PlanFault} :
    p.check registry limits = .error fault ↔
      Text.filled? p.clarifyingQuestion = none ∧ fault = .noClarifyingQuestion := by
  obtain ⟨d, hd⟩ := Option.isSome_iff_exists.mp hfound
  simp only [check, hd, hasks, if_true]
  cases Text.filled? p.clarifyingQuestion with
  | none => simp [throw, throwThe, MonadExceptOf.throw, eq_comm]
  | some question => simp [pure, Except.pure]

theorem check_of_plain (hplain : p.isClarification = false) {fault : PlanFault} :
    p.check registry limits = .error fault ↔ p.checkParts registry.dataset limits = .error fault := by
  obtain ⟨d, hd⟩ := Option.isSome_iff_exists.mp hfound
  obtain ⟨rfl, -⟩ := Registry.find?_eq_some.mp hd
  simp only [check, hd, hplain, Bool.false_eq_true, if_false, bind_eq_error]
  refine or_iff_left ?_
  rintro ⟨_, _, ⟨⟩⟩

end

/-- A plan is turned down before its lists are looked at, or for the first element of them at fault. -/
theorem check_eq_error {fault : PlanFault} :
    p.check registry limits = .error fault ↔
      p.TurnedAway registry fault ∨ ∃ l i, p.OffendsAt registry l i fault := by
  have hunmeasured : p.measures = [] → p.checkParts registry.dataset limits = .error .noMeasures := by
    intro hempty
    rw [checkParts, hempty]
    rfl
  constructor
  · intro h
    cases hfind : registry.find? (p.dataset.getD "") with
    | none =>
      rw [check_of_unknown hfind] at h
      obtain rfl := Except.error.inj h
      exact .inl (.dataset hfind)
    | some d =>
      have hfound : (registry.find? (p.dataset.getD "")).isSome := by rw [hfind]; rfl
      cases hasks : p.isClarification with
      | true =>
        obtain ⟨hblank, rfl⟩ := (check_of_asking hfound hasks).mp h
        exact .inl (.question hfound hasks hblank)
      | false =>
        have hparts := (check_of_plain hfound hasks).mp h
        by_cases hmeasured : p.measures = []
        · rw [hunmeasured hmeasured] at hparts
          obtain rfl := Except.error.inj hparts
          exact .inl (.measures hfound hasks hmeasured)
        · obtain ⟨l, i, hearlier, hfails⟩ := (checkParts_eq_error hmeasured).mp hparts
          exact .inr ⟨l, i, ⟨hfound, hasks, hmeasured⟩, hearlier, hfails⟩
  · rintro (hturned | ⟨l, i, ⟨hfound, hplain, hmeasured⟩, hearlier, hfails⟩)
    · cases hturned with
      | dataset hunknown => exact check_of_unknown hunknown
      | question hfound hasks hblank => exact (check_of_asking hfound hasks).mpr ⟨hblank, rfl⟩
      | measures hfound hplain hempty => exact (check_of_plain hfound hplain).mpr (hunmeasured hempty)
    · exact (check_of_plain hfound hplain).mpr
        ((checkParts_eq_error hmeasured).mpr ⟨l, i, hearlier, hfails⟩)

end

/-- A plan that starts as another one does has the same first offence. -/
theorem OffendsAt.of_agreesUpTo {registry : Registry} {p p' : Plan} {l : PlanList} {i : Nat}
    {fault : PlanFault} (h : p.OffendsAt registry l i fault) (hagrees : p'.AgreesUpTo p l i) :
    p'.OffendsAt registry l i fault := by
  obtain ⟨⟨hfound, hplain, -⟩, hearlier, hbefore, e, he, hfails⟩ := h
  have htake : ∀ es : List Entry, es.take i = (es.take (i + 1)).take i := by
    intro es
    rw [List.take_take, Nat.min_eq_left (Nat.le_succ i)]
  have hget : ∀ es : List Entry, es[i]? = (es.take (i + 1))[i]? := by
    intro es
    rw [List.getElem?_take_of_lt (Nat.lt_succ_self i)]
  refine ⟨⟨?_, ?_, hagrees.measured⟩, fun l' hl' => ?_, ?_, e, ?_, hfails⟩
  · rw [hagrees.dataset]
    exact hfound
  · rw [hagrees.isClarification]
    exact hplain
  · rw [hagrees.earlier l' hl']
    exact hearlier l' hl'
  · rw [htake, hagrees.upTo, ← htake]
    exact hbefore
  · rw [hget, hagrees.upTo, ← hget]
    exact he

/-- The first thing wrong with a plan is the reason why it is turned down. If that is an element of a list,
the reason names the list, and it is the same for each plan that starts alike, whatever follows. -/
theorem check_first_offence (registry : Registry) (p : Plan) :
    (∀ limits fault, p.check registry limits = .error fault ↔
      p.TurnedAway registry fault ∨ ∃ l i, p.OffendsAt registry l i fault) ∧
    ∀ l i fault, p.OffendsAt registry l i fault →
      (∃ rest, fault.message = l.name ++ rest) ∧
        ∀ limits p', p'.AgreesUpTo p l i → p'.check registry limits = .error fault ∧ ∀ dialect,
          ScopedPlan.compile ⟨true, p'⟩ registry limits dialect = .error (.invalidPlan fault) := by
  refine ⟨fun limits fault => check_eq_error, fun l i fault hoffends => ⟨?_, fun limits p' hagrees => ?_⟩⟩
  · obtain ⟨e, he, hfails⟩ := hoffends.fails.fails
    exact PlanFault.exists_message_eq (list?_of_entries (List.mem_of_getElem? he) hfails)
  · have hoffends' := hoffends.of_agreesUpTo hagrees
    have hcheck : p'.check registry limits = .error fault := check_eq_error.mpr (.inr ⟨l, i, hoffends'⟩)
    exact ⟨hcheck, compile_of_check_eq_error hoffends'.listed.plain hcheck⟩

/-- Statuses cannot be summed up, whatever else is wrong with the plan. -/
theorem check_first_offence_of_sum :
    let status : Dimension := { field := some "STATUS" }
    let counted : Measure := { agg := some "COUNT", field := some "TASK_ID" }
    let summed : Measure := { agg := some "sum", field := some "STATUS" }
    let p : Plan := {
      dataset := some "task", dimensions := [status], measures := [counted, summed, {}], filters := [{}] }
    let p' : Plan := {
      dataset := some "task", needClarification := some false, limit := some (-1)
      dimensions := [{ status with label := some "State" }]
      measures := [counted, { summed with label := some "Total" }]
      orderBy := [{ field := some "BUDGET" }] }
    let fault : PlanFault := .notNumeric .sum Dataset.tasks.numericFields
    p.OffendsAt .builtin .measures 1 fault ∧ p'.AgreesUpTo p .measures 1 ∧
      p.check .builtin .standard = .error fault ∧ p'.check .builtin ⟨0, 0⟩ = .error fault := by
  intro status counted summed p p' fault
  have hoffends : p.OffendsAt .builtin .measures 1 fault := by
    refine ⟨⟨by decide, rfl, by decide⟩, fun l' hl' => ?_, by decide, .measure (some "sum")
      (some "STATUS"), rfl, by decide +kernel⟩
    cases l' with
    | dimensions => decide +kernel
    | _ => exact absurd hl' (by decide)
  have hagrees : p'.AgreesUpTo p .measures 1 := by
    refine ⟨rfl, rfl, by decide, fun l' hl' => ?_, rfl⟩
    cases l' with
    | dimensions => rfl
    | _ => exact absurd hl' (by decide)
  obtain ⟨hcheck, hfollows⟩ := check_first_offence .builtin p
  exact ⟨hoffends, hagrees, (hcheck _ _).mpr (.inr ⟨_, _, hoffends⟩),
    ((hfollows _ _ _ hoffends).2 _ _ hagrees).1⟩

end Plan

end ScopedQuery
