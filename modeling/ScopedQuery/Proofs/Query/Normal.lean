import ScopedQuery.Proofs.Query.Denoted
import ScopedQuery.Schema.Tasks
/-!
# Queries written back as plans

* `Query.plan` writes a query as a plan: names, labels and operands as they are, and words by their codes.
* `Plan.Denotes.again`: what a plan denotes is denoted again by the plan that writes it back, and so is each
  part of it.
* `Plan.check_plan`: so a query that comes of a checked plan is a normal form, which checking does not
  change.
-/

namespace ScopedQuery

open Text

/-! ### Writing a query back -/

namespace Query

def Dimension.plan (dim : Dimension) : Plan.Dimension := ⟨some dim.field, some dim.label⟩

def Measure.plan (m : Measure) : Plan.Measure := ⟨some m.agg.code, some m.field, some m.label⟩

/-- The operands stand where the operator looks for them. -/
def Filter.plan (f : Filter) : Plan.Filter :=
  let bare : Plan.Filter := { field := some f.field, op := some f.predicate.op.code }
  match f.predicate with
  | .compare _ value => { bare with value := some value }
  | .oneOf values => { bare with values }
  | .between low high => { bare with low := some low, high := some high }

def Order.plan (o : Order) : Plan.Order := ⟨some o.field, some o.direction.sql⟩

/-- The plan that writes a query back. -/
def plan (q : Query) : Plan where
  dataset := some q.dataset
  measures := q.measures.map Measure.plan
  dimensions := q.dimensions.map Dimension.plan
  filters := q.filters.map Filter.plan
  orderBy := q.orderBy.map Order.plan
  limit := some (Int64.ofNat q.limit.toNat)

end Query

/-! ### Limits -/

/-- A limit of a query is wanted if it is asked for. -/
theorem Limits.wanted_ofNat (limits : Limits) {n : UInt32} (h : 1 ≤ n.toNat) :
    limits.wanted (some (Int64.ofNat n.toNat)) = n.toNat := by
  have hbound := n.toNat_lt
  have hvalue : (Int64.ofNat n.toNat).toInt = n.toNat := Int64.toInt_ofNat_of_lt (by omega)
  have hpos : 0 < Int64.ofNat n.toNat := by
    rw [Int64.lt_iff_toInt_lt, hvalue, Int64.toInt_zero]
    omega
  rw [Limits.wanted, if_pos hpos, hvalue, Int.toNat_natCast]

/-! ### Words and names -/

theorem Aggregation.spells_code (agg : Aggregation) : Spells (some agg.code) agg.code := by
  cases agg <;> rfl

theorem FilterOp.spells_code (op : FilterOp) : Spells (some op.code) op.code := by
  cases op <;> rfl

theorem SortDirection.spells_sql (direction : SortDirection) :
    Spells (some direction.sql) direction.sql := by
  cases direction <;> rfl

theorem Dataset.Names.again {d : Dataset} {raw : Option String} {name : String} (h : d.Names raw name) :
    d.Names (some name) name :=
  ⟨h.tells.again, h.declared⟩

namespace Plan

variable {d : Dataset}

/-! ### Parts -/

theorem Dimension.Denotes.again {x : Dimension} {y : Query.Dimension} (h : x.Denotes d y) :
    y.plan.Denotes d y where
  field := h.field.again
  label := by
    rw [Query.Dimension.plan, h.label, displayName_displayName x.label h.field.tells.2]
  displayable := h.displayable

theorem Measure.Denotes.again {x : Measure} {y : Query.Measure} (h : x.Denotes d y) :
    y.plan.Denotes d y where
  agg := y.agg.spells_code
  field := h.field.again
  supported := h.supported
  label := by
    have hname : y.agg.code ++ "_" ++ y.field ≠ "" := measureName_ne_empty y.agg y.field
    rw [Query.Measure.plan, h.label, displayName_displayName x.label hname]
  displayable := h.displayable

/-- Operands that are trimmed and not blank are all given again. -/
theorem Filter.gives_plan {y : Query.Filter} (h : y.predicate.operands ≠ [] ∧
    ∀ operand ∈ y.predicate.operands, trim operand = operand ∧ operand ≠ "") :
    y.plan.Gives y.predicate := by
  obtain ⟨field, predicate⟩ := y
  obtain ⟨hne, hall⟩ := h
  cases predicate with
  | compare op value =>
    obtain ⟨htrim, hfilled⟩ := hall value List.mem_cons_self
    exact .compare op ⟨congrArg some htrim, hfilled⟩
  | between low high =>
    obtain ⟨hlow, hlowfilled⟩ := hall low List.mem_cons_self
    obtain ⟨hhigh, hhighfilled⟩ := hall high (List.mem_cons_of_mem low List.mem_cons_self)
    exact .between ⟨congrArg some hlow, hlowfilled⟩ ⟨congrArg some hhigh, hhighfilled⟩
  | oneOf values =>
    have hmap : values.map trim = values := by
      refine (List.map_congr_left fun value hvalue => (hall value hvalue).1).trans (List.map_id' _)
    have hfilter : values.filter (· ≠ "") = values := by
      rw [List.filter_eq_self]
      exact fun value hvalue => by simpa using (hall value hvalue).2
    have hsame : (values.map trim).filter (· ≠ "") = values := by
      rw [hmap, hfilter]
    have hgives := Filter.Gives.oneOf (x := Query.Filter.plan ⟨field, .oneOf values⟩) (hsame.symm ▸ hne)
    change Filter.Gives _ (.oneOf ((values.map trim).filter (· ≠ ""))) at hgives
    rwa [hsame] at hgives

theorem Filter.Denotes.again {x : Filter} {y : Query.Filter} (h : x.Denotes d y) :
    y.plan.Denotes d y where
  field := by
    obtain ⟨field, predicate⟩ := y
    cases predicate <;> exact h.field.again
  op := by
    obtain ⟨field, predicate⟩ := y
    cases predicate <;> exact FilterOp.spells_code _
  allowed := h.allowed
  gives := Filter.gives_plan h.operands
  operands := h.operands

theorem Order.Denotes.again {x : Order} {y : Query.Order} (h : x.Denotes d y) :
    y.plan.Denotes d y where
  field := h.field.again
  direction := y.direction.spells_sql

/-! ### Whole plans -/

/-- If each part is related to what it becomes, and is so again when that is written back, then so are all. -/
theorem forall₂_again {α β : Type} (R : α → β → Prop) {write : β → α}
    (hagain : ∀ x y, R x y → R (write y) y) {xs : List α} {ys : List β} (h : List.Forall₂ R xs ys) :
    List.Forall₂ R (ys.map write) ys := by
  rw [List.forall₂_map_left_iff, List.forall₂_same]
  intro y hy
  obtain ⟨x, -, hx⟩ := Steps.exists_origin h hy
  exact hagain x y hx

theorem Denotes.again {limits : Limits} {p : Plan} {q : Query} (h : p.Denotes d limits q) :
    q.plan.Denotes d limits q where
  dataset := h.dataset
  measured := h.measured
  dimensions := forall₂_again (Dimension.Denotes d) (fun _ _ => Dimension.Denotes.again) h.dimensions
  measures := forall₂_again (Measure.Denotes d) (fun _ _ => Measure.Denotes.again) h.measures
  filters := forall₂_again (Filter.Denotes d) (fun _ _ => Filter.Denotes.again) h.filters
  orderBy := forall₂_again (Order.Denotes d) (fun _ _ => Order.Denotes.again) h.orderBy
  limit := by
    have hlimited := h.limited
    rw [Query.plan, limits.wanted_ofNat hlimited.1]
    omega
  limited := h.limited
  sorted := h.sorted
  usedFields := h.usedFields

/-- A query that a plan is checked to is a normal form: the plan that writes it back is checked to the same
query. -/
theorem check_plan {registry : Registry} {limits : Limits} {p : Plan} {q : Query}
    (h : p.check registry limits = .ok (.query q)) : q.plan.check registry limits = .ok (.query q) := by
  obtain ⟨hfind, -, hchecked⟩ := check_eq_query.mp h
  have hdenotes := checked_iff_denotes.mp hchecked
  have hcode : registry.find? q.dataset = some registry.dataset := by
    rw [hdenotes.dataset]
    exact Registry.find?_code hfind
  refine check_eq_query.mpr ⟨?_, rfl, checked_iff_denotes.mpr hdenotes.again⟩
  rw [Query.plan, Option.getD_some, hcode]
  rfl

/-- A plan with blanks, odd case, a label to be cleaned, a blank operand and a limit beyond the cap. -/
theorem check_plan_of_states :
    let p : Plan := {
      dataset := some " task "
      dimensions := [⟨some " STATUS ", some " state/now "⟩]
      measures := [⟨some "count", some "TASK_ID", none⟩]
      filters := [{ field := some "STATUS", op := some " in", values := [" OPEN ", " ", "DONE"] },
        { field := some "TASK_ID", op := some "between", low := some " 1", high := some "9 " }]
      orderBy := [⟨some "STATUS", some " desc"⟩]
      limit := some 100000 }
    let q : Query := {
      dataset := "TASK"
      dimensions := [⟨"STATUS", "state_now"⟩]
      measures := [⟨.count, "TASK_ID", "COUNT_TASK_ID"⟩]
      filters := [⟨"STATUS", .oneOf ["OPEN", "DONE"]⟩, ⟨"TASK_ID", .between "1" "9"⟩]
      orderBy := [⟨"STATUS", .desc⟩]
      limit := 200
      usedFields := ["STATUS", "TASK_ID"] }
    p.check .builtin .standard = .ok (.query q) ∧ q.plan.limit = some 200 ∧
      q.plan.check .builtin .standard = .ok (.query q) := by
  intro p q
  have hcheck : p.check .builtin .standard = .ok (.query q) := by decide
  exact ⟨hcheck, by decide, check_plan hcheck⟩

end Plan

end ScopedQuery
