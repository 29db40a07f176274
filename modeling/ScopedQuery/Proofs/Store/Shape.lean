import ScopedQuery.Proofs.Bound.Selected
import ScopedQuery.Proofs.Decimal.Written
import ScopedQuery.Proofs.Store.Alongside
/-!
# The shape of records

* `Selection.width_run` and `Selection.length_run`: the records of a selection are as wide as its list of
  items, and no more than its limit.
* `Yields P f`: whatever a step of resolution comes to has a property.
* `shape_of_ofQuery`: the selection that a store makes of a text has an output for each of its items, and its
  limit.
-/

namespace ScopedQuery

open Sql Store Steps

namespace Store

/-! ### Records -/

namespace Selection

variable {s : Selection} {occasion : Occasion}

theorem width_record {rows : List Joined} {keys cells : List Cell}
    (h : s.record occasion rows = .ok (keys, cells)) : cells.length = s.items.length := by
  simp only [record, bind_eq_ok, mapM_eq_ok, pure_eq_ok] at h
  obtain ⟨cells', hcells, keys', -, heq⟩ := h
  obtain ⟨-, rfl⟩ := Prod.mk.inj heq
  exact hcells.length_eq.symm

theorem mem_of_mem_limited {rows : List Row} {row : Row} (h : row ∈ s.limited rows) : row ∈ rows := by
  unfold limited at h
  split at h
  · exact List.mem_of_mem_take h
  · exact h

/-- Each record has a cell for each item. -/
theorem width_run {rows : List Row} (h : s.run occasion = .ok rows) :
    ∀ row ∈ rows, row.length = s.items.length := by
  simp only [run, bind_eq_ok, pure_eq_ok, records, mapM_eq_ok] at h
  obtain ⟨records, hrecords, rfl⟩ := h
  intro row hrow
  obtain ⟨⟨keys, cells⟩, hmem, rfl⟩ := List.mem_map.mp (mem_of_mem_limited hrow)
  have hrecord : (keys, cells) ∈ records := List.mem_mergeSort.mp hmem
  obtain ⟨group, -, hgroup⟩ := exists_origin hrecords hrecord
  exact width_record hgroup

/-- There are no more records than the limit says. -/
theorem length_run {rows : List Row} {n : Nat} (h : s.run occasion = .ok rows)
    (hlimit : s.limit = some n) : rows.length ≤ n := by
  simp only [run, bind_eq_ok, pure_eq_ok] at h
  obtain ⟨records, -, rfl⟩ := h
  rw [limited, hlimit]
  exact List.length_take_le n _

end Selection

/-! ### Resolution -/

/-- Whatever a step of resolution comes to has a property. -/
def Yields {α : Type} (P : α → Prop) (f : Resolving α) : Prop := ∀ n a m, f n = .ok (a, m) → P a

namespace Yields

variable {α β : Type} {P : α → Prop} {Q : β → Prop}

theorem pure {a : α} (h : P a) : Yields P (pure a) := by
  intro n b m heq
  cases heq
  exact h

theorem bind {f : Resolving α} {g : α → Resolving β} (hf : Yields P f) (hg : ∀ a, P a → Yields Q (g a)) :
    Yields Q (f >>= g) := by
  intro n b m heq
  rw [resolving_bind, bind_eq_ok] at heq
  obtain ⟨⟨a, n'⟩, ha, hb⟩ := heq
  exact hg a (hf n a n' ha) n' b m hb

/-- A list is resolved element by element. -/
theorem mapM {f : α → Resolving β} (hf : ∀ a, Yields Q (f a)) (xs : List α) :
    Yields (fun ys => ys.length = xs.length ∧ ∀ y ∈ ys, Q y) (xs.mapM f) := by
  induction xs with
  | nil => exact pure ⟨rfl, List.forall_mem_nil _⟩
  | cons x xs ih =>
    rw [List.mapM_cons]
    refine (hf x).bind fun y hy => ih.bind fun ys hys => pure ⟨?_, ?_⟩
    · rw [List.length_cons, List.length_cons, hys.1]
    · exact List.forall_mem_cons.mpr ⟨hy, hys.2⟩

end Yields

/-- A named item is one output. -/
theorem yields_item (sources : Sources) (label : Ident) (e : Expr) :
    Yields (fun outputs => outputs.length = 1) (NamedOutput.ofItem sources (.expr (some label) e)) := by
  have hany : Yields (fun _ => True) (Output.ofExpr sources e) := fun _ _ _ _ => trivial
  exact hany.bind fun output _ => .pure rfl

/-- The selection of a text has an output for each of its items, and its limit. -/
theorem shape_of_resolve {x : SelectText} {sources : Sources} {a : Selection} {k n : Nat}
    (h : SelectText.resolve x sources k = .ok (a, n)) :
    a.items.length = x.items.length ∧ limitOf (some (.literal (.number x.limit false))) = .ok a.limit := by
  simp only [SelectText.resolve, Selection.ofParts, resolving_bind, Steps.bind_eq_ok] at h
  obtain ⟨⟨outputs, l⟩, houtputs, ⟨joined, _⟩, -, ⟨test, _⟩, -, ⟨groups, _⟩, -, ⟨keys, _⟩, -, h⟩ := h
  have hitems : outputs.flatten.length = x.items.length := by
    rw [List.mapM_map] at houtputs
    obtain ⟨hlength, hones⟩ := Yields.mapM (fun item => yields_item sources _ _) _ _ _ _ houtputs
    rw [List.length_zipIdx] at hlength
    rw [List.length_flatten, List.map_eq_replicate_iff.mpr hones, List.sum_replicate_nat, Nat.mul_one, hlength]
  cases hlimit : limitOf (some (.literal (.number x.limit false))) with
  | error fault =>
    rw [hlimit] at h
    cases h
  | ok bound =>
    rw [hlimit] at h
    cases h
    exact ⟨hitems, rfl⟩

/-- The selection that a store makes of a text has an output for each of its items, and its limit. -/
theorem shape_of_ofQuery {s : Store} {x : SelectText} {a : Selection} {n : Nat}
    (h : Selection.ofQuery s x.query = .ok (a, n)) :
    a.items.length = x.items.length ∧ limitOf (some (.literal (.number x.limit false))) = .ok a.limit := by
  rw [Selection.ofQuery_eq] at h
  simp only [Steps.bind_eq_ok] at h
  obtain ⟨sources, -, hresolve⟩ := h
  exact shape_of_resolve hresolve

theorem limitOf_toString (n : Nat) : limitOf (some (.literal (.number (toString n) false))) = .ok (some n) := by
  rw [limitOf, Nat.toString_eq_repr, Nat.toList_repr, Decimal.digits?_toDigits]

end Store

/-- There is an item for each column of the query. -/
theorem Query.Selects.length_items {q : Query} {d : Dataset} {dialect : Dialect} {r : DatasetText}
    {value : ExprText} {x : SelectText} (h : q.Selects d dialect r value x) :
    x.items.length = q.columns.length := by
  obtain ⟨calls, hitems, hcalls⟩ := h.items
  rw [hitems, Query.columns, List.length_append, List.length_append, List.length_map, List.length_map,
    h.groupBy.length_eq, hcalls.length_eq]

end ScopedQuery
