import ScopedQuery.Bound.Param
import ScopedQuery.Proofs.Decimal.Written
import ScopedQuery.Proofs.Steps
/-!
# Operands of a type

* `ValueType.Reads` says which texts stand for values of a type.
* `Param.ofOperand_cases`: just these are read as parameters, which are of the type; of any other text
  it is said that it is no number or no instant.
-/

namespace ScopedQuery

/-- Blanks aside, a text stands for a value: a numeral that fits 64 bits, a finite number, or an
instant. -/
def ValueType.Reads (type : ValueType) (raw : String) : Prop :=
  match type with
  | .integer => ∃ z, Decimal.Numeral (Text.trim raw).toList z ∧ Decimal.fitsWord z = true
  | .decimal => ∃ x, Decimal.float? (Text.trim raw) = some x ∧ x.isFinite = true
  | .timestamp => ∃ t, Calendar.Instant.ofText? raw = some t
  | .text => True

namespace Param

/-- A parameter of a type, with a number only if it is finite. -/
def IsOf (type : ValueType) (param : Param) : Prop :=
  param.type = type ∧ ∀ x, param = .decimal x → x.isFinite = true

theorem finite?_eq_some {raw : String} {x : Float} :
    finite? raw = some x ↔ Decimal.float? raw = some x ∧ x.isFinite = true := by
  unfold finite?
  cases Decimal.float? raw with
  | none => simp
  | some y =>
    simp only [Option.some.injEq]
    constructor
    · intro h
      split at h
      · next hy => exact Option.some.inj h ▸ ⟨rfl, hy⟩
      · cases h
    · rintro ⟨rfl, hy⟩
      exact if_pos hy

theorem ofText?_trim (raw : String) :
    Calendar.Instant.ofText? (Text.trim raw) = Calendar.Instant.ofText? raw := by
  simp only [Calendar.Instant.ofText?, Text.trim_trim]

/-- An operand is read as a parameter of its field's type, or does not stand for a value of it. -/
theorem ofOperand_cases (f : Field) (raw : String) :
    (∃ param, ofOperand f raw = .ok param ∧ f.type.Reads raw ∧ param.IsOf f.type) ∨
      ∃ fault, ofOperand f raw = .error fault ∧ ¬f.type.Reads raw ∧
        (fault = .notNumber f.name ∨ fault = .notInstant (Text.trim raw)) := by
  cases htype : f.type with
  | integer =>
    simp only [ofOperand, htype]
    cases hread : Decimal.integer? (Text.trim raw) with
    | some n =>
      obtain ⟨z, hz, hfits, -⟩ := Decimal.integer?_eq_some.mp hread
      exact .inl ⟨_, rfl, ⟨z, hz, hfits⟩, rfl, by simp⟩
    | none =>
      refine .inr ⟨_, rfl, ?_, .inl rfl⟩
      rintro ⟨z, hz, hfits⟩
      rw [Decimal.integer?_eq_some.mpr ⟨z, hz, hfits, rfl⟩] at hread
      cases hread
  | decimal =>
    simp only [ofOperand, htype]
    cases hread : finite? (Text.trim raw) with
    | some x =>
      obtain ⟨hx, hfinite⟩ := finite?_eq_some.mp hread
      refine .inl ⟨_, rfl, ⟨x, hx, hfinite⟩, rfl, ?_⟩
      rintro y hy
      exact Param.decimal.inj hy ▸ hfinite
    | none =>
      refine .inr ⟨_, rfl, ?_, .inl rfl⟩
      rintro ⟨x, hx⟩
      rw [finite?_eq_some.mpr hx] at hread
      cases hread
  | timestamp =>
    simp only [ofOperand, htype, ofText?_trim]
    cases hread : Calendar.Instant.ofText? raw with
    | some t => exact .inl ⟨_, rfl, ⟨t, hread⟩, rfl, by simp⟩
    | none =>
      refine .inr ⟨_, rfl, ?_, .inr rfl⟩
      rintro ⟨t, ht⟩
      rw [ht] at hread
      cases hread
  | text => exact .inl ⟨.text (Text.trim raw), by simp only [ofOperand, htype], trivial, rfl, by simp⟩

theorem isOf_of_ofOperand {f : Field} {raw : String} {param : Param}
    (h : ofOperand f raw = .ok param) : param.IsOf f.type := by
  obtain ⟨_, hread, -, htype⟩ | ⟨_, hread, -, -⟩ := ofOperand_cases f raw
  · rw [h, Except.ok.injEq] at hread
    exact hread ▸ htype
  · rw [h] at hread
    cases hread

theorem reads_of_ofOperand {f : Field} {raw : String} {param : Param}
    (h : ofOperand f raw = .ok param) : f.type.Reads raw := by
  obtain ⟨_, -, hreads, -⟩ | ⟨_, hread, -, -⟩ := ofOperand_cases f raw
  · exact hreads
  · rw [h] at hread
    cases hread

/-- It is said of the field or of the text what is wrong with it. -/
theorem fault_of_ofOperand {f : Field} {raw : String} {fault : PlanFault}
    (h : ofOperand f raw = .error fault) :
    ¬f.type.Reads raw ∧ (fault = .notNumber f.name ∨ fault = .notInstant (Text.trim raw)) := by
  obtain ⟨_, hread, -⟩ | ⟨_, hread, hreads, hfault⟩ := ofOperand_cases f raw
  · rw [h] at hread
    cases hread
  · rw [h, Except.error.injEq] at hread
    exact ⟨hreads, hread ▸ hfault⟩

end Param

end ScopedQuery
