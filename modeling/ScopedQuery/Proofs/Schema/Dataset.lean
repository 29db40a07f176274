import ScopedQuery.Proofs.Text.Trim
import ScopedQuery.Schema.Dataset
/-!
# Looking up datasets and fields

* `Registry.find?_eq_some` and `Registry.findOrDefault_eq`: whatever is looked up in a registry, it is
  its one dataset.
* `Registry.find?_code`: a dataset that is found at all is found by its own code.
* `Dataset.field?_trim`: blanks around the name of a field do not count.
-/

namespace ScopedQuery

theorem Registry.find?_eq_some {r : Registry} {code : String} {d : Dataset} :
    r.find? code = some d ↔ r.dataset = d ∧ Text.sameFold r.dataset.code (Text.trim code) := by
  simp only [find?]
  split
  · next h => simp [h]
  · next h => simp [h]

theorem Registry.findOrDefault_eq (r : Registry) (code : Option String) :
    r.findOrDefault code = r.dataset := by
  cases h : code.bind r.find? with
  | none => simp [findOrDefault, h]
  | some d =>
    obtain ⟨c, -, hc⟩ := Option.bind_eq_some_iff.mp h
    simp [findOrDefault, h, (Registry.find?_eq_some.mp hc).1]

/-- The dataset is found by its own code if it is found by any. -/
theorem Registry.find?_code {r : Registry} {code : String} (h : (r.find? code).isSome = true) :
    r.find? r.dataset.code = some r.dataset := by
  obtain ⟨d, hd⟩ := Option.isSome_iff_exists.mp h
  obtain ⟨-, hfold⟩ := Registry.find?_eq_some.mp hd
  exact Registry.find?_eq_some.mpr ⟨rfl, Text.sameFold_trim hfold⟩

@[simp] theorem Dataset.field?_trim (d : Dataset) (name : String) :
    d.field? (Text.trim name) = d.field? name := by
  simp only [field?, Text.trim_trim]

end ScopedQuery
