import ScopedQuery.Proofs.Caller.Scoping
import ScopedQuery.Proofs.Text.Lower
import ScopedQuery.Proofs.Text.Spelled
/-!
# Questions about several persons

What row scoping looks for in a plan and in a question, said without the functions that look for it.

* `Scope.NamesFirst`: the first equation on the scoped field names an id (`isPinned_iff_namesFirst`).
* `Scope.HasCue`: a phrase that hints at several persons occurs in the question (`hasCue_iff`).
* `Scope.AsksAcross`: plan or question concern several persons (`isCrossPerson_iff_asksAcross`).
-/

namespace ScopedQuery

namespace Scope

/-! ### The first equation -/

/-- The filter is an equation on the scoped field, however the two are padded and `EQ` is written. -/
def IsScopedEquation (d : Dataset) (f : Plan.Filter) : Prop :=
  f.field.map Text.trim = some d.scopedField ∧ Text.Spells f.op "EQ"

/-- The first equation on the scoped field has the id for its operand. -/
def NamesFirst (d : Dataset) (id : String) (p : Plan) : Prop :=
  ∃ before f after, p.filters = before ++ f :: after ∧ (∀ g ∈ before, ¬IsScopedEquation d g) ∧
    IsScopedEquation d f ∧ f.value.map Text.trim = some id

variable {d : Dataset}

/-- A raw text is filled with a text that is not empty just if this is its trimmed form. -/
theorem filled?_beq_iff {raw : Option String} {text : String} (h : text ≠ "") :
    (Text.filled? raw == some text) = true ↔ raw.map Text.trim = some text := by
  rw [beq_iff_eq, Text.filled?_iff_tells, Text.Tells, and_iff_left h]

theorem isEquation_iff {f : Plan.Filter} : isEquation f = true ↔ Text.Spells f.op "EQ" := by
  rw [isEquation, beq_iff_eq]
  exact Text.bind_read_iff fun _ _ => FilterOp.read?_eq_some

theorem isScopedEquation_iff (hd : d.scopedField ≠ "") {f : Plan.Filter} :
    isScoped d f = true ∧ isEquation f = true ↔ IsScopedEquation d f := by
  rw [isScoped, filled?_beq_iff hd, isEquation_iff, IsScopedEquation]

/-- The filter that decides is the first one that the two tests hold of. -/
theorem isPinned_iff_first {p : Plan} {id : String} (hid : id ≠ "") :
    isPinned d p id = true ↔ ∃ before f after, p.filters = before ++ f :: after ∧
      (∀ g ∈ before, ¬(isScoped d g = true ∧ isEquation g = true)) ∧
        (isScoped d f = true ∧ isEquation f = true) ∧ f.value.map Text.trim = some id := by
  have hfind : ∀ f, (p.filters.filter (isScoped d)).find? isEquation = some f ↔
      (isScoped d f = true ∧ isEquation f = true) ∧ ∃ before after, p.filters = before ++ f :: after ∧
        ∀ g ∈ before, ¬(isScoped d g = true ∧ isEquation g = true) := by
    intro f
    simp only [List.find?_filter, List.find?_eq_some_iff_append, decide_eq_true_eq, Bool.not_eq_true',
      decide_eq_false_iff_not]
  rw [isPinned]
  constructor
  · intro h
    split at h
    · next f hf =>
      obtain ⟨hequation, before, after, hfilters, hbefore⟩ := (hfind f).mp hf
      exact ⟨before, f, after, hfilters, hbefore, hequation, (filled?_beq_iff hid).mp h⟩
    · cases h
  · rintro ⟨before, f, after, hfilters, hbefore, hequation, hvalue⟩
    rw [(hfind f).mpr ⟨hequation, before, after, hfilters, hbefore⟩]
    exact (filled?_beq_iff hid).mpr hvalue

theorem isPinned_iff_namesFirst (hd : d.scopedField ≠ "") {p : Plan} {id : String} (hid : id ≠ "") :
    isPinned d p id = true ↔ NamesFirst d id p := by
  simp only [isPinned_iff_first hid, isScopedEquation_iff hd, NamesFirst]

/-! ### Cues -/

/-- Some phrase that hints at several persons occurs in the question, once this is in lower case. -/
def HasCue (question : String) : Prop :=
  ∃ cue ∈ cues, cue.toList <:+: (Text.toLower question).toList

theorem occursIn_iff_infix {piece cs : List Char} : occursIn piece cs = true ↔ piece <:+: cs := by
  induction cs with
  | nil => simp [occursIn]
  | cons c cs ih =>
    rw [occursIn, Bool.or_eq_true, List.isPrefixOf_iff_prefix, ih, List.infix_cons_iff]

/-- No cue starts or ends with a blank. -/
theorem neat_cues : ∀ cue ∈ cues, Text.Neat cue := by decide

/-- Blanks around the question do not matter. -/
theorem hasCue_iff {question : String} : hasCue question = true ↔ HasCue question := by
  simp only [hasCue, List.any_eq_true, occursIn_iff_infix, HasCue]
  refine exists_congr fun cue => and_congr_right fun hcue => ?_
  exact Text.infix_toLower_trim (neat_cues cue hcue) question

theorem hasCue_trim (question : String) : hasCue (Text.trim question) = hasCue question := by
  simp only [hasCue, Text.trim_trim]

/-! ### Several persons -/

/-- A plan groups by a field that tells persons apart or counts the scoped field's values, or the question
has a cue. -/
def AsksAcross (d : Dataset) (question : String) (p : Plan) : Prop :=
  (∃ dim ∈ p.dimensions, ∃ name ∈ d.crossPersonFields, dim.field.map Text.trim = some name) ∨
    (∃ m ∈ p.measures, Text.Spells m.agg "COUNT_DISTINCT" ∧
      m.field.map Text.trim = some d.scopedField) ∨
    HasCue question

theorem groupsByPerson_iff {p : Plan} : groupsByPerson d p = true ↔
    ∃ dim ∈ p.dimensions, ∃ name ∈ d.crossPersonFields, dim.field.map Text.trim = some name := by
  simp only [groupsByPerson, List.any_eq_true]
  refine exists_congr fun dim => and_congr_right fun _ => ?_
  cases dim.field with
  | none => simp
  | some raw => simp [Dataset.isCrossPerson]

theorem countsPersons_iff (hd : d.scopedField ≠ "") {p : Plan} : countsPersons d p = true ↔
    ∃ m ∈ p.measures, Text.Spells m.agg "COUNT_DISTINCT" ∧
      m.field.map Text.trim = some d.scopedField := by
  simp only [countsPersons, List.any_eq_true, Bool.and_eq_true, filled?_beq_iff hd]
  refine exists_congr fun m => and_congr_right fun _ => and_congr_left fun _ => ?_
  rw [beq_iff_eq]
  exact Text.bind_read_iff fun _ _ => Aggregation.read?_eq_some

theorem isCrossPerson_iff_asksAcross (hd : d.scopedField ≠ "") {question : String} {p : Plan} :
    isCrossPerson d question p = true ↔ AsksAcross d question p := by
  rw [isCrossPerson, Bool.or_eq_true, Bool.or_eq_true, groupsByPerson_iff, countsPersons_iff hd,
    hasCue_iff, AsksAcross, or_assoc]

theorem isCrossPerson_trim (d : Dataset) (question : String) (p : Plan) :
    isCrossPerson d (Text.trim question) p = isCrossPerson d question p := by
  rw [isCrossPerson, isCrossPerson, hasCue_trim]

end Scope

/-- Scoping does not depend on blanks around the question. -/
theorem Caller.scope_trim (caller : Caller) (registry : Registry) (question : String) (p : Plan) :
    caller.scope registry (Text.trim question) p = caller.scope registry question p := by
  unfold Caller.scope
  dsimp only
  rw [Scope.isCrossPerson_trim]

end ScopedQuery
