import ScopedQuery.Proofs.Bound.Aligned
import ScopedQuery.Proofs.Query.Denoted
/-!
# Labels and columns

A label is made of what a plan says when the plan is checked, and once more, of the label itself, when the
query is bound.

* `SettledLabel`: a label that the second time does not change, and `Plan.Dimension.Denotes.settled` and
  `Plan.Measure.Denotes.settled`: the labels of a checked query are such.
* `Text.displayName_cleans_once` says what a display name is, character by character, and that once is enough.
-/

namespace ScopedQuery

open Text

/-! ### Checked labels -/

/-- A label that comes from a raw one or its fallback, and that no fallback changes any more. -/
def SettledLabel (raw : Option String) (fallback label : String) : Prop :=
  label = displayName raw fallback ∧ ∀ other, displayName (some label) other = label

namespace Plan

theorem Dimension.Denotes.settled {d : Dataset} {x : Dimension} {y : Query.Dimension}
    (h : x.Denotes d y) : SettledLabel x.label y.field y.label :=
  ⟨h.label, h.displayable.displayName_eq⟩

theorem Measure.Denotes.settled {d : Dataset} {x : Measure} {y : Query.Measure}
    (h : x.Denotes d y) : SettledLabel x.label (y.agg.code ++ "_" ++ y.field) y.label :=
  ⟨h.label, h.displayable.displayName_eq⟩

end Plan

/-! ### Display names -/

/-- A display name has legal characters only. It is made of the label without the blanks around it, or of the
fallback if there is no label or a blank one: each legal character is kept in its place, and `_` is
written for each other one. A display name that is not empty is its own display name. So the labels of a
checked query are settled, and are the names of the columns when the query is bound. -/
theorem Text.displayName_cleans_once (raw : Option String) (fallback : String) :
    let name := displayName raw fallback
    (∀ c ∈ name.toList, LegalChar c) ∧
    (∀ label ∈ raw, ¬Blank label → CleanOf name (trim label)) ∧
    ((∀ label ∈ raw, Blank label) → CleanOf name fallback) ∧
    (name ≠ "" → ∀ other, displayName (some name) other = name) ∧
    ∀ (registry : Registry) (limits : Limits) (p : Plan) (q : Query),
      p.check registry limits = .ok (.query q) →
      List.Forall₂ (fun (x : Plan.Dimension) (y : Query.Dimension) =>
        SettledLabel x.label y.field y.label) p.dimensions q.dimensions ∧
      List.Forall₂ (fun (x : Plan.Measure) (y : Query.Measure) =>
        SettledLabel x.label (y.agg.code ++ "_" ++ y.field) y.label) p.measures q.measures ∧
      ∀ (builder : Registry) (dialect : Dialect) (b : BoundQuery), q.bind builder dialect = .ok b →
        b.columns = q.dimensions.map (·.label) ++ q.measures.map (·.label) := by
  intro name
  refine ⟨fun c hc => isNameChar_iff.mp (isNameChar_of_mem_displayName hc), ?_, ?_, ?_, ?_⟩
  · rintro label rfl hfilled
    have hname : name = cleanName (trim label) :=
      displayName_of_filled (trim_eq_empty.not.mpr hfilled) fallback
    rw [hname]
    exact cleanOf_cleanName (trim label)
  · intro hblank
    have hname : name = cleanName fallback := by
      cases raw with
      | none => rfl
      | some label => exact displayName_of_blank (trim_eq_empty.mpr (hblank label rfl)) fallback
    rw [hname]
    exact cleanOf_cleanName fallback
  · exact fun hne => (isDisplayName_of_ne_empty hne).displayName_eq
  · intro registry limits p q hcheck
    obtain ⟨-, -, hchecked⟩ := Plan.check_eq_query.mp hcheck
    refine ⟨?_, ?_, ?_⟩
    · exact hchecked.dimensions.imp fun _ _ h => (Plan.Dimension.check_iff_denotes.mp h).settled
    · exact hchecked.measures.imp fun _ _ h => (Plan.Measure.check_iff_denotes.mp h).settled
    · intro builder dialect b hbind
      obtain ⟨-, c, -, rfl⟩ := Query.bind_eq_ok.mp hbind
      exact hchecked.columns_eq

/-- A label with a quotation mark in it, between blanks, and one of blanks only. -/
theorem Text.displayName_cleans_once_of_drop :
    let raw := " 总数 c0\"; DROP\u3000"
    let name := displayName (some raw) "x"
    let p : Plan := {
      dataset := some "TASK"
      dimensions := [{ field := some "STATUS", label := some " \t" }]
      measures := [{ agg := some "COUNT", field := some "TASK_ID", label := some raw }] }
    name = "总数_c0___DROP" ∧ ¬Blank raw ∧ CleanOf name "总数 c0\"; DROP" ∧
      displayName (some name) "" = name ∧ Blank " \t" ∧ CleanOf (displayName (some " \t") "a b") "a b" ∧
        ∃ q b, p.check .builtin .standard = .ok (.query q) ∧ q.bind .builtin .mysql = .ok b ∧
          b.columns = ["STATUS", name] ∧
            b.columns = q.dimensions.map (·.label) ++ q.measures.map (·.label) := by
  intro raw name p
  have hname : name = "总数_c0___DROP" := by decide
  have hne : name ≠ "" := by
    rw [hname]
    decide
  have htrim : trim raw = "总数 c0\"; DROP" := by decide
  have hfilled : ¬Blank raw := by decide
  have hblank : Blank " \t" := by decide
  have hbound : (p.bound? .builtin .standard .mysql).map (·.columns) = some ["STATUS", name] := by
    decide +kernel
  obtain ⟨b, hb, hcolumns⟩ := Option.map_eq_some_iff.mp hbound
  obtain ⟨q, hcheck, hbind⟩ := Plan.bound?_eq_some.mp hb
  obtain ⟨-, hclean, -, hagain, hlabels⟩ := Text.displayName_cleans_once (some raw) "x"
  obtain ⟨-, -, hfallback, -⟩ := Text.displayName_cleans_once (some " \t") "a b"
  obtain ⟨-, -, hsame⟩ := hlabels _ _ p q hcheck
  have hraw : CleanOf name "总数 c0\"; DROP" := by
    rw [← htrim]
    exact hclean raw rfl hfilled
  have hspare : CleanOf (displayName (some " \t") "a b") "a b" := hfallback (by simpa using hblank)
  exact ⟨hname, hfilled, hraw, hagain hne "", hblank, hspare, q, b, hcheck, hbind, hcolumns,
    hsame _ _ b hbind⟩

end ScopedQuery
