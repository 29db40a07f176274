import ScopedQuery.Proofs.Sql.Calm.Source
/-!
# Calm readers of queries

The readers of bodies and of whole queries are calm if those of the level below are. The number of rows is
read behind `TOP` alone, and that keyword is not there to be read.
-/

namespace ScopedQuery.Sql

open Parsing

variable {g : Grammar}

/-! ### Select bodies -/

@[grind ←] theorem calm_intoTarget : Calm intoTarget := by
  unfold intoTarget
  refine (calm_anyKeyword? _).bind fun temporary => (calm_keyword? "UNLOGGED").bind fun unlogged => ?_
  exact (calm_keyword? "TABLE").bind fun _ => calm_objectName.bind fun _ => calm_pure _

@[grind ←] theorem calm_lateralView? (hg : g.Calm) : Calm (lateralView? g) := by
  unfold lateralView?
  refine (calm_keywords? _).bind fun _ => Calm.ite ?_ (calm_pure none)
  refine (calm_keyword? "OUTER").bind fun outer => hg.expr.bind fun value => ?_
  refine calm_objectName.bind fun name => (calm_asName? _).commaList.bind fun columns => ?_
  exact calm_pure _

@[grind ←] theorem calm_namedWindow (hg : g.Calm) : Calm (namedWindow g) := by
  unfold namedWindow
  refine calm_ident.bind fun name => (calm_keyword "AS").bind fun _ => (calm_symbol "(").bind fun _ => ?_
  exact (calm_windowToEnd hg).bind fun _ => calm_pure _

@[grind ←] theorem calm_selection (hg : g.Calm) : Calm (selection g) := by
  unfold selection
  refine (calm_distinctness hg).bind fun distinct => ?_
  refine (calm_behind?_of_demanding (by decide) _).bind fun top => ?_
  refine (calm_selectItem hg).commaList.bind fun items => ?_
  refine (calm_intoTarget.behind? "INTO").bind fun into => ?_
  refine ((calm_fromItem hg).listBehind ["FROM"]).bind fun sources => ?_
  refine (calm_lateralView? hg).repeated.bind fun views => ?_
  refine (hg.expr.behind? "WHERE").bind fun condition => ?_
  refine (calm_keywords? _).bind fun grouped => ?_
  extract_lets rest
  have hrest : ∀ groups, Calm (rest groups) := by grind
  clear_value rest
  grind

/-! ### Other bodies -/

@[grind ←] theorem calm_valuesRow (hg : g.Calm) : Calm (valuesRow g) := by
  unfold valuesRow
  grind

@[grind ←] theorem calm_valuesBody (hg : g.Calm) : Calm (valuesBody g) := by
  unfold valuesBody
  exact (calm_valuesRow hg).commaList.bind fun _ => calm_pure _

@[grind ←] theorem calm_tableBody : Calm tableBody := by
  intro ts hts
  unfold tableBody
  split
  · refine ⟨nofun, ?_⟩
    intro a rest h
    cases h
    exact hts.tail.tail.tail
  · exact ⟨nofun, nofun⟩
  · refine ⟨nofun, ?_⟩
    intro a rest h
    cases h
    exact hts.tail.of_subset (List.drop_subset 2 _)
  · exact ⟨nofun, nofun⟩

@[grind ←] theorem calm_quantifier (operator : String) : Calm (quantifier operator) := by
  unfold quantifier
  grind

@[grind ←] theorem calm_plainBody (hg : g.Calm) : Calm (plainBody g) := by
  unfold plainBody
  refine (calm_keyword? "SELECT").bind fun _ => Calm.ite ?_ ?_
  · exact (calm_selection hg).bind fun _ => calm_pure _
  refine (calm_symbol? "(").bind fun _ => Calm.ite ?_ ?_
  · exact hg.query.bind fun query => (calm_symbol ")").bind fun _ => calm_pure _
  refine (calm_keyword? "VALUES").bind fun _ => (calm_valuesBody hg).ite ?_
  exact (calm_keyword? "TABLE").bind fun _ => calm_tableBody.ite calm_failure

/-- By induction on the steps that are left: a body on the right of an operator and what goes on behind it
have one less. -/
theorem calm_setOperations (hg : g.Calm) (fuel : Nat) :
    ∀ floor, Calm (bodyAt g floor fuel) ∧ ∀ left, Calm (setOperations g floor fuel left) := by
  induction fuel with
  | zero =>
    intro floor
    unfold bodyAt setOperations
    exact ⟨calm_failure, fun _ => calm_failure⟩
  | succ fuel ih =>
    intro floor
    constructor
    · rw [bodyAt]
      exact (calm_plainBody hg).bind (ih floor).2
    · intro left
      rw [setOperations]
      grind

@[grind ←] theorem calm_bodyAt (hg : g.Calm) (floor fuel : Nat) : Calm (bodyAt g floor fuel) :=
  (calm_setOperations hg fuel floor).1

/-! ### Queries -/

@[grind ←] theorem calm_cte (hg : g.Calm) : Calm (cte g) := by
  unfold cte
  grind

@[grind ←] theorem calm_offsetRows (hg : g.Calm) : Calm (offsetRows g) := by
  unfold offsetRows
  exact hg.expr.bind fun value => (calm_anyKeyword? _).bind fun _ => calm_pure _

@[grind ←] theorem calm_limit? (hg : g.Calm) : Calm (bounds.limit? g) := by
  unfold bounds.limit?
  exact (calm_keyword? "LIMIT").bind fun _ => (calm_limitBound hg).ite (calm_pure none)

@[grind ←] theorem calm_bounds (hg : g.Calm) (rounds : Nat) (found : Option Expr × Option Expr) :
    Calm (bounds g rounds found) := by
  induction rounds generalizing found with
  | zero => exact calm_pure found
  | succ rounds ih =>
    unfold bounds
    grind

@[grind ←] theorem calm_fetchRows : Calm fetchRows := by
  unfold fetchRows
  refine (calm_anyKeyword _).bind fun first => (calm_anyKeyword? _).bind fun plain => ?_
  extract_lets rest
  have hrest : ∀ quantity, Calm (rest quantity) := by grind
  clear_value rest
  grind

@[grind ←] theorem calm_formName? : Calm formName? := by
  unfold formName?
  refine (calm_atSymbol "(").bind fun _ => Calm.ite ?_ (calm_pure "")
  exact calm_plainText.parenthesised.bind fun _ => calm_pure _

@[grind ←] theorem calm_formRoot : Calm formRoot := by
  unfold formRoot
  exact calm_plainText.parenthesised.bind fun _ => calm_pure _

@[grind ←] theorem calm_formItems {item? : Parsing (Option (String × String))} (h : Calm item?) :
    Calm (formItems item?) := by
  unfold formItems
  grind

@[grind ←] theorem calm_xmlForm : Calm xmlForm := by
  unfold xmlForm
  refine (calm_anyKeyword _).bind fun kind => ?_
  extract_lets rest
  have hrest : ∀ name, Calm (rest name) := by
    intro name
    refine (calm_formItems ?_).bind fun items => calm_pure _
    grind
  clear_value rest
  grind

@[grind ←] theorem calm_jsonForm : Calm jsonForm := by
  unfold jsonForm
  grind

@[grind ←] theorem calm_form? : Calm form? := by
  unfold form?
  refine (calm_keywords? _).bind fun _ => Calm.ite (calm_xmlForm.bind fun _ => calm_pure _) ?_
  refine (calm_keywords? _).bind fun _ => Calm.ite (calm_jsonForm.bind fun _ => calm_pure _) ?_
  exact (calm_keywords? _).bind fun _ => (calm_pure _).ite (calm_pure none)

@[grind ←] theorem calm_lock? : Calm lock? := by
  unfold lock?
  grind

theorem calm_queryOf (hg : g.Calm) : Calm (queryOf g) := by
  unfold queryOf
  refine (calm_keyword? "WITH").bind fun named => ?_
  extract_lets rest
  have hrest : ∀ ctes, Calm (rest ctes) := by
    intro ctes
    refine (calm_keyword? "INSERT").bind fun insert => Calm.ite (by grind) ?_
    refine (calm_keyword? "UPDATE").bind fun update => Calm.ite (by grind) ?_
    grind
  clear_value rest
  grind

end ScopedQuery.Sql
