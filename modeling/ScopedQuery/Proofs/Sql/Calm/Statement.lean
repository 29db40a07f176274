import ScopedQuery.Proofs.Attempts
import ScopedQuery.Proofs.Sql.Calm.Session
/-!
# Calm reading

The readers of statements are calm, and with them all levels of nesting: this is the induction that ties
the lemmas about single readers together. A text without demanding keywords is read without a crash.
-/

namespace ScopedQuery.Sql

open Parsing

variable {g : Grammar}

@[grind ←] theorem calm_mergeAction (hg : g.Calm) (found : Bool) : Calm (mergeAction g found) := by
  unfold mergeAction
  grind

@[grind ←] theorem calm_mergeCase? (hg : g.Calm) : Calm (mergeCase? g) := by
  unfold mergeCase?
  refine calm_get.bind fun ts => (calm_atSymbol ";").bind fun ended => ?_
  grind

@[grind ←] theorem calm_merging (hg : g.Calm) : Calm (merging g) := by
  unfold merging
  refine (calm_keyword? "INTO").discard.bind fun _ => ?_
  refine (calm_source hg (calm_fromItem hg)).discard.bind fun _ => ?_
  grind

@[grind ←] theorem calm_explanation (hg : g.Calm) : Calm (explanation g) := by
  unfold explanation
  grind

@[grind ←] theorem calm_procedureCall (hg : g.Calm) : Calm (procedureCall g) := by
  unfold procedureCall
  refine calm_objectName.bind fun name => (calm_atSymbol "(").bind fun _ => ?_
  exact (calm_call hg name).discard.ite (calm_pure ())

@[grind ←] theorem calm_truncation (hg : g.Calm) : Calm (truncation g) := by
  unfold truncation
  refine (calm_keyword? "TABLE").discard.bind fun _ => calm_objectName.discard.bind fun _ => ?_
  exact (calm_keyword? "PARTITION").bind fun _ => (calm_exprList hg).ite (calm_pure ())

@[grind ←] theorem calm_analysisOption? (hg : g.Calm) : Calm (analysisOption? g) := by
  unfold analysisOption?
  grind

@[grind ←] theorem calm_repairing : Calm repairing := by
  unfold repairing
  refine (calm_keyword? "REPAIR").discard.bind fun _ => (calm_keyword "TABLE").bind fun _ => ?_
  refine calm_objectName.discard.bind fun _ => Calm.discard (Calm.maybe ?_)
  exact (calm_anyKeyword? _).discard.bind fun _ => calm_keyword "PARTITIONS"

@[grind ←] theorem calm_preparation (hg : g.Calm) : Calm (preparation g) := by
  unfold preparation
  grind

@[grind ←] theorem calm_briefStatement (hg : g.Calm) (word : String) : Calm (briefStatement g word) := by
  unfold briefStatement
  grind

@[grind ←] theorem calm_otherStatement (hg : g.Calm) (word : String) : Calm (otherStatement g word) := by
  unfold otherStatement
  split
  · refine (calm_keyword "TABLE").bind fun _ => calm_objectName.discard.bind fun _ => ?_
    exact (calm_analysisOption? hg).repeated.discard
  · exact calm_truncation hg
  · exact calm_repairing
  · exact calm_creation hg
  · exact calm_caching hg
  · exact calm_removal hg
  · exact calm_cursorDeclaration hg
  · exact calm_cursorFetch
  · exact calm_deletion hg
  · exact (calm_insertion hg).discard
  · exact (calm_modification hg).discard
  · exact calm_alteration hg
  · exact calm_procedureCall hg
  · exact calm_copying hg
  · exact calm_setting hg
  · exact calm_showing hg
  · exact calm_granting
  · exact calm_revoking
  · exact calm_preparation hg
  · exact calm_merging hg
  · exact calm_briefStatement hg word

@[grind ←] theorem calm_statementOf (hg : g.Calm) : Calm (statementOf g) := by
  unfold statementOf
  refine (calm_keywords? _).bind fun lock => Calm.ite (by grind) ?_
  refine (calm_keywords? _).bind fun unlock => Calm.ite (by grind) ?_
  grind

/-! ### All levels -/

/-- By induction on the depth: the readers of a level call those of the level below. -/
theorem calm_nested (depth : Nat) : (Grammar.nested depth).Calm := by
  induction depth with
  | zero => exact Grammar.calm_exhausted
  | succ depth ih =>
    exact {
      expr := calm_expression ih
      query := calm_queryOf ih
      statement := calm_statementOf ih
      tight := fun _ _ => calm_failure }

/-- Reading a text crashes only if one of the demanding keywords stands in it. -/
theorem readStatements_ne_crashed {text : String}
    (h : ∀ ts ∈ Token.ofText? text, Harmless ts) : readStatements text ≠ .crashed := by
  unfold readStatements
  cases htokens : Token.ofText? text with
  | none => exact nofun
  | some ts =>
    have hlist : Calm (statementList (Grammar.nested nestingLimit).statement) :=
      calm_statementList (calm_nested nestingLimit).statement
    intro hcrash
    exact (hlist ts (h ts htokens)).1 (Attempt.map_eq_crashed.mp hcrash)

end ScopedQuery.Sql
