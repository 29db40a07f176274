import ScopedQuery.Proofs.Sql.Calm.Query
/-!
# Calm readers of definitions of tables

The readers of columns, of tables and of their changes are calm if those of the level below are.
-/

namespace ScopedQuery.Sql

open Parsing

variable {g : Grammar}

/-! ### Columns -/

@[grind ←] theorem calm_ifExists : Calm ifExists := (calm_keywords? _).discard

@[grind ←] theorem calm_ifNotExists : Calm ifNotExists := (calm_keywords? _).discard

@[grind ←] theorem calm_exprList (hg : g.Calm) : Calm (exprList g) :=
  hg.expr.commaList.parenthesised.discard

@[grind ←] theorem calm_optionsBehind (word : String) : Calm (optionsBehind word) := by
  unfold optionsBehind
  grind

@[grind ←] theorem calm_action? (event : String) : Calm (referenceActions.action? event) := by
  unfold referenceActions.action?
  grind

@[grind ←] theorem calm_referenceActions : Calm referenceActions := by
  unfold referenceActions
  refine (calm_action? "DELETE").bind fun _ => (calm_action? "UPDATE").discard.ite ?_
  exact (calm_action? "UPDATE").bind fun _ => (calm_action? "DELETE").discard.ite (calm_pure ())

@[grind ←] theorem calm_sequenceOptions : Calm sequenceOptions := by
  unfold sequenceOptions
  -- What follows each option that can be left out, from the last one to the first.
  extract_lets cache start greatest least
  have hcache : ∀ r, Calm (cache r) := by grind
  clear_value cache
  have hstart : ∀ r, Calm (start r) := by grind
  clear_value start
  have hgreatest : ∀ r, Calm (greatest r) := by grind
  clear_value greatest
  have hleast : ∀ r, Calm (least r) := by grind
  clear_value least
  grind

@[grind ←] theorem calm_computation (hg : g.Calm) : Calm (computation g) :=
  hg.expr.parenthesised.discard.bind fun _ => (calm_anyKeyword? _).discard

@[grind ←] theorem calm_generation? (hg : g.Calm) : Calm (generation? g) := by
  unfold generation?
  grind

@[grind ←] theorem calm_columnOption? (hg : g.Calm) : Calm (columnOption? g) := by
  unfold columnOption?
  refine (calm_keywords? _).bind fun _ => Calm.ite (calm_objectName.discard.bind fun _ => calm_pure _) ?_
  refine (calm_keywords? _).bind fun _ => (calm_pure _).ite ?_
  refine (calm_keyword? "COMMENT").bind fun _ => ?_
  refine Calm.ite (calm_singleQuoted.discard.bind fun _ => calm_pure _) ?_
  refine (calm_keyword? "NULL").bind fun _ => (calm_pure _).ite ?_
  refine (calm_keyword? "DEFAULT").bind fun _ => Calm.ite (hg.expr.discard.bind fun _ => calm_pure _) ?_
  refine (calm_keywords? _).bind fun _ => (calm_pure _).ite ?_
  refine (calm_keyword? "UNIQUE").bind fun _ => (calm_pure _).ite ?_
  refine (calm_keyword? "REFERENCES").bind fun _ => Calm.ite ?_ ?_
  · refine calm_objectName.discard.bind fun _ => calm_columnNames?.discard.bind fun _ => ?_
    exact calm_referenceActions.bind fun _ => calm_pure _
  refine (calm_keyword? "CHECK").bind fun _ => ?_
  refine Calm.ite (hg.expr.parenthesised.discard.bind fun _ => calm_pure _) ?_
  refine (calm_keyword? "AUTO_INCREMENT").bind fun _ => (calm_pure _).ite ?_
  refine (calm_keyword? "AUTOINCREMENT").discard.bind fun _ => (calm_keywords? _).bind fun _ => ?_
  refine Calm.ite (hg.expr.discard.bind fun _ => calm_pure _) ?_
  refine (calm_keyword? "GENERATED").bind fun _ => (calm_generation? hg).ite ?_
  refine (calm_keyword? "AS").bind fun _ => Calm.ite ?_ (calm_pure none)
  exact (calm_computation hg).bind fun _ => calm_pure _

@[grind ←] theorem calm_columnRule? (hg : g.Calm) : Calm (columnRule? g) := by
  unfold columnRule?
  refine (calm_keyword? "CONSTRAINT").bind fun _ => Calm.ite ?_ ?_
  · refine calm_ident.discard.bind fun _ => (calm_columnOption? hg).bind fun option => ?_
    exact (calm_guard _).bind fun _ => calm_pure _
  · refine (calm_columnOption? hg).bind fun option => ?_
    split
    · exact calm_pure _
    · exact calm_objectName.discard.behind? "COLLATE"

@[grind ←] theorem calm_columnDefinition (hg : g.Calm) : Calm (columnDefinition g) := by
  unfold columnDefinition
  refine calm_ident.discard.bind fun _ => (Calm.discard calm_typeName).bind fun _ => ?_
  exact (calm_columnRule? hg).repeated.discard

/-! ### Tables -/

@[grind ←] theorem calm_indexKind : Calm indexKind := (calm_anyKeyword _).discard

@[grind ←] theorem calm_tableConstraint? (hg : g.Calm) : Calm (tableConstraint? g) := by
  unfold tableConstraint?
  refine (calm_keyword? "CONSTRAINT").bind fun named => ?_
  extract_lets columns kind rule
  have hcolumns : ∀ r, Calm (columns r) := by grind
  clear_value columns
  have hkind : ∀ r, Calm (kind r) := by grind
  clear_value kind
  have hrule : ∀ r, Calm (rule r) := by
    intro r
    refine (calm_anyKeyword? _).bind fun word => ?_
    grind
  clear_value rule
  grind

@[grind ←] theorem calm_tableElement (hg : g.Calm) : Calm (tableElement g) := by
  unfold tableElement
  refine (calm_tableConstraint? hg).bind fun rule => ?_
  split
  · exact calm_pure ()
  · refine calm_peek.bind fun t => ?_
    split
    · exact calm_columnDefinition hg
    · exact calm_failure

@[grind ←] theorem calm_tableElements? (hg : g.Calm) : Calm (tableElements? g) := by
  unfold tableElements?
  refine (calm_symbol? "(").bind fun _ => Calm.ite ?_ (calm_pure ())
  exact (calm_tableElement hg).listToEnd.discard

@[grind ←] theorem calm_partitioning? (hg : g.Calm) : Calm (partitioning? g) := by
  unfold partitioning?
  refine (calm_keywords? _).bind fun _ => Calm.ite ?_ (calm_pure ())
  exact (calm_columnDefinition hg).commaList.parenthesised.discard

@[grind ←] theorem calm_storage? (hg : g.Calm) : Calm (storage? g) := by
  unfold storage?
  grind

@[grind ←] theorem calm_brokenName (fuel : Nat) : Calm (brokenName fuel) := by
  induction fuel with
  | zero => exact calm_pure ()
  | succ fuel ih =>
    have hdrop : Calm (modify (·.drop 1) : Parsing PUnit) :=
      calm_modify fun ts => List.drop_subset 1 ts
    unfold brokenName
    grind

@[grind ←] theorem calm_model : Calm model := calm_get.bind fun _ => calm_brokenName _

@[grind ←] theorem calm_namedValue : Calm namedValue := by
  unfold namedValue
  exact (calm_symbol "=").bind fun _ => calm_anyWord.discard

@[grind ←] theorem calm_rowOrder? : Calm rowOrder? := by
  unfold rowOrder?
  grind

@[grind ←] theorem calm_tableDefinition (hg : g.Calm) : Calm (tableDefinition g) := by
  have hcount : Calm (behind? "AUTO_INCREMENT" countStart) := calm_behind?_of_demanding (by decide) _
  unfold tableDefinition
  -- What follows each clause that can be left out, from the last one to the first.
  extract_lets collation elements clone like
  have hcollation : ∀ r, Calm (collation r) := by grind
  clear_value collation
  have helements : ∀ r, Calm (elements r) := by
    intro r
    refine (calm_tableElements? hg).bind fun _ => (calm_keywords? _).discard.bind fun _ => ?_
    refine (calm_partitioning? hg).bind fun _ => (calm_storage? hg).repeated.discard.bind fun _ => ?_
    refine (calm_optionsBehind "WITH").bind fun _ => ?_
    refine (calm_optionsBehind "TBLPROPERTIES").bind fun _ => ?_
    refine (calm_namedValue.behind? "ENGINE").discard.bind fun _ => hcount.discard.bind fun _ => ?_
    grind
  clear_value elements
  have hclone : ∀ r, Calm (clone r) := by grind
  clear_value clone
  have hlike : ∀ r, Calm (like r) := by grind
  clear_value like
  grind

@[grind ←] theorem calm_externalTable (hg : g.Calm) : Calm (externalTable g) := by
  unfold externalTable
  refine (calm_keyword "TABLE").bind fun _ => calm_ifNotExists.bind fun _ => ?_
  refine calm_objectName.discard.bind fun _ => (calm_tableElements? hg).bind fun _ => ?_
  refine (calm_partitioning? hg).bind fun _ => (calm_storage? hg).repeated.discard.bind fun _ => ?_
  exact calm_optionsBehind "TBLPROPERTIES"

/-! ### Changes -/

@[grind ←] theorem calm_tableAddition (hg : g.Calm) : Calm (tableAddition g) := by
  unfold tableAddition
  refine (calm_tableConstraint? hg).bind fun rule => ?_
  split
  · exact calm_pure ()
  · refine calm_ifNotExists.bind fun _ => (calm_keyword? "PARTITION").bind fun _ => Calm.ite ?_ ?_
    · refine (calm_exprList hg).bind fun _ => ?_
      exact ((calm_exprList hg).behind? "PARTITION").repeated.discard
    · exact (calm_keyword? "COLUMN").discard.bind fun _ => calm_columnDefinition hg

@[grind ←] theorem calm_tableRemoval (hg : g.Calm) : Calm (tableRemoval g) := by
  unfold tableRemoval
  refine (calm_anyPhrase? _).bind fun partition => (calm_exprList hg).ite ?_
  refine (calm_keywords? _).bind fun key => (calm_pure ()).ite ?_
  refine (calm_anyKeyword? _).discard.bind fun _ => calm_ifExists.bind fun _ => ?_
  exact calm_ident.discard.bind fun _ => (calm_keyword? "CASCADE").discard

@[grind ←] theorem calm_columnChange (hg : g.Calm) : Calm (columnChange g) := by
  unfold columnChange
  refine (calm_keyword? "COLUMN").discard.bind fun _ => calm_ident.discard.bind fun _ => ?_
  refine (calm_anyPhrase? _).bind fun change => ?_
  split
  · exact calm_pure ()
  · refine (calm_keywords? _).bind fun typed => (Calm.discard calm_typeName).ite ?_
    exact (calm_keywords _).bind fun _ => hg.expr.discard

@[grind ←] theorem calm_tableChange (hg : g.Calm) : Calm (tableChange g) := by
  unfold tableChange
  refine (calm_anyKeyword _).bind fun word => ?_
  grind

end ScopedQuery.Sql
