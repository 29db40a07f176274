import ScopedQuery.Proofs.Sql.Calm.Table
/-!
# Calm readers of definitions

The readers of `CREATE`, `DROP` and `ALTER`, and of lists of statements, are calm if those of the level
below are.
-/

namespace ScopedQuery.Sql

open Parsing

variable {g : Grammar}

/-! ### Lists of statements -/

theorem calm_statementsUpTo {statement : Parsing Statement} (hstatement : Calm statement) (fuel : Nat) :
    Calm (statementsUpTo statement fuel) := by
  induction fuel with
  | zero => exact calm_failure
  | succ fuel ih =>
    unfold statementsUpTo
    refine (calm_modify fun ts => List.dropWhile_subset _).bind fun _ => ?_
    refine calm_get.bind fun ts => Calm.ite (calm_pure []) ?_
    refine hstatement.bind fun first => ?_
    grind

@[grind ←] theorem calm_statementList {statement : Parsing Statement} (hstatement : Calm statement) :
    Calm (statementList statement) :=
  calm_get.bind fun _ => calm_statementsUpTo hstatement _

/-! ### `CREATE` -/

@[grind ←] theorem calm_viewDefinition (hg : g.Calm) (canBeClustered : Bool) :
    Calm (viewDefinition g canBeClustered) := by
  unfold viewDefinition
  refine calm_objectName.discard.bind fun _ => calm_columnNames?.discard.bind fun _ => ?_
  refine (calm_optionsBehind "WITH").bind fun _ => ?_
  grind

@[grind ←] theorem calm_indexDefinition (hg : g.Calm) : Calm (indexDefinition g) := by
  unfold indexDefinition
  refine (calm_keyword? "CONCURRENTLY").discard.bind fun _ => ?_
  refine (calm_keywords? _).bind fun checked => (calm_atKeyword _).bind fun unnamed => ?_
  extract_lets condition table
  have hcondition : ∀ r, Calm (condition r) := by grind
  clear_value condition
  have htable : ∀ r, Calm (table r) := by
    intro r
    refine (calm_keyword "ON").bind fun _ => calm_objectName.discard.bind fun _ => ?_
    refine (calm_ident.behind? "USING").discard.bind fun _ => ?_
    grind
  clear_value table
  grind

@[grind ←] theorem calm_virtualTable : Calm virtualTable := by
  unfold virtualTable
  refine (calm_keyword "TABLE").bind fun _ => calm_ifNotExists.bind fun _ => ?_
  refine calm_objectName.discard.bind fun _ => (calm_keyword "USING").bind fun _ => ?_
  exact calm_ident.discard.bind fun _ => calm_columnNames?.discard

@[grind ←] theorem calm_schemaDefinition : Calm schemaDefinition := by
  unfold schemaDefinition
  refine calm_ifNotExists.bind fun _ => (calm_keyword? "AUTHORIZATION").bind fun _ => ?_
  refine calm_ident.discard.ite (calm_objectName.discard.bind fun _ => ?_)
  exact (calm_ident.behind? "AUTHORIZATION").discard

@[grind ←] theorem calm_databaseDefinition : Calm databaseDefinition := by
  unfold databaseDefinition
  refine calm_ifNotExists.bind fun _ => calm_objectName.discard.bind fun _ => ?_
  grind

@[grind ←] theorem calm_sequenceDefinition : Calm sequenceDefinition := by
  unfold sequenceDefinition
  grind

@[grind ←] theorem calm_typeAttribute : Calm typeAttribute := by
  unfold typeAttribute
  refine calm_ident.discard.bind fun _ => (Calm.discard calm_typeName).bind fun _ => ?_
  exact (calm_objectName.behind? "COLLATE").discard

@[grind ←] theorem calm_typeDefinition : Calm typeDefinition := by
  unfold typeDefinition
  refine calm_objectName.discard.bind fun _ => (calm_keyword "AS").bind fun _ => ?_
  exact (calm_symbol? "(").bind fun _ => calm_typeAttribute.listToEnd.discard.ite (calm_pure ())

@[grind ←] theorem calm_parameter? : Calm parameter? := by
  unfold parameter?
  refine calm_peek.bind fun t => ?_
  split
  · exact calm_ident.discard.bind fun _ => Calm.discard calm_typeName
  · exact calm_pure ()

@[grind ←] theorem calm_procedureDefinition (hg : g.Calm) : Calm (procedureDefinition g) := by
  unfold procedureDefinition
  grind

@[grind ←] theorem calm_roleDefinition : Calm roleDefinition := by
  unfold roleDefinition
  refine calm_ifNotExists.bind fun _ => calm_objectName.commaList.discard.bind fun _ => ?_
  exact (calm_keyword? "WITH").discard

@[grind ←] theorem calm_freshDefinition (hg : g.Calm) : Calm (freshDefinition g) := by
  unfold freshDefinition
  refine (calm_anyPhrase? _).bind fun index => ?_
  split
  · exact calm_indexDefinition hg
  · refine (calm_anyKeyword _).bind fun word => ?_
    split
    · exact calm_virtualTable
    · exact calm_schemaDefinition
    · exact calm_databaseDefinition
    · exact calm_roleDefinition
    · exact calm_sequenceDefinition
    · exact calm_typeDefinition
    · exact calm_procedureDefinition hg

@[grind ←] theorem calm_creation (hg : g.Calm) : Calm (creation g) := by
  unfold creation
  refine (calm_keywords? _).bind fun replacing => (calm_keywords? _).discard.bind fun _ => ?_
  refine (calm_keyword? "LOCAL").discard.bind fun _ => ?_
  refine (calm_keyword? "GLOBAL").discard.bind fun _ => ?_
  grind

/-! ### `DROP` and `ALTER` -/

@[grind ←] theorem calm_removedArgument (hg : g.Calm) : Calm (removedArgument g) := by
  unfold removedArgument
  refine (calm_anyKeyword? _).discard.bind fun _ => Calm.bind calm_typeName fun type => ?_
  grind

@[grind ←] theorem calm_removedFunction (hg : g.Calm) : Calm (removedFunction g) := by
  unfold removedFunction
  refine calm_objectName.discard.bind fun _ => (calm_symbol? "(").bind fun _ => ?_
  refine Calm.ite ((calm_symbol? ")").bind fun closed => Calm.ite ?_ (calm_pure ())) (calm_pure ())
  exact (calm_removedArgument hg).commaList.discard.bind fun _ => calm_symbol ")"

@[grind ←] theorem calm_removal (hg : g.Calm) : Calm (removal g) := by
  unfold removal
  refine (calm_keyword? "TEMPORARY").discard.bind fun _ => (calm_anyKeyword _).bind fun kind => ?_
  grind

@[grind ←] theorem calm_alteration (hg : g.Calm) : Calm (alteration g) := by
  unfold alteration
  refine (calm_anyKeyword _).bind fun kind => ?_
  split
  · refine calm_ifExists.bind fun _ => (calm_keyword? "ONLY").discard.bind fun _ => ?_
    exact calm_objectName.discard.bind fun _ => (calm_tableChange hg).commaList.discard
  · exact calm_viewDefinition hg false
  · refine calm_objectName.discard.bind fun _ => (calm_keywords _).bind fun _ => ?_
    exact calm_objectName.discard

end ScopedQuery.Sql
