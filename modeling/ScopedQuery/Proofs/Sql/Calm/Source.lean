import ScopedQuery.Proofs.Sql.Calm.Expression
/-!
# Calm readers of sources and of changes of rows

The readers of sources, joins, and `INSERT`, `UPDATE` and `DELETE` are calm if those of the level below
are.
-/

namespace ScopedQuery.Sql

open Parsing

variable {g : Grammar}

/-! ### Turned tables -/

@[grind ←] theorem calm_pivot (hg : g.Calm) (source : Source) : Calm (pivot g source) := by
  unfold pivot
  refine (calm_symbol "(").bind fun _ => calm_next.bind fun t => ?_
  extract_lets rest
  have hrest : ∀ function, Calm (rest function) := by
    intro function
    refine (calm_keyword "FOR").bind fun _ => calm_objectName.bind fun column => ?_
    grind
  clear_value rest
  grind

@[grind ←] theorem calm_unpivot (source : Source) : Calm (unpivot source) := by
  unfold unpivot
  refine (calm_symbol "(").bind fun _ => calm_ident.bind fun value => ?_
  refine (calm_keyword "FOR").bind fun _ => calm_ident.bind fun name => ?_
  refine (calm_keyword "IN").bind fun _ => calm_columnNames.bind fun columns => ?_
  exact (calm_symbol ")").bind fun _ => calm_tableAlias?.bind fun _ => calm_pure _

@[grind ←] theorem calm_turned (hg : g.Calm) (fuel : Nat) (source : Source) :
    Calm (turned g fuel source) := by
  induction fuel generalizing source with
  | zero => exact calm_failure
  | succ fuel ih =>
    unfold turned
    refine (calm_anyKeyword? _).bind fun word => ?_
    split
    · exact (calm_pivot hg source).bind ih
    · exact (calm_unpivot source).bind ih
    · exact calm_pure source

/-! ### Tables made of documents -/

@[grind ←] theorem calm_fallback : Calm fallback := by
  unfold fallback
  refine (calm_anyKeyword? _).bind fun action => ?_
  grind

@[grind ←] theorem calm_documentColumn : Calm documentColumn := by
  unfold documentColumn
  grind

@[grind ←] theorem calm_documentTable (hg : g.Calm) : Calm (documentTable g) := by
  unfold documentTable
  refine (calm_symbol "(").bind fun _ => hg.expr.bind fun document => ?_
  refine (calm_symbol ",").bind fun _ => calm_literal.bind fun path => ?_
  refine (calm_keyword "COLUMNS").bind fun _ => ?_
  refine calm_documentColumn.commaList.parenthesised.bind fun columns => ?_
  exact (calm_symbol ")").bind fun _ => calm_tableAlias?.bind fun _ => calm_pure _

/-! ### Sources -/

@[grind ←] theorem calm_derived (hg : g.Calm) (lateral : Bool) : Calm (derived g lateral) := by
  unfold derived
  refine hg.query.bind fun query => (calm_symbol ")").bind fun _ => ?_
  exact calm_tableAlias?.bind fun _ => calm_pure _

@[grind ←] theorem calm_lateralSource (hg : g.Calm) : Calm (lateralSource g) := by
  unfold lateralSource
  refine (calm_symbol? "(").bind fun _ => (calm_derived hg true).ite ?_
  refine calm_objectName.bind fun name => (calm_symbol "(").bind fun _ => ?_
  exact (calm_argumentsToEnd hg).bind fun args => calm_tableAlias?.bind fun _ => calm_pure _

@[grind ←] theorem calm_expressionTable (hg : g.Calm) : Calm (expressionTable g) := by
  unfold expressionTable
  exact hg.expr.parenthesised.bind fun value => calm_tableAlias?.bind fun _ => calm_pure _

@[grind ←] theorem calm_parenthesisedSource (hg : g.Calm) {joined : Parsing FromItem}
    (hjoined : Calm joined) : Calm (parenthesisedSource g joined) := by
  unfold parenthesisedSource
  refine (calm_derived hg false).maybe.bind fun source => ?_
  split
  · exact calm_get.bind fun _ => calm_turned hg _ _
  · refine hjoined.bind fun item => (calm_guard _).bind fun _ => (calm_symbol ")").bind fun _ => ?_
    exact calm_tableAlias?.bind fun _ => calm_pure _

@[grind ←] theorem calm_hints (hg : g.Calm) : Calm (hints g) := by
  unfold hints
  refine (calm_atKeyword _).bind fun _ => calm_peekSecond.bind fun t => Calm.ite ?_ (calm_pure [])
  exact (calm_keyword "WITH").bind fun _ => hg.expr.commaList.parenthesised

@[grind ←] theorem calm_tableSource (hg : g.Calm) : Calm (tableSource g) := by
  unfold tableSource
  refine calm_objectName.bind fun name => (calm_keyword? "PARTITION").bind fun parted => ?_
  grind

@[grind ←] theorem calm_source (hg : g.Calm) {joined : Parsing FromItem} (hjoined : Calm joined) :
    Calm (source g joined) := by
  unfold source
  refine (calm_keyword? "LATERAL").bind fun _ => (calm_lateralSource hg).ite ?_
  refine (calm_keyword? "TABLE").bind fun _ => (calm_expressionTable hg).ite ?_
  refine (calm_symbol? "(").bind fun _ => (calm_parenthesisedSource hg hjoined).ite ?_
  exact (calm_keyword? "JSON_TABLE").bind fun _ => (calm_documentTable hg).ite (calm_tableSource hg)

/-! ### Joins -/

@[grind ←] theorem calm_sided (outer semi anti : JoinKind) :
    Calm (joinKind?.sided outer semi anti) := by
  unfold joinKind?.sided
  grind

@[grind ←] theorem calm_joinKind? : Calm joinKind? := by
  unfold joinKind?
  refine (calm_keyword? "NATURAL").bind fun natural => calm_peekKeyword.bind fun word => ?_
  grind

@[grind ←] theorem calm_join? (hg : g.Calm) {joined : Parsing FromItem} (hjoined : Calm joined) :
    Calm (join? g joined) := by
  unfold join?
  refine (calm_keyword? "CROSS").bind fun cross => Calm.ite (by grind) ?_
  refine (calm_keyword? "OUTER").bind fun outer => Calm.ite (by grind) ?_
  grind

@[grind ←] theorem calm_fromItemUpTo (hg : g.Calm) (fuel : Nat) : Calm (fromItemUpTo g fuel) := by
  induction fuel with
  | zero => exact calm_failure
  | succ fuel ih =>
    unfold fromItemUpTo
    exact (calm_source hg ih).bind fun first => (calm_join? hg ih).repeated.bind fun _ => calm_pure _

@[grind ←] theorem calm_fromItem (hg : g.Calm) : Calm (fromItem g) :=
  calm_get.bind fun _ => calm_fromItemUpTo hg _

/-! ### Assignments and conditions -/

/-- What remains behind the names of an assignment is some of the tokens. -/
theorem assignmentTarget_subset (ts : List Token) : (assignmentTarget ts).2 ⊆ ts := by
  fun_induction assignmentTarget ts with
  | case1 => exact List.Subset.refl _
  | case2 rest => exact List.Subset.refl _
  | case3 text quote keyword rest names rest' h ih =>
    rw [h] at ih
    exact List.subset_cons_of_subset _ ih
  | case4 t rest hsymbol hword ih => exact List.subset_cons_of_subset _ ih

@[grind ←] theorem calm_assignment (hg : g.Calm) : Calm (assignment g) := by
  unfold assignment
  refine calm_get_bind fun ts hts => ?_
  refine (calm_set (hts.of_subset (assignmentTarget_subset ts))).bind fun _ => ?_
  exact (calm_symbol "=").bind fun _ => hg.expr.bind fun _ => calm_pure _

@[grind ←] theorem calm_condition? (hg : g.Calm) : Calm (condition? g) :=
  (hg.expr.behind? "WHERE").bind fun _ => calm_pure _

@[grind ←] theorem calm_returning? (hg : g.Calm) : Calm (returning? g) :=
  ((calm_selectItem hg).listBehind ["RETURNING"]).bind fun _ => calm_pure _

/-! ### Changes -/

@[grind ←] theorem calm_conflictTarget : Calm conflictTarget := by
  unfold conflictTarget
  refine (calm_keywords? _).bind fun _ => Calm.ite ?_ ?_
  · exact calm_objectName.bind fun _ => calm_pure _
  · exact calm_columnNames?.bind fun _ => calm_pure _

@[grind ←] theorem calm_conflictAction (hg : g.Calm) : Calm (conflictAction g) := by
  unfold conflictAction
  refine (calm_keyword? "CONFLICT").bind fun _ => Calm.ite ?_ ?_
  · refine calm_conflictTarget.bind fun target => (calm_keyword "DO").bind fun _ => ?_
    refine (calm_keyword? "NOTHING").bind fun _ => (calm_pure _).ite ?_
    refine (calm_keywords _).bind fun _ => (calm_assignment hg).commaList.bind fun assignments => ?_
    exact (calm_condition? hg).bind fun _ => calm_pure _
  · refine (calm_keywords _).bind fun _ => ?_
    exact (calm_assignment hg).commaList.bind fun _ => calm_pure _

@[grind ←] theorem calm_insertedRows (hg : g.Calm) : Calm (insertedRows g) := by
  unfold insertedRows
  grind

@[grind ←] theorem calm_insertion (hg : g.Calm) : Calm (insertion g) := by
  unfold insertion
  refine (calm_keyword? "IGNORE").bind fun ignore => (calm_anyKeyword? _).bind fun action => ?_
  refine (calm_keyword? "LOCAL").bind fun inLocal => ?_
  refine (calm_keyword? "DIRECTORY").bind fun directory => ?_
  grind

@[grind ←] theorem calm_modification (hg : g.Calm) : Calm (modification g) := by
  unfold modification
  refine (calm_fromItem hg).bind fun item => (calm_keyword "SET").bind fun _ => ?_
  refine (calm_assignment hg).commaList.bind fun assignments => (calm_keyword? "FROM").bind fun _ => ?_
  exact (calm_condition? hg).bind fun _ => (calm_returning? hg).bind fun _ => calm_pure _

@[grind ←] theorem calm_deletion (hg : g.Calm) : Calm (deletion g) := by
  unfold deletion
  refine (calm_keyword? "FROM").bind fun direct => ?_
  extract_lets rest
  have hrest : ∀ r, Calm (rest r) := by
    intro r
    refine (calm_fromItem hg).commaList.discard.bind fun _ => ?_
    grind
  clear_value rest
  grind

end ScopedQuery.Sql
