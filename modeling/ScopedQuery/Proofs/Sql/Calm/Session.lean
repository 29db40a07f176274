import ScopedQuery.Proofs.Sql.Calm.Definition
/-!
# Calm readers of statements about a session

The readers of rights, transactions, settings, cursors, locks and copied rows are calm if those of the
level below are.
-/

namespace ScopedQuery.Sql

open Parsing

variable {g : Grammar}

/-! ### Rights and transactions -/

@[grind ←] theorem calm_permission : Calm permission := by
  unfold permission
  exact (calm_anyKeyword _).bind fun word => calm_columnNames?.discard.ite (calm_pure ())

@[grind ←] theorem calm_permissions : Calm permissions := by
  unfold permissions
  grind

@[grind ←] theorem calm_grantor? : Calm grantor? := by
  unfold grantor?
  exact calm_keywords?_bind (by decide) ["BY"] (calm_pure ())

@[grind ←] theorem calm_granting : Calm granting := by
  unfold granting
  refine calm_permissions.bind fun _ => (calm_keyword "TO").bind fun _ => ?_
  refine calm_ident.commaList.discard.bind fun _ => (calm_keywords? _).discard.bind fun _ => ?_
  exact calm_grantor?

@[grind ←] theorem calm_revoking : Calm revoking := by
  unfold revoking
  refine calm_permissions.bind fun _ => (calm_keyword "FROM").bind fun _ => ?_
  refine calm_ident.commaList.discard.bind fun _ => calm_grantor?.bind fun _ => ?_
  exact (calm_anyKeyword? _).discard

@[grind ←] theorem calm_transactionMode? : Calm transactionMode? := calm_anyPhrase? _

/-- The mode behind a comma is read from tokens that are put back: these are harmless as well. -/
@[grind ←] theorem calm_transactionModes : Calm transactionModes := by
  refine (Calm.repeated (calm_transactionMode?.bind fun mode => ?_)).discard
  split
  · exact calm_pure none
  · refine (calm_symbol? ",").bind fun comma => ?_
    refine Calm.ite (calm_get_bind fun start hstart => ?_) (calm_pure _)
    grind

@[grind ←] theorem calm_transactionEnd : Calm transactionEnd := by
  unfold transactionEnd
  refine (calm_anyKeyword? _).discard.bind fun _ => (calm_keyword? "AND").bind fun _ => ?_
  refine Calm.ite ?_ (calm_pure ())
  exact (calm_keyword? "NO").discard.bind fun _ => calm_keyword "CHAIN"

@[grind ←] theorem calm_rollback : Calm rollback := by
  unfold rollback
  refine calm_transactionEnd.bind fun _ => (calm_keyword? "TO").bind fun _ => Calm.ite ?_ (calm_pure ())
  exact (calm_keyword? "SAVEPOINT").discard.bind fun _ => calm_ident.discard

/-! ### Settings -/

@[grind ←] theorem calm_shownFilter (hg : g.Calm) : Calm (shownFilter g) := by
  unfold shownFilter
  refine (calm_anyKeyword? _).bind fun word => calm_plainText.discard.ite ?_
  exact (hg.expr.behind? "WHERE").discard

@[grind ←] theorem calm_shownPlace? : Calm shownPlace? := by
  unfold shownPlace?
  exact (calm_anyKeyword? _).bind fun word => calm_ident.discard.ite (calm_pure ())

theorem fromEquals_subset (ts : List Token) : fromEquals ts ⊆ ts := List.dropWhile_subset _

@[grind ←] theorem calm_showing (hg : g.Calm) : Calm (showing g) := by
  have hvariable : Calm (get >>= fun ts => set (fromEquals ts) : Parsing PUnit) :=
    calm_get_bind fun ts hts => calm_set (hts.of_subset (fromEquals_subset ts))
  unfold showing
  refine (calm_keyword? "EXTENDED").bind fun extended => (calm_keyword? "FULL").bind fun full => ?_
  refine (calm_keyword? "SESSION").discard.bind fun _ => ?_
  refine (calm_keyword? "GLOBAL").discard.bind fun _ => (calm_anyKeyword? _).bind fun columns => ?_
  refine Calm.ite (by grind) ((calm_keyword? "TABLES").bind fun tables => ?_)
  refine Calm.ite (by grind) ((calm_keyword? "FUNCTIONS").bind fun functions => ?_)
  grind

@[grind ←] theorem calm_settingValue (hg : g.Calm) (name : String) (plain : Bool) :
    Calm (settingValue g name plain) := by
  unfold settingValue
  grind

@[grind ←] theorem calm_setting_name : Calm setting.name := by
  unfold setting.name
  refine (calm_keywords? _).bind fun zone => (calm_pure _).ite ?_
  exact calm_objectName.bind fun _ => calm_pure _

@[grind ←] theorem calm_setting (hg : g.Calm) : Calm (setting g) := by
  unfold setting
  grind

@[grind ←] theorem calm_pragma : Calm pragma := by
  unfold pragma
  refine calm_objectName.discard.bind fun _ => (calm_symbol? "(").bind fun _ => Calm.ite ?_ ?_
  · exact calm_numberLiteral.discard.bind fun _ => calm_symbol ")"
  · exact (calm_symbol? "=").bind fun _ => calm_numberLiteral.discard.ite (calm_pure ())

/-! ### Cursors and locks -/

@[grind ←] theorem calm_cursorDeclaration (hg : g.Calm) : Calm (cursorDeclaration g) := by
  unfold cursorDeclaration
  refine calm_ident.discard.bind fun _ => (calm_keyword? "BINARY").discard.bind fun _ => ?_
  refine (calm_anyKeyword? _).discard.bind fun _ => (calm_anyPhrase? _).discard.bind fun _ => ?_
  grind

@[grind ←] theorem calm_cursorFetch : Calm cursorFetch := by
  unfold cursorFetch
  refine (calm_anyKeyword? _).bind fun direction => ?_
  grind

@[grind ←] theorem calm_tableLock : Calm tableLock := by
  unfold tableLock
  refine calm_ident.discard.bind fun _ => (calm_asName? _).discard.bind fun _ => ?_
  refine (calm_keyword? "READ").bind fun _ => (calm_keyword? "LOCAL").discard.ite ?_
  exact (calm_keyword? "LOW_PRIORITY").discard.bind fun _ => calm_keyword "WRITE"

@[grind ←] theorem calm_keptTable (hg : g.Calm) : Calm (keptTable g) := by
  unfold keptTable
  refine (calm_keyword "TABLE").bind fun _ => calm_objectName.discard.bind fun _ => ?_
  refine (calm_optionsBehind "OPTIONS").bind fun _ => ?_
  grind

@[grind ←] theorem calm_caching (hg : g.Calm) : Calm (caching g) := by
  unfold caching
  grind

/-! ### Rows to and from files -/

@[grind ←] theorem calm_copyOption : Calm copyOption := by
  unfold copyOption
  grind

@[grind ←] theorem calm_copyFormatOption : Calm copyFormatOption := by
  unfold copyFormatOption
  grind

@[grind ←] theorem calm_copyLooseOption : Calm copyLooseOption := by
  unfold copyLooseOption
  grind

theorem afterRows_subset (ts : List Token) : afterRows ts ⊆ ts := by
  fun_induction afterRows ts with
  | case1 => exact List.Subset.refl _
  | case2 rest => grind
  | case3 t rest _ ih => grind
  | case4 t rest _ _ ih => grind

@[grind ←] theorem calm_copying (hg : g.Calm) : Calm (copying g) := by
  have hafter : Calm (modify afterRows : Parsing PUnit) := calm_modify afterRows_subset
  unfold copying
  refine (calm_symbol? "(").bind fun ofQuery => ?_
  extract_lets place
  have hplace : ∀ r, Calm (place r) := by
    intro r
    refine (calm_anyKeyword _).bind fun direction => (calm_guard _).bind fun _ => ?_
    refine (calm_anyKeyword? _).bind fun place => ?_
    extract_lets rows options
    have hrows : ∀ r, Calm (rows r) := by grind
    clear_value rows
    have hoptions : ∀ r, Calm (options r) := by grind
    clear_value options
    grind
  clear_value place
  grind

end ScopedQuery.Sql
