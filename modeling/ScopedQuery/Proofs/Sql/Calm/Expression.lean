import ScopedQuery.Proofs.Sql.Calm.Leaf
/-!
# Calm readers of expressions

The readers of expressions are calm if those of the level below are. The reader of an operator crashes
behind `DIV` alone, and that keyword is not there to be read.
-/

namespace ScopedQuery.Sql

open Parsing

variable {g : Grammar}

/-! ### Parts of expressions -/

@[grind ←] theorem calm_distinctness (hg : g.Calm) : Calm (distinctness g) := by
  unfold distinctness
  refine (calm_keyword? "ALL").bind fun all => ?_
  grind

@[grind ←] theorem calm_orderKey (hg : g.Calm) : Calm (orderKey g) := by
  unfold orderKey
  grind

@[grind ←] theorem calm_orderPhrase (hg : g.Calm) : Calm (orderPhrase g) := by
  unfold orderPhrase
  refine (calm_orderKey hg).bind fun key => ?_
  cases key
  exact calm_pure _

@[grind ←] theorem calm_starBehind? (fuel : Nat) (parts : ObjectName) :
    Calm (starBehind? fuel parts) := by
  induction fuel generalizing parts with
  | zero => exact calm_failure
  | succ fuel ih =>
    unfold starBehind?
    refine (calm_symbol? ".").bind fun _ => Calm.ite ?_ (calm_pure none)
    refine (calm_symbol? "*").bind fun _ => (calm_pure _).ite ?_
    exact calm_namePart.bind fun part => ih _

@[grind ←] theorem calm_qualified : Calm star?.qualified := by
  unfold star?.qualified
  refine calm_get_bind fun start hstart => calm_namePart.bind fun part => ?_
  refine (calm_starBehind? _ _).bind fun parts => ?_
  split
  · exact calm_pure _
  · exact (calm_set hstart).bind fun _ => calm_pure none

@[grind ←] theorem calm_star? : Calm star? := by
  unfold star?
  refine (calm_symbol? "*").bind fun star => (calm_pure _).ite ?_
  refine calm_peek.bind fun t => calm_peekSecond.bind fun u => ?_
  split
  · exact calm_qualified
  · exact calm_qualified
  · exact calm_pure none

@[grind ←] theorem calm_starOrExpr (hg : g.Calm) (label : Option Ident) :
    Calm (starOrExpr g label) := by
  unfold starOrExpr
  refine calm_star?.bind fun qualifier => ?_
  split
  · exact calm_pure _
  · exact hg.expr.bind fun _ => calm_pure _

@[grind ←] theorem calm_selectItem (hg : g.Calm) : Calm (selectItem g) := by
  unfold selectItem
  refine (calm_starOrExpr hg none).bind fun item => ?_
  split
  · exact (calm_asName? _).bind fun _ => calm_pure _
  · exact calm_pure _

@[grind ←] theorem calm_argument (hg : g.Calm) : Calm (argument g) := by
  unfold argument
  refine calm_peekSecond.bind fun t => Calm.ite ?_ (calm_starOrExpr hg none)
  exact calm_ident.bind fun name => (calm_symbol "=>").bind fun _ => calm_starOrExpr hg (some name)

@[grind ←] theorem calm_argumentsToEnd (hg : g.Calm) : Calm (argumentsToEnd g) := by
  unfold argumentsToEnd
  refine (calm_symbol? ")").bind fun close => (calm_pure _).ite ?_
  exact (calm_argument hg).commaList.bind fun _ => (calm_symbol ")").bind fun _ => calm_pure _

@[grind ←] theorem calm_orderedArgumentsToEnd (hg : g.Calm) : Calm (orderedArgumentsToEnd g) := by
  unfold orderedArgumentsToEnd
  refine (calm_symbol? ")").bind fun close => (calm_pure _).ite ?_
  refine (calm_argument hg).commaList.bind fun args => ?_
  refine ((calm_orderPhrase hg).listBehind _).bind fun orderBy => ?_
  exact (calm_symbol ")").bind fun _ => calm_pure _

/-! ### Intervals, windows and calls -/

@[grind ←] theorem calm_interval (hg : g.Calm) : Calm (interval g) := by
  unfold interval
  refine (hg.tight false 0).bind fun value => (calm_anyKeyword? _).bind fun unit => ?_
  grind

@[grind ←] theorem calm_frameBound (hg : g.Calm) : Calm (frameBound g) := by
  unfold frameBound
  refine (calm_keywords? _).bind fun current => ?_
  grind

@[grind ←] theorem calm_frame (hg : g.Calm) : Calm (frame g) := by
  unfold frame
  refine (calm_anyKeyword _).bind fun units => (calm_keyword? "BETWEEN").bind fun between => ?_
  refine Calm.ite ?_ ((calm_frameBound hg).bind fun _ => calm_pure _)
  refine (calm_frameBound hg).bind fun first => (calm_keyword "AND").bind fun _ => ?_
  exact (calm_frameBound hg).bind fun _ => calm_pure _

@[grind ←] theorem calm_windowToEnd (hg : g.Calm) : Calm (windowToEnd g) := by
  unfold windowToEnd
  refine (hg.expr.listBehind _).bind fun partitions => ?_
  refine ((calm_orderPhrase hg).listBehind _).bind fun order => ?_
  refine (calm_symbol? ")").bind fun close => Calm.ite (calm_pure _) ?_
  exact (calm_frame hg).bind fun frame => (calm_symbol ")").bind fun _ => calm_pure _

@[grind ←] theorem calm_call (hg : g.Calm) (name : ObjectName) : Calm (call g name) := by
  unfold call
  refine (calm_symbol "(").bind fun _ => (calm_distinctness hg).bind fun distinct => ?_
  refine (calm_orderedArgumentsToEnd hg).bind fun args => ?_
  refine (calm_anyKeyword? _).bind fun treatment => ?_
  split
  all_goals grind

@[grind ←] theorem calm_clock (hg : g.Calm) (name : Ident) : Calm (clock g name) := by
  unfold clock
  refine (calm_symbol? "(").bind fun _ => Calm.ite ?_ (calm_pure _)
  exact (calm_orderedArgumentsToEnd hg).bind fun _ => calm_pure _

/-! ### Expressions that start with a keyword -/

@[grind ←] theorem calm_caseBranches (hg : g.Calm) (fuel : Nat) : Calm (caseBranches g fuel) := by
  induction fuel with
  | zero => exact calm_failure
  | succ fuel ih =>
    unfold caseBranches
    refine hg.expr.bind fun condition => (calm_keyword "THEN").bind fun _ => ?_
    refine hg.expr.bind fun result => (calm_keyword? "WHEN").bind fun _ => ?_
    exact Calm.ite (ih.bind fun _ => calm_pure _) (calm_pure _)

@[grind ←] theorem calm_caseExpr (hg : g.Calm) : Calm (caseExpr g) := by
  unfold caseExpr
  refine (calm_keyword? "WHEN").bind fun plain => ?_
  grind

@[grind ←] theorem calm_convertExpr (hg : g.Calm) : Calm (convertExpr g) := by
  refine Calm.parenthesised (hg.expr.bind fun value => (calm_keyword? "USING").bind fun charset => ?_)
  grind

@[grind ←] theorem calm_castExpr (hg : g.Calm) (form : CastForm) : Calm (castExpr g form) := by
  refine Calm.parenthesised (hg.expr.bind fun value => (calm_keyword "AS").bind fun _ => ?_)
  refine Calm.bind calm_typeName fun type => (calm_keyword? "FORMAT").bind fun format => ?_
  grind

@[grind ←] theorem calm_existsExpr (hg : g.Calm) (negated : Bool) : Calm (existsExpr g negated) :=
  hg.query.parenthesised.bind fun _ => calm_pure _

@[grind ←] theorem calm_extractExpr (hg : g.Calm) : Calm (extractExpr g) := by
  refine Calm.parenthesised (calm_timeField.bind fun field => (calm_keyword "FROM").bind fun _ => ?_)
  exact hg.expr.bind fun _ => calm_pure _

@[grind ←] theorem calm_roundingExpr (hg : g.Calm) (word : String) : Calm (roundingExpr g word) := by
  refine Calm.parenthesised (hg.expr.bind fun value => ?_)
  exact (calm_timeField.behind? "TO").bind fun _ => calm_pure _

@[grind ←] theorem calm_positionExpr (hg : g.Calm) : Calm (positionExpr g) := by
  refine Calm.parenthesised ((hg.tight true 20).bind fun part => (calm_keyword "IN").bind fun _ => ?_)
  exact hg.expr.bind fun _ => calm_pure _

@[grind ←] theorem calm_substringExpr (hg : g.Calm) : Calm (substringExpr g) := by
  refine Calm.parenthesised (hg.expr.bind fun value => (calm_symbol? ",").bind fun comma => ?_)
  grind

@[grind ←] theorem calm_overlayExpr (hg : g.Calm) : Calm (overlayExpr g) := by
  refine Calm.parenthesised (hg.expr.bind fun value => (calm_keyword "PLACING").bind fun _ => ?_)
  refine hg.expr.bind fun part => (calm_keyword "FROM").bind fun _ => hg.expr.bind fun start => ?_
  exact (hg.expr.behind? "FOR").bind fun _ => calm_pure _

@[grind ←] theorem calm_trimExpr (hg : g.Calm) : Calm (trimExpr g) := by
  unfold trimExpr
  grind

@[grind ←] theorem calm_overflow (hg : g.Calm) : Calm (overflow g) := by
  unfold overflow
  refine (calm_keyword? "ERROR").bind fun error => (calm_pure _).ite ?_
  refine (calm_keyword "TRUNCATE").bind fun _ => calm_peek.bind fun t => ?_
  grind

@[grind ←] theorem calm_listAggExpr (hg : g.Calm) : Calm (listAggExpr g) := by
  have hgroup : Calm (parenthesised do
      keywords ["ORDER", "BY"]
      commaList (orderPhrase g)) :=
    Calm.parenthesised ((calm_keywords _).bind fun _ => (calm_orderPhrase hg).commaList)
  unfold listAggExpr
  refine (calm_symbol "(").bind fun _ => (calm_distinctness hg).bind fun distinct => ?_
  refine hg.expr.bind fun value => (calm_symbol? ",").bind fun comma => ?_
  extract_lets rest
  have hrest : ∀ separator, Calm (rest separator) := by
    intro separator
    refine (calm_keywords? _).bind fun long => ?_
    grind
  clear_value rest
  grind

@[grind ←] theorem calm_limitBound (hg : g.Calm) : Calm (limitBound g) := by
  unfold limitBound
  refine (calm_keyword? "ALL").bind fun _ => (calm_pure none).ite ?_
  exact hg.expr.bind fun _ => calm_pure _

@[grind ←] theorem calm_arrayAggExpr (hg : g.Calm) : Calm (arrayAggExpr g) := by
  unfold arrayAggExpr
  grind

@[grind ←] theorem calm_arrayToEnd (hg : g.Calm) (word : String) : Calm (arrayToEnd g word) := by
  unfold arrayToEnd
  grind

@[grind ←] theorem calm_matchExpr : Calm matchExpr := by
  unfold matchExpr
  grind

@[grind ←] theorem calm_notExpr (hg : g.Calm) : Calm (notExpr g) := by
  unfold notExpr
  refine (calm_keyword? "EXISTS").bind fun _ => (calm_existsExpr hg true).ite ?_
  exact (hg.tight true 15).bind fun _ => calm_pure _

@[grind ←] theorem calm_nameParts (fuel : Nat) (parts : ObjectName) :
    Calm (nameParts fuel parts) := by
  induction fuel generalizing parts with
  | zero => exact calm_failure
  | succ fuel ih =>
    unfold nameParts
    refine (calm_symbol? ".").bind fun _ => Calm.ite ?_ (calm_pure parts)
    exact calm_namePart.bind fun part => ih _

@[grind ←] theorem calm_named (hg : g.Calm) (first : Ident) : Calm (named g first) := by
  unfold named
  refine calm_peek.bind fun t => ?_
  split
  · exact calm_call hg [first]
  · refine calm_get.bind fun ts => (calm_nameParts _ _).bind fun parts => ?_
    exact (calm_atSymbol "(").bind fun _ => (calm_call hg parts).ite (calm_pure _)
  · exact Calm.ite (calm_next.bind fun _ => calm_pure _) (calm_pure _)
  · exact calm_pure _

@[grind ←] theorem calm_startingWithWord (hg : g.Calm) (first : Ident) (keyword : Option String) :
    Calm (startingWithWord g first keyword) := by
  unfold startingWithWord
  split
  · exact calm_pure _
  · exact calm_pure _
  · exact calm_pure _
  · exact calm_caseExpr hg
  · exact calm_convertExpr hg
  · exact calm_castExpr hg .cast
  · exact calm_castExpr hg .tryCast
  · exact calm_castExpr hg .safeCast
  · exact calm_existsExpr hg false
  · exact calm_extractExpr hg
  · exact calm_roundingExpr hg "CEIL"
  · exact calm_roundingExpr hg "FLOOR"
  · exact calm_substringExpr hg
  · exact calm_overlayExpr hg
  · exact calm_trimExpr hg
  · exact calm_interval hg
  · exact calm_listAggExpr hg
  · exact calm_arrayAggExpr hg
  · exact calm_notExpr hg
  · exact calm_matchExpr
  · refine (calm_clock hg first).ite ?_
    refine (calm_atSymbol "(").bind fun _ => (calm_positionExpr hg).ite ?_
    refine (calm_atSymbol "[").bind fun _ => Calm.ite ?_ ?_
    · exact (calm_symbol "[").bind fun _ => calm_arrayToEnd hg "ARRAY"
    · refine (calm_atSymbol "(").bind fun _ => Calm.ite ?_ (calm_named hg first)
      exact hg.query.parenthesised.bind fun _ => calm_pure _
  · exact calm_named hg first

/-! ### Operands -/

@[grind ←] theorem calm_typedLiteral (hg : g.Calm) : Calm (typedLiteral g) := by
  unfold typedLiteral
  refine Calm.bind calm_typeName fun type => ?_
  split
  · exact calm_interval hg
  · exact calm_failure
  · exact calm_plainText.bind fun _ => calm_pure _

@[grind ←] theorem calm_parenthesisToEnd (hg : g.Calm) : Calm (parenthesisToEnd g) := by
  unfold parenthesisToEnd
  refine (calm_atKeyword _).bind fun query => ?_
  extract_lets rest
  have hrest : ∀ inner, Calm (rest inner) := by grind
  clear_value rest
  grind

@[grind ←] theorem calm_plainOperand (hg : g.Calm) : Calm (plainOperand g) := by
  unfold plainOperand
  refine calm_get_bind fun start hstart => calm_next.bind fun t => ?_
  split
  · exact calm_startingWithWord hg _ _
  · exact calm_arrayToEnd hg ""
  · exact (hg.tight true 40).bind fun _ => calm_pure _
  · exact (hg.tight true 40).bind fun _ => calm_pure _
  · exact calm_parenthesisToEnd hg
  · exact calm_failure
  · exact (calm_set hstart).bind fun _ => calm_literal.bind fun _ => calm_pure _

@[grind ←] theorem calm_operand (hg : g.Calm) : Calm (operand g) := by
  unfold operand
  refine (calm_typedLiteral hg).maybe.bind fun typed => ?_
  split
  · exact calm_pure _
  · refine (calm_plainOperand hg).bind fun value => (calm_keyword? "COLLATE").bind fun _ => ?_
    exact Calm.ite (calm_objectName.bind fun _ => calm_pure _) (calm_pure value)

/-! ### Operators -/

@[grind ←] theorem calm_isTest (hg : g.Calm) (left : Expr) : Calm (isTest g left) := by
  unfold isTest
  refine (calm_anyPhrase? _).bind fun test => ?_
  split
  · exact calm_pure _
  · refine (calm_anyPhrase? _).bind fun comparison => ?_
    split
    · exact hg.expr.bind fun _ => calm_pure _
    · exact calm_failure

@[grind ←] theorem calm_membership (hg : g.Calm) (negated : Bool) (left : Expr) :
    Calm (membership g negated left) := by
  unfold membership
  refine (calm_keyword? "UNNEST").bind fun _ => Calm.ite ?_ ?_
  · exact hg.expr.parenthesised.bind fun _ => calm_pure _
  · refine Calm.parenthesised ((calm_atKeyword _).bind fun _ => ?_)
    exact Calm.ite (hg.query.bind fun _ => calm_pure _) (hg.expr.commaList.bind fun _ => calm_pure _)

@[grind ←] theorem calm_escapeChar? : Calm escapeChar? := by
  unfold escapeChar?
  refine (calm_keyword? "ESCAPE").bind fun _ => Calm.ite ?_ (calm_pure "")
  exact calm_plainChar.bind fun _ => calm_pure _

@[grind ←] theorem calm_patternTest (hg : g.Calm) (negated : Bool) (word : String) (left : Expr) :
    Calm (patternTest g negated word left) := by
  unfold patternTest
  exact (hg.tight true 19).bind fun pattern => calm_escapeChar?.bind fun _ => calm_pure _

@[grind ←] theorem calm_negatableTest (hg : g.Calm) (left : Expr) : Calm (negatableTest g left) := by
  unfold negatableTest
  refine (calm_keyword? "NOT").bind fun negated => ?_
  refine (calm_keyword? "REGEXP").bind fun regexp => (calm_keyword? "RLIKE").bind fun rlike => ?_
  refine Calm.ite ((hg.tight true 19).bind fun _ => calm_pure _) ?_
  refine (calm_keyword? "IN").bind fun _ => (calm_membership hg negated left).ite ?_
  refine (calm_keyword? "BETWEEN").bind fun _ => Calm.ite ?_ ?_
  · refine (hg.tight true 20).bind fun low => (calm_keyword "AND").bind fun _ => ?_
    exact (hg.tight true 20).bind fun _ => calm_pure _
  refine (calm_keyword? "LIKE").bind fun _ => (calm_patternTest hg negated "LIKE" left).ite ?_
  refine (calm_keyword? "ILIKE").bind fun _ => (calm_patternTest hg negated "ILIKE" left).ite ?_
  exact (calm_keywords _).bind fun _ => calm_patternTest hg negated "SIMILAR TO" left

@[grind ←] theorem calm_mapKey (hg : g.Calm) : Calm (mapKey g) := by
  unfold mapKey
  grind

@[grind ←] theorem calm_mapAccess (hg : g.Calm) (left : Expr) : Calm (mapAccess g left) := by
  have hkey : Calm (do if ← symbol? "[" then return some (← mapKey g) else return none) :=
    (calm_symbol? "[").bind fun _ => Calm.ite ((calm_mapKey hg).bind fun _ => calm_pure _) (calm_pure none)
  unfold mapAccess
  refine (calm_mapKey hg).bind fun first => hkey.repeated.bind fun others => ?_
  split
  · exact calm_pure _
  · exact calm_pure left

@[grind ←] theorem calm_continuation (hg : g.Calm) (power : Nat) (left : Expr) :
    Calm (continuation g power left) := by
  unfold continuation
  refine calm_keyword?_bind (by decide) ?_
  refine calm_get_bind fun start hstart => calm_next.bind fun token => ?_
  split
  · refine (calm_anyKeyword? _).bind fun word => ?_
    split
    · refine (hg.tight true power).parenthesised.bind fun right => ?_
      exact (calm_guard _).bind fun _ => calm_pure _
    · exact (hg.tight true power).bind fun _ => calm_pure _
  · split
    · exact calm_isTest hg left
    · refine (calm_keywords _).bind fun _ => calm_next.bind fun zone => ?_
      split
      · exact calm_pure _
      · exact calm_failure
    · exact (calm_set hstart).bind fun _ => calm_negatableTest hg left
    · exact Calm.bind calm_typeName fun _ => calm_pure _
    · exact calm_pure _
    · exact calm_mapAccess hg left
    · exact calm_literal.bind fun _ => calm_pure _
    · split
      · exact hg.expr.bind fun _ => calm_pure _
      · exact calm_failure
    · exact calm_failure

/-! ### Whole expressions -/

@[grind ←] theorem calm_continuations (hg : g.Calm) (logic : Bool) (floor fuel : Nat) (left : Expr) :
    Calm (continuations g logic floor fuel left) := by
  induction fuel generalizing left with
  | zero => exact calm_failure
  | succ fuel ih =>
    unfold continuations
    grind

theorem calm_expressionAt (hg : g.Calm) (fuel : Nat) (logic : Bool) (floor : Nat) :
    Calm (expressionAt g fuel logic floor) := by
  induction fuel generalizing logic floor with
  | zero => exact calm_failure
  | succ fuel ih =>
    have hlevel : Grammar.Calm { g with tight := expressionAt g fuel } := { hg with tight := ih }
    unfold expressionAt
    grind

theorem calm_expression (hg : g.Calm) : Calm (expression g) :=
  calm_get.bind fun _ => calm_expressionAt hg _ true 0

end ScopedQuery.Sql
