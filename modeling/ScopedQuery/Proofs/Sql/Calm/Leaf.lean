import ScopedQuery.Proofs.Sql.Calm.Basic
/-!
# Calm readers of names and types

The readers of what holds no expression are calm: names, aliases and literals, and the names of types.
-/

namespace ScopedQuery.Sql

open Parsing

/-! ### Names and aliases -/

@[grind ←] theorem calm_ident : Calm ident := by
  unfold ident
  refine calm_next.bind fun t => ?_
  split
  · exact calm_pure _
  · exact calm_pure _
  · exact calm_pure _
  · exact calm_failure

@[grind ←] theorem calm_namePart : Calm namePart := by
  unfold namePart
  refine calm_next.bind fun t => ?_
  split
  · exact calm_pure _
  · exact calm_pure _
  · exact calm_failure

@[grind ←] theorem calm_objectName : Calm objectName := calm_ident.separated "."

@[grind ←] theorem calm_columnNames : Calm columnNames := calm_ident.commaList.parenthesised

@[grind ←] theorem calm_columnNames? : Calm columnNames? := by
  unfold columnNames?
  exact (calm_atSymbol "(").bind fun _ => calm_columnNames.ite (calm_pure [])

@[grind ←] theorem calm_anyColumnNames? : Calm anyColumnNames? := by
  unfold anyColumnNames?
  refine (calm_atSymbol "(").bind fun _ => calm_peekSecond.bind fun t => ?_
  exact (calm_pure []).parenthesised.ite calm_columnNames?

@[grind ←] theorem calm_asName? (reserved : List String) : Calm (asName? reserved) := by
  unfold asName?
  refine (calm_keyword? "AS").bind fun _ => Calm.ite (calm_ident.bind fun _ => calm_pure _) ?_
  refine calm_peek.bind fun t => ?_
  split
  · exact (calm_pure none).ite (calm_ident.bind fun _ => calm_pure _)
  · exact calm_ident.bind fun _ => calm_pure _
  · exact calm_ident.bind fun _ => calm_pure _
  · exact calm_pure none

@[grind ←] theorem calm_tableAlias? : Calm tableAlias? := by
  unfold tableAlias?
  refine (calm_asName? _).bind fun name => ?_
  split
  · exact calm_columnNames?.bind fun _ => calm_pure _
  · exact calm_pure none

/-! ### Literals -/

@[grind ←] theorem calm_plainText : Calm plainText := by
  unfold plainText
  refine calm_next.bind fun t => ?_
  split
  · exact calm_pure _
  · exact calm_pure _
  · exact calm_pure _
  · exact calm_failure

@[grind ←] theorem calm_plainChar : Calm plainChar :=
  calm_plainText.bind fun _ => (calm_guard _).bind fun _ => calm_pure _

@[grind ←] theorem calm_singleQuoted : Calm singleQuoted := by
  unfold singleQuoted
  refine calm_next.bind fun t => ?_
  split
  · exact calm_pure _
  · exact calm_failure

@[grind ←] theorem calm_anyWord : Calm anyWord := by
  unfold anyWord
  refine calm_next.bind fun t => ?_
  split
  · exact calm_pure _
  · exact calm_failure

@[grind ←] theorem calm_placeholder (mark : String) : Calm (literal.placeholder mark) := by
  unfold literal.placeholder
  refine calm_next.bind fun t => ?_
  split
  · exact calm_pure _
  · exact calm_pure _
  · exact calm_failure

@[grind ←] theorem calm_literal : Calm literal := by
  unfold literal
  refine calm_next.bind fun t => ?_
  split
  case h_7 => exact calm_placeholder ":"
  case h_8 => exact calm_placeholder "@"
  case h_9 => exact calm_failure
  all_goals exact calm_pure _

@[grind ←] theorem calm_numberLiteral : Calm numberLiteral := by
  unfold numberLiteral
  refine calm_literal.bind fun value => ?_
  split
  · exact calm_pure _
  · exact calm_pure _
  · exact calm_failure

@[grind ←] theorem calm_unsigned : Calm unsigned := by
  unfold unsigned
  refine calm_next.bind fun t => ?_
  split
  · split
    · exact calm_pure _
    · exact calm_failure
  · exact calm_failure

@[grind ←] theorem calm_precision? : Calm precision? := by
  unfold precision?
  refine (calm_atSymbol "(").bind fun _ => Calm.ite ?_ (calm_pure none)
  exact calm_unsigned.parenthesised.bind fun _ => calm_pure _

@[grind ←] theorem calm_precisions? : Calm precisions? := by
  unfold precisions?
  grind

@[grind ←] theorem calm_fileFormat : Calm fileFormat := calm_anyKeyword _

@[grind ←] theorem calm_timeField : Calm timeField := calm_anyKeyword _

/-! ### Type names -/

@[grind ←] theorem calm_sized (word : String) : Calm (sized word) :=
  calm_precision?.bind fun _ => calm_pure _

@[grind ←] theorem calm_integerType (word : String) : Calm (integerType word) := by
  unfold integerType
  exact calm_precision?.bind fun _ => (calm_keyword? "UNSIGNED").bind fun _ => calm_pure _

@[grind ←] theorem calm_lengthy (word : String) : Calm (lengthy word) := by
  unfold lengthy
  grind

@[grind ←] theorem calm_characterType (word : String) : Calm (characterType word) := by
  unfold characterType
  refine (calm_keyword? "VARYING").bind fun _ => (calm_lengthy _).ite ?_
  exact (calm_keywords? _).bind fun _ => (calm_sized _).ite (calm_lengthy _)

@[grind ←] theorem calm_exactType (word : String) : Calm (exactType word) :=
  calm_precisions?.bind fun _ => calm_pure _

@[grind ←] theorem calm_zonedType (word : String) : Calm (zonedType word) := by
  unfold zonedType
  refine (calm_sized word).bind fun start => (calm_keyword? "WITH").bind fun _ => ?_
  refine Calm.ite ((calm_keywords _).bind fun _ => calm_pure _) ?_
  refine (calm_keyword? "WITHOUT").bind fun _ => ?_
  exact Calm.ite ((calm_keywords _).bind fun _ => calm_pure _) (calm_pure _)

@[grind ←] theorem calm_listedType (word : String) : Calm (listedType word) :=
  calm_singleQuoted.commaList.parenthesised.bind fun _ => calm_pure _

@[grind ←] theorem calm_typeModifier? : Calm typeModifier? := by
  unfold typeModifier?
  grind

@[grind ←] theorem calm_customType : Calm customType := by
  unfold customType
  refine calm_objectName.bind fun name => (calm_symbol? "(").bind fun _ => ?_
  exact Calm.ite (calm_typeModifier?.repeated.bind fun _ => calm_pure _) (calm_pure _)

/-- By induction on the types that can still be nested. A custom type is read from the tokens in front of
its first word, which are harmless as well. -/
@[grind ←] theorem calm_nestedTypeName (fuel : Nat) : Calm (nestedTypeName fuel) := by
  induction fuel with
  | zero => exact calm_failure
  | succ fuel ih =>
    unfold nestedTypeName
    refine calm_get_bind fun start hstart => calm_next.bind fun t => ?_
    split
    · -- Behind each type there can be brackets.
      extract_lets brackets
      have hbrackets : ∀ r, Calm (brackets r) := by grind
      clear_value brackets
      have hstandard : ∀ {read : Parsing String}, Calm read →
          Calm ((do return (.standard (← read), false)) >>= brackets) :=
        fun h => (h.bind fun _ => calm_pure _).bind hbrackets
      refine Calm.ite ((calm_pure _).bind hbrackets) ?_
      refine (hstandard (calm_sized _)).ite ?_
      refine (hstandard (calm_integerType _)).ite ?_
      refine (hstandard (calm_exactType _)).ite ?_
      refine (hstandard ((calm_keyword? "PRECISION").bind fun _ => calm_pure _)).ite ?_
      refine (hstandard (calm_lengthy _)).ite ?_
      refine (hstandard (calm_characterType _)).ite ?_
      refine (hstandard (calm_zonedType _)).ite ?_
      refine (hstandard (calm_sized _)).ite ?_
      refine (hstandard (calm_listedType _)).ite ?_
      refine Calm.ite ((calm_pure _).bind hbrackets) (Calm.ite ?_ ?_)
      · refine (calm_symbol "<").bind fun _ => ih.bind fun inner => ?_
        grind
      · exact (calm_set hstart).bind fun _ => calm_customType.bind fun _ => (calm_pure _).bind hbrackets
    · refine (calm_set hstart).bind fun _ => calm_customType.bind fun name => ?_
      grind
    · exact calm_failure

@[grind ←] theorem calm_typeName : Calm typeName := by
  unfold typeName
  grind

end ScopedQuery.Sql
