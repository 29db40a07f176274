import ScopedQuery.Plan.Json
import ScopedQuery.Proofs.Json.Filled
/-!
# What documents mean as plans

* `operandOf?`, `operandsOf?`: the operands that a document is.
* `Measure.slots`, `Dimension.slots`, `Filter.slots`, `Order.slots`, `slots`: what the members of the parts of
  a plan mean.
* `ofJson_isText`: what is read of a JSON text is what its document means.
* `exists_isText_of_ofJson`: a text that is read as a plan has a document.
-/

namespace ScopedQuery.Plan

open Json (Consumes Value Reader Fault Doc Slot Means Stops Spells)

variable {α σ : Type}

/-! ### Members -/

/-- The operand that a document is. -/
def operandOf? (d : Doc) : Option (Option String) := d.scalar?.bind fun v => (operandOf v).toOption

/-- The operands that a document is, without the absent ones. -/
def operandsOf? : Doc → Option (List String)
  | .null => some []
  | .array items => (items.mapM operandOf?).map (·.filterMap id)
  | _ => none

theorem toOption_check_scalar {d : Doc} {t rest : List Char} (ht : Spells d t) (hrest : Stops rest)
    (hlist : ∀ ds, d ≠ .array ds) (hobject : ∀ ms, d ≠ .object ms) (check : Value → Except Fault α)
    (levels : Nat) :
    ((do check (← Json.value (levels + 1)) : Json.Step α) (t ++ rest)).toOption =
      (d.scalar?.bind fun v => (check v).toOption).map fun a => (a, rest) := by
  rw [Json.toOption_check, Json.value_scalar ht hrest hlist hobject]
  cases d.scalar? <;> rfl

theorem means_operand : Means operand 0 operandOf? := by
  intro levels hlevels
  obtain ⟨levels, rfl⟩ := Nat.exists_eq_succ_of_ne_zero (Nat.ne_zero_of_lt hlevels)
  refine ⟨fun hw cs => by rw [operand, Json.bind_apply, Json.bind_apply, Json.value_gap hw],
    fun {d t rest} ht hrest => ?_⟩
  cases ht with
  | array _ =>
    refine Json.toOption_check_none fun v rest hv => ?_
    obtain ⟨items, rfl⟩ := Json.exists_of_value_bracket hv
    rfl
  | object _ =>
    refine Json.toOption_check_none fun v rest hv => ?_
    obtain ⟨members, rfl⟩ := Json.exists_of_value_brace hv
    rfl
  | null => exact toOption_check_scalar .null hrest nofun nofun operandOf levels
  | isTrue => exact toOption_check_scalar .isTrue hrest nofun nofun operandOf levels
  | isFalse => exact toOption_check_scalar .isFalse hrest nofun nofun operandOf levels
  | number h => exact toOption_check_scalar (.number h) hrest nofun nofun operandOf levels
  | string h => exact toOption_check_scalar (.string h) hrest nofun nofun operandOf levels

theorem operandsOf_scalar {d : Doc} (hlist : ∀ ds, d ≠ .array ds) (hobject : ∀ ms, d ≠ .object ms) :
    (d.scalar?.bind fun v => (operandsOf v).toOption) = operandsOf? d := by
  cases d with
  | null => rfl
  | bool b => rfl
  | number t =>
    show ((Json.numeralOf t).map Json.Numeral.toValue).bind _ = none
    rcases Json.numeralOf t with _ | (_ | _) <;> rfl
  | string body =>
    show ((Json.decode body).map Value.string).bind _ = none
    cases Json.decode body <;> rfl
  | array ds => exact absurd rfl (hlist ds)
  | object ms => exact absurd rfl (hobject ms)

theorem toOption_operandsOf (items : List Value) :
    (operandsOf (.array items)).toOption = (items.mapM operandOf).toOption.map (·.filterMap id) := by
  rw [operandsOf]
  cases items.mapM operandOf <;> rfl

/-- What is read of a list of operands. -/
theorem operands_list {ds : List Doc} {ts : List Char} (hts : Json.SpellsItems true ds ts) (levels : Nat)
    (rest : List Char) :
    (operands (levels + 2) ('[' :: (ts ++ rest))).toOption =
      ((ds.mapM operandOf?).map (·.filterMap id)).map fun xs => (xs, rest) := by
  have hitems := (means_operand (levels + 1) (Nat.succ_pos levels)).many_check hts rest (hts.length_lt rest)
  rw [operands, Json.toOption_check, Json.value_list, Json.bind_apply, Json.get_apply, Json.andThen_ok,
    Json.toOption_bind]
  generalize Json.many (Json.value (levels + 1)) _ true (ts ++ rest) = read at hitems ⊢
  cases read with
  | error fault =>
    rw [Option.map_eq_none_iff.mp hitems.symm]
    rfl
  | ok p =>
    obtain ⟨items, left⟩ := p
    rw [Json.toOption_ok, Option.bind_some] at hitems ⊢
    cases hchecked : (items.mapM operandOf).toOption with
    | none =>
      rw [hchecked] at hitems
      rw [Option.map_eq_none_iff.mp hitems.symm, Json.bind_apply]
      -- the items do not pass, whether or not the list ends behind them
      cases Json.closeList left with
      | error fault => rfl
      | ok q =>
        simp only [Json.andThen_ok, Json.pure_apply, Json.toOption_ok, Option.bind_some,
          toOption_operandsOf, hchecked, Option.map_none]
    | some bs =>
      rw [hchecked] at hitems
      obtain ⟨bs', hmeaning, hpair⟩ := Option.map_eq_some_iff.mp hitems.symm
      obtain ⟨rfl, rfl⟩ := Prod.mk.inj hpair
      rw [hmeaning, Json.bind_apply, Json.closeList_close]
      simp only [Json.andThen_ok, Json.pure_apply, Json.toOption_ok, Option.bind_some,
        toOption_operandsOf, hchecked, Option.map_some]

theorem means_operands : Means operands 1 operandsOf? := by
  intro levels hlevels
  obtain ⟨levels, rfl⟩ : ∃ k, levels = k + 2 := ⟨levels - 2, by omega⟩
  refine ⟨fun hw cs => by rw [operands, Json.bind_apply, Json.bind_apply, Json.value_gap hw],
    fun {d t rest} ht hrest => ?_⟩
  have hscalar : (∀ ds, d ≠ .array ds) → (∀ ms, d ≠ .object ms) →
      (operands (levels + 2) (t ++ rest)).toOption = (operandsOf? d).map fun xs => (xs, rest) := by
    intro hlist hobject
    rw [← operandsOf_scalar hlist hobject]
    exact toOption_check_scalar ht hrest hlist hobject operandsOf (levels + 1)
  cases ht with
  | @array ds ts hts =>
    rw [List.cons_append]
    exact operands_list hts levels rest
  | object _ =>
    refine Json.toOption_check_none fun v rest hv => ?_
    obtain ⟨members, rfl⟩ := Json.exists_of_value_brace hv
    rfl
  | null => exact hscalar nofun nofun
  | isTrue => exact hscalar nofun nofun
  | isFalse => exact hscalar nofun nofun
  | number h => exact hscalar nofun nofun
  | string h => exact hscalar nofun nofun

theorem means_optionalText : Means optionalText 0 (Doc.optional Doc.text?) :=
  Means.optional fun levels _ => Json.denotes_textOf "a string" levels

/-- The list that a document is, for which null stands if it is empty. -/
def listOrNull? (meaning : Doc → Option α) (d : Doc) : Option (List α) :=
  (d.optional (Doc.list meaning)).map (·.getD [])

theorem means_listOrNull {item : Reader α} {depth : Nat} {meaning : Doc → Option α}
    (h : Means item depth meaning) : Means (listOrNull item) (depth + 1) (listOrNull? meaning) :=
  h.list.optional.map _

/-! ### Parts -/

def Measure.slots : List (Slot Measure) :=
  [.of "agg" (Doc.optional Doc.text?) fun x m => { m with agg := x },
   .of "field" (Doc.optional Doc.text?) fun x m => { m with field := x },
   .of "alias" (Doc.optional Doc.text?) fun x m => { m with label := x }]

def Dimension.slots : List (Slot Dimension) :=
  [.of "field" (Doc.optional Doc.text?) fun x d => { d with field := x },
   .of "alias" (Doc.optional Doc.text?) fun x d => { d with label := x }]

def Filter.slots : List (Slot Filter) :=
  [.of "field" (Doc.optional Doc.text?) fun x f => { f with field := x },
   .of "op" (Doc.optional Doc.text?) fun x f => { f with op := x },
   .of "value" operandOf? fun x f => { f with value := x },
   .of "values" operandsOf? fun x f => { f with values := x },
   .of "from" operandOf? fun x f => { f with low := x },
   .of "to" operandOf? fun x f => { f with high := x }]

def Order.slots : List (Slot Order) :=
  [.of "field" (Doc.optional Doc.text?) fun x o => { o with field := x },
   .of "direction" (Doc.optional Doc.text?) fun x o => { o with direction := x }]

def slots : List (Slot Plan) :=
  [.of "dataset" (Doc.optional Doc.text?) fun x p => { p with dataset := x },
   .of "needClarification" (Doc.optional Doc.bool?) fun x p => { p with needClarification := x },
   .of "clarifyingQuestion" (Doc.optional Doc.text?) fun x p => { p with clarifyingQuestion := x },
   .of "measures" (listOrNull? (Doc.record Measure.slots {})) fun x p => { p with measures := x },
   .of "dimensions" (listOrNull? (Doc.record Dimension.slots {})) fun x p => { p with dimensions := x },
   .of "filters" (listOrNull? (Doc.record Filter.slots {})) fun x p => { p with filters := x },
   .of "orderBy" (listOrNull? (Doc.record Order.slots {})) fun x p => { p with orderBy := x },
   .of "limit" (Doc.optional Doc.word?) fun x p => { p with limit := x }]

theorem means_measure : Means Measure.reader 1 (Doc.record Measure.slots {}) := by
  apply Means.record
  refine .cons (means_optionalText.fits "agg" _) ?_
  refine .cons (means_optionalText.fits "field" _) ?_
  exact .cons (means_optionalText.fits "alias" _) .nil

theorem means_dimension : Means Dimension.reader 1 (Doc.record Dimension.slots {}) := by
  apply Means.record
  refine .cons (means_optionalText.fits "field" _) ?_
  exact .cons (means_optionalText.fits "alias" _) .nil

theorem means_filter : Means Filter.reader 2 (Doc.record Filter.slots {}) := by
  have htext := means_optionalText.mono (Nat.zero_le 1)
  have hoperand := means_operand.mono (Nat.zero_le 1)
  apply Means.record
  refine .cons (htext.fits "field" _) ?_
  refine .cons (htext.fits "op" _) ?_
  refine .cons (hoperand.fits "value" _) ?_
  refine .cons (means_operands.fits "values" _) ?_
  refine .cons (hoperand.fits "from" _) ?_
  exact .cons (hoperand.fits "to" _) .nil

theorem means_order : Means Order.reader 1 (Doc.record Order.slots {}) := by
  apply Means.record
  refine .cons (means_optionalText.fits "field" _) ?_
  exact .cons (means_optionalText.fits "direction" _) .nil

/-! ### Plans -/

theorem means_plan : Means reader 4 (Doc.record slots {}) := by
  have htext := means_optionalText.mono (Nat.zero_le 3)
  have hbool : Means (Json.optional Json.boolean) 3 (Doc.optional Doc.bool?) :=
    Means.optional fun levels _ => Json.denotes_boolean levels
  have hword : Means (Json.optional Json.word) 3 (Doc.optional Doc.word?) :=
    Means.optional fun levels _ => Json.denotes_word levels
  have hmeasures := (means_listOrNull means_measure).mono (Nat.le_succ 2)
  have hdimensions := (means_listOrNull means_dimension).mono (Nat.le_succ 2)
  have hfilters := means_listOrNull means_filter
  have horder := (means_listOrNull means_order).mono (Nat.le_succ 2)
  apply Means.record
  refine .cons (htext.fits "dataset" _) ?_
  refine .cons (hbool.fits "needClarification" _) ?_
  refine .cons (htext.fits "clarifyingQuestion" _) ?_
  refine .cons (hmeasures.fits "measures" _) ?_
  refine .cons (hdimensions.fits "dimensions" _) ?_
  refine .cons (hfilters.fits "filters" _) ?_
  refine .cons (horder.fits "orderBy" _) ?_
  exact .cons (hword.fits "limit" _) .nil

/-- The plan that a document is. -/
def ofDoc? : Doc → Option Plan := Doc.record slots {}

/-- What is read of a JSON text is what its document means. -/
theorem ofJson_isText {d : Doc} {text : String} (hd : d.IsText text) : (ofJson text).toOption = ofDoc? d :=
  means_plan.run (by decide) hd

/-! ### Texts of plans -/

theorem consumes_checked (check : Value → Except Fault α) (levels : Nat) :
    Consumes (do check (← Json.value levels)) := by
  refine (Json.consumes_value levels).map _ fun v cs a rest h => ?_
  cases hcheck : check v with
  | error fault =>
    rw [hcheck] at h
    cases h
  | ok b =>
    rw [hcheck] at h
    exact (Prod.mk.inj (Except.ok.inj h)).2.symm

theorem consumes_optionalField {item : Reader α} (h : ∀ levels, Consumes (item levels)) (name : String)
    (put : α → σ → σ) (levels : Nat) : Consumes ((Json.optionalField name item put).read levels) :=
  (h levels).map _ fun _ _ _ _ hread => (Prod.mk.inj (Except.ok.inj hread)).2.symm

theorem consumes_optionalText (levels : Nat) : Consumes (optionalText levels) :=
  (Json.consumes_textOf "a string" levels).optional

theorem consumes_listOrNull {item : Reader α} (h : ∀ levels, Consumes (item levels)) (levels : Nat) :
    Consumes (listOrNull item levels) :=
  (Consumes.list h levels).optional.map _ fun _ _ _ _ hread => (Prod.mk.inj (Except.ok.inj hread)).2.symm

theorem consumes_measure (levels : Nat) : Consumes (Measure.reader levels) := by
  refine Consumes.record ?_ "Measure" _ levels
  simp [consumes_optionalField consumes_optionalText]

theorem consumes_dimension (levels : Nat) : Consumes (Dimension.reader levels) := by
  refine Consumes.record ?_ "Dimension" _ levels
  simp [consumes_optionalField consumes_optionalText]

theorem consumes_filter (levels : Nat) : Consumes (Filter.reader levels) := by
  have hoperand : ∀ levels, Consumes (operand levels) := consumes_checked operandOf
  have hoperands : ∀ levels, Consumes (operands levels) := consumes_checked operandsOf
  refine Consumes.record ?_ "Filter" _ levels
  simp [consumes_optionalField consumes_optionalText, consumes_optionalField hoperand,
    consumes_optionalField hoperands]

theorem consumes_order (levels : Nat) : Consumes (Order.reader levels) := by
  refine Consumes.record ?_ "OrderBy" _ levels
  simp [consumes_optionalField consumes_optionalText]

theorem consumes_plan (levels : Nat) : Consumes (reader levels) := by
  have hbool : ∀ levels, Consumes (Json.optional Json.boolean levels) := fun levels =>
    (Json.consumes_boolean levels).optional
  have hword : ∀ levels, Consumes (Json.optional Json.word levels) := fun levels =>
    (Json.consumes_word levels).optional
  refine Consumes.record ?_ "QueryPlan" _ levels
  simp [consumes_optionalField consumes_optionalText, consumes_optionalField hbool,
    consumes_optionalField hword, consumes_optionalField (consumes_listOrNull consumes_measure),
    consumes_optionalField (consumes_listOrNull consumes_dimension),
    consumes_optionalField (consumes_listOrNull consumes_filter),
    consumes_optionalField (consumes_listOrNull consumes_order)]

/-- A text that is read as a plan is a text of a document. -/
theorem exists_isText_of_ofJson {text : String} {p : Plan} (h : ofJson text = .ok p) :
    ∃ d : Doc, d.IsText text :=
  Json.exists_isText_of_run (consumes_plan _) h

end ScopedQuery.Plan
