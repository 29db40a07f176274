import ScopedQuery.Plan.Json
import ScopedQuery.Proofs.Json.Record
/-!
# Plans survive JSON

* `reads_optionalText`, `reads_operand`, `reads_operands` and `reads_listOrNull`: each kind of member reads
  what is written for it.
* `reads_measure`, `reads_dimension`, `reads_filter` and `reads_order`: so does each part of a plan.
* `ofJson_json`: a plan is read back from its JSON text, whatever of it is set and whatever its texts are.
-/

namespace ScopedQuery.Plan

open Json (Value Reader Reads Fills)

variable {α : Type}

/-! ### Members -/

theorem head?_write_string (s : String) : (Json.write (.string s)).head? ≠ some 'n' := by
  rw [Json.write_string]
  rintro ⟨⟩

theorem reads_optionalText (x : Option String) : Reads optionalText 0 (.ofOption x) x := by
  cases x with
  | none => exact Json.reads_optional_null Json.text
  | some s => exact (Json.reads_text s).optional (head?_write_string s)

theorem reads_presentText (s : String) : Reads optionalText 0 (.string s) (some s) :=
  reads_optionalText (some s)

theorem reads_operand (s : String) : Reads operand 0 (.string s) (some s) :=
  (Json.reads_value_string s).check rfl

theorem operandsOf_strings (texts : List String) :
    operandsOf (.array (texts.map .string)) = .ok texts := by
  have hmap : (texts.map Value.string).mapM operandOf = .ok (texts.map some) := by
    induction texts with
    | nil => rfl
    | cons s texts ih =>
      rw [List.map_cons, List.mapM_cons, ih]
      rfl
  rw [operandsOf, hmap]
  exact congrArg Except.ok (by simp)

theorem reads_operands (texts : List String) :
    Reads operands 1 (.array (texts.map .string)) texts := by
  have hitems : List.Forall₂ (Reads Json.value 0) (texts.map .string) (texts.map .string) := by
    rw [List.forall₂_map_left_iff, List.forall₂_map_right_iff, List.forall₂_same]
    exact fun s _ => Json.reads_value_string s
  exact (Json.reads_value_array hitems).check (operandsOf_strings texts)

theorem reads_listOrNull {item : Reader α} {depth : Nat} {encode : α → Value}
    (h : ∀ x, Reads item depth (encode x) x) (xs : List α) :
    Reads (listOrNull item) (depth + 1) (.array (xs.map encode)) xs := by
  have hitems : List.Forall₂ (Reads item depth) (xs.map encode) xs := by
    rw [List.forall₂_map_left_iff, List.forall₂_same]
    exact fun x _ => h x
  have hnull : (Json.write (.array (xs.map encode))).head? ≠ some 'n' := by
    rw [Json.write_array]
    rintro ⟨⟩
  exact ((Reads.list hitems).optional hnull).map (·.getD [])

/-- The operands of `IN` are read, also if they are not written as there are none. -/
theorem fills_operands {depth : Nat} {fields : List (Json.Field Filter)} {ms : List (String × Value)}
    {f g : Filter} {texts : List String} (hnone : { f with values := [] } = f) (hdepth : 1 ≤ depth)
    (rest : Fills depth fields ms { f with values := texts } g) :
    Fills depth (Json.optionalField "values" operands (fun x f => { f with values := x }) :: fields)
      (presentList "values" texts ++ ms) f g := by
  cases texts with
  | nil =>
    rw [hnone] at rest
    exact .skip rfl rest
  | cons s texts => exact .optional_field ((reads_operands (s :: texts)).mono hdepth) "values" rest

/-! ### Parts -/

theorem reads_measure (m : Measure) : Reads Measure.reader 1 m.toJson m := by
  refine Fills.record ?_ "Measure" (by decide)
  rw [← List.append_nil (_ ++ _)]
  simp only [List.cons_append, List.nil_append]
  refine .optional_field (reads_optionalText m.agg) "agg" ?_
  refine .optional_field (reads_optionalText m.field) "field" ?_
  exact .option (fun s _ => reads_presentText s) rfl "alias" (.nil _)

theorem reads_dimension (d : Dimension) : Reads Dimension.reader 1 d.toJson d := by
  refine Fills.record ?_ "Dimension" (by decide)
  rw [← List.append_nil (_ ++ _)]
  simp only [List.cons_append, List.nil_append]
  refine .optional_field (reads_optionalText d.field) "field" ?_
  exact .option (fun s _ => reads_presentText s) rfl "alias" (.nil _)

theorem reads_filter (f : Filter) : Reads Filter.reader 2 f.toJson f := by
  have hoperand : ∀ s, Reads operand 1 (.string s) (some s) := fun s =>
    (reads_operand s).mono (Nat.zero_le 1)
  refine Fills.record ?_ "Filter" (by decide)
  rw [← List.append_nil (_ ++ _)]
  simp only [List.cons_append, List.nil_append, List.append_assoc]
  refine .optional_field ((reads_optionalText f.field).mono (Nat.zero_le 1)) "field" ?_
  refine .optional_field ((reads_optionalText f.op).mono (Nat.zero_le 1)) "op" ?_
  refine .option (fun s _ => hoperand s) rfl "value" ?_
  refine fills_operands rfl le_rfl ?_
  refine .option (fun s _ => hoperand s) rfl "from" ?_
  exact .option (fun s _ => hoperand s) rfl "to" (.nil _)

theorem reads_order (o : Order) : Reads Order.reader 1 o.toJson o := by
  refine Fills.record ?_ "OrderBy" (by decide)
  refine .optional_field (reads_optionalText o.field) "field" ?_
  exact .optional_field (reads_optionalText o.direction) "direction" (.nil _)

/-! ### Plans -/

theorem reads_plan (p : Plan) : Reads reader 4 p.toJson p := by
  have hbool : ∀ b : Bool, Reads (Json.optional Json.boolean) 0 (.bool b) (some b) := by
    intro b
    refine (Json.reads_boolean b).optional ?_
    cases b <;> rintro ⟨⟩
  have hword : ∀ n : Int64, Reads (Json.optional Json.word) 0 (.int n.toInt) (some n) := by
    intro n
    refine (Json.reads_word n).optional ?_
    obtain ⟨c, cs, hcs, hc⟩ := Json.exists_toString_eq_cons n.toInt
    rw [Json.write_int, hcs]
    rintro ⟨⟩
    rcases hc with hc | hc <;> cases hc
  -- the operands of `IN` lie deepest: in a list of a filter of a list of the plan
  refine Fills.record ?_ "QueryPlan" (by decide)
  rw [← List.append_nil (_ ++ _)]
  simp only [List.cons_append, List.nil_append, List.append_assoc]
  refine .optional_field ((reads_optionalText p.dataset).mono (Nat.zero_le 3)) "dataset" ?_
  refine .option (fun b _ => (hbool b).mono (Nat.zero_le 3)) rfl "needClarification" ?_
  refine .option (fun s _ => (reads_presentText s).mono (Nat.zero_le 3)) rfl "clarifyingQuestion" ?_
  refine .optional_field ((reads_listOrNull reads_measure p.measures).mono (by decide)) "measures" ?_
  refine .optional_field ((reads_listOrNull reads_dimension p.dimensions).mono (by decide)) "dimensions" ?_
  refine .optional_field (reads_listOrNull reads_filter p.filters) "filters" ?_
  refine .optional_field ((reads_listOrNull reads_order p.orderBy).mono (by decide)) "orderBy" ?_
  exact .option (fun n _ => (hword n).mono (Nat.zero_le 3)) rfl "limit" (.nil _)

/-- A plan survives being written as JSON and read back. -/
theorem ofJson_json (p : Plan) : ofJson p.json = .ok p :=
  (reads_plan p).run (by decide)

end ScopedQuery.Plan
