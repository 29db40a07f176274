import ScopedQuery.Proofs.Caller.Projection
import ScopedQuery.Proofs.Json.Edited
import ScopedQuery.Proofs.Plan.Denoted
/-!
# Plans are read leniently

* `Edit`: a field that is null is added to a plan or one of its parts or taken out of it, nulls are taken out
  of the operands of `IN`, and operands are put into quotation marks.
* `keeps_plan`: by such edits a document means the same plan.
* `Misfit`, `filter_eq_none`: a filter with an operand that has parts means nothing.
* `ofJson_lenient`: so texts of edited plans are read alike, plans with such operands are not read, and an id
  counts for row scoping whether it is written as a number or as a text.
-/

namespace ScopedQuery.Plan

open Json (Apart Doc Keeps Respells RecordEdit ItemEdit HasField Slot Body decode numeralOf apart_nil
  spelled_array mapM_eq_some_append mapM_eq_some_cons put_record record_eq_none)

variable {α : Type}

/-! ### Fields -/

theorem apart_measure : Apart Measure.slots {} := by
  refine .cons rfl rfl (fun _ _ => rfl) ?_ (.cons rfl rfl (fun _ _ => rfl) ?_
    (.cons rfl rfl (fun _ _ => rfl) ?_ (apart_nil _)))
  all_goals simp [Slot.commutes_of]

theorem apart_dimension : Apart Dimension.slots {} := by
  refine .cons rfl rfl (fun _ _ => rfl) ?_ (.cons rfl rfl (fun _ _ => rfl) ?_ (apart_nil _))
  all_goals simp [Slot.commutes_of]

theorem apart_filter : Apart Filter.slots {} := by
  refine .cons rfl rfl (fun _ _ => rfl) ?_ (.cons rfl rfl (fun _ _ => rfl) ?_
    (.cons rfl rfl (fun _ _ => rfl) ?_ (.cons rfl rfl (fun _ _ => rfl) ?_
    (.cons rfl rfl (fun _ _ => rfl) ?_ (.cons rfl rfl (fun _ _ => rfl) ?_ (apart_nil _))))))
  all_goals simp [Slot.commutes_of]

theorem apart_order : Apart Order.slots {} := by
  refine .cons rfl rfl (fun _ _ => rfl) ?_ (.cons rfl rfl (fun _ _ => rfl) ?_ (apart_nil _))
  all_goals simp [Slot.commutes_of]

theorem apart_plan : Apart slots {} := by
  refine .cons rfl rfl (fun _ _ => rfl) ?_ (.cons rfl rfl (fun _ _ => rfl) ?_
    (.cons rfl rfl (fun _ _ => rfl) ?_ (.cons rfl rfl (fun _ _ => rfl) ?_
    (.cons rfl rfl (fun _ _ => rfl) ?_ (.cons rfl rfl (fun _ _ => rfl) ?_
    (.cons rfl rfl (fun _ _ => rfl) ?_ (.cons rfl rfl (fun _ _ => rfl) ?_ (apart_nil _))))))))
  all_goals simp [Slot.commutes_of]

/-! ### Operands -/

/-- An integer or a truth value as an operand gives way to its text. -/
inductive Retyped : Doc → Doc → Prop
  | integer {n : Int64} {body : List Char} : Body body → decode body = some (toString n.toInt) →
      Retyped (.number (toString n.toInt).toList) (.string body)
  | bool {b : Bool} {body : List Char} : Body body → decode body = some (toString b) →
      Retyped (.bool b) (.string body)

theorem numeralOf_toString (n : Int64) : numeralOf (toString n.toInt).toList = some (.int n.toInt) := by
  obtain ⟨c, cs, hcs, -⟩ := Json.exists_toString_eq_cons n.toInt
  have hread := Json.signedNumeral_toString (Json.isWord_toInt n) hcs Json.endsValue_nil
  rw [List.append_nil] at hread
  rw [hcs, numeralOf, hread]
  rfl

theorem operandOf?_string {body : List Char} {s : String} (h : decode body = some s) :
    operandOf? (.string body) = some (some s) := by
  rw [operandOf?, Doc.scalar?, h]
  rfl

theorem operandOf?_integer (n : Int64) :
    operandOf? (.number (toString n.toInt).toList) = some (some (toString n.toInt)) := by
  rw [operandOf?, Doc.scalar?, numeralOf_toString]
  show some (some (String.ofList (toString n.toInt).toList)) = _
  rw [String.ofList_toList]

theorem operandOf?_bool (b : Bool) : operandOf? (.bool b) = some (some (toString b)) := by
  cases b <;> rfl

theorem keeps_retyped : Keeps operandOf? Retyped := by
  intro d d' x hedit hx
  cases hedit with
  | integer _ hbody =>
    rw [operandOf?_integer] at hx
    rw [operandOf?_string hbody, hx]
  | bool _ hbody =>
    rw [operandOf?_bool] at hx
    rw [operandOf?_string hbody, hx]

inductive OperandsEdit : Doc → Doc → Prop
  | drop {ds ds' : List Doc} : OperandsEdit (.array (ds ++ .null :: ds')) (.array (ds ++ ds'))
  | item {d d' : Doc} : ItemEdit Retyped d d' → OperandsEdit d d'

theorem keeps_operandsEdit : Keeps operandsOf? OperandsEdit := by
  intro d d' xs hedit hxs
  cases hedit with
  | drop =>
    obtain ⟨os, hos, rfl⟩ := Option.map_eq_some_iff.mp hxs
    obtain ⟨ys, zs, hys, hrest, rfl⟩ := mapM_eq_some_append.mp hos
    obtain ⟨z, zs, hz, hzs, rfl⟩ := mapM_eq_some_cons.mp hrest
    obtain rfl := Option.some.inj hz
    refine Option.map_eq_some_iff.mpr ⟨_, mapM_eq_some_append.mpr ⟨ys, zs, hys, hzs, rfl⟩, ?_⟩
    simp
  | item hedit =>
    have hkeeps := (ItemEdit.keeps keeps_retyped).map (·.filterMap id) d d' xs hedit
    cases hedit
    exact hkeeps hxs

/-! ### Parts -/

/-- The edits of the values of the fields of a filter. -/
def FilterPartEdit : String → Doc → Doc → Prop
  | "value" => Retyped
  | "values" => OperandsEdit
  | "from" => Retyped
  | "to" => Retyped
  | _ => fun _ _ => False

/-- The edits of a part of a plan that has no values to edit. -/
abbrev NameEdit (slots : List (Slot α)) : Doc → Doc → Prop :=
  RecordEdit (slots.map (·.name)) fun _ _ _ => False

/-- The edits of the values of the fields of a plan: one of the measures, dimensions and so on is edited. -/
def PartEdit : String → Doc → Doc → Prop
  | "measures" => ItemEdit (NameEdit Measure.slots)
  | "dimensions" => ItemEdit (NameEdit Dimension.slots)
  | "filters" => ItemEdit (RecordEdit (Filter.slots.map (·.name)) FilterPartEdit)
  | "orderBy" => ItemEdit (NameEdit Order.slots)
  | _ => fun _ _ => False

/-- An edit of a plan that does not count. -/
def Edit : Doc → Doc → Prop := RecordEdit (slots.map (·.name)) PartEdit

theorem keeps_false (meaning : Doc → Option α) : Keeps meaning fun _ _ => False :=
  fun _ _ _ h _ => h.elim

theorem keeps_listOrNull {meaning : Doc → Option α} {edit : Doc → Doc → Prop} (h : Keeps meaning edit) :
    Keeps (listOrNull? meaning) (ItemEdit edit) := by
  intro d d' xs hedit hxs
  have hkeeps := ((ItemEdit.keeps h).map fun ys => (some ys).getD []) d d' xs hedit
  cases hedit
  rw [listOrNull?, Doc.optional, Option.map_map] at hxs ⊢
  · exact hkeeps hxs
  all_goals nofun

theorem keeps_measure : Keeps (Doc.record Measure.slots {}) (NameEdit Measure.slots) :=
  RecordEdit.keeps (fun _ _ => keeps_false _) apart_measure

theorem keeps_dimension : Keeps (Doc.record Dimension.slots {}) (NameEdit Dimension.slots) :=
  RecordEdit.keeps (fun _ _ => keeps_false _) apart_dimension

theorem keeps_order : Keeps (Doc.record Order.slots {}) (NameEdit Order.slots) :=
  RecordEdit.keeps (fun _ _ => keeps_false _) apart_order

theorem keeps_filter :
    Keeps (Doc.record Filter.slots {}) (RecordEdit (Filter.slots.map (·.name)) FilterPartEdit) := by
  refine RecordEdit.keeps ?_ apart_filter
  simp only [Filter.slots, List.forall_mem_cons, Slot.of]
  refine ⟨(keeps_false _).map _, (keeps_false _).map _, keeps_retyped.map _, keeps_operandsEdit.map _,
    keeps_retyped.map _, keeps_retyped.map _, ?_⟩
  simp

theorem keeps_plan : Keeps ofDoc? Edit := by
  refine RecordEdit.keeps ?_ apart_plan
  simp only [slots, List.forall_mem_cons, Slot.of]
  refine ⟨(keeps_false _).map _, (keeps_false _).map _, (keeps_false _).map _,
    (keeps_listOrNull keeps_measure).map _, (keeps_listOrNull keeps_dimension).map _,
    (keeps_listOrNull keeps_filter).map _, (keeps_listOrNull keeps_order).map _, (keeps_false _).map _, ?_⟩
  simp

/-! ### Texts of edited plans -/

theorem respells_false : Respells fun _ _ => False := fun _ _ h _ => h.elim

theorem respells_retyped : Respells Retyped := by
  intro d d' hedit _
  cases hedit with
  | integer hbody _ => exact ⟨_, .string hbody⟩
  | bool hbody _ => exact ⟨_, .string hbody⟩

theorem respells_operandsEdit : Respells OperandsEdit := by
  intro d d' hedit hd
  cases hedit with
  | drop =>
    rw [spelled_array] at hd ⊢
    simp only [List.forall_mem_append, List.forall_mem_cons] at hd ⊢
    exact ⟨hd.1, hd.2.2⟩
  | item hedit => exact ItemEdit.respells respells_retyped d d' hedit hd

theorem respells_nameEdit (slots : List (Slot α)) : Respells (NameEdit slots) :=
  RecordEdit.respells fun _ _ => respells_false

theorem respells_filter : Respells (RecordEdit (Filter.slots.map (·.name)) FilterPartEdit) := by
  refine RecordEdit.respells ?_
  simp only [Filter.slots, List.map_cons, List.map_nil, List.forall_mem_cons, Slot.of]
  refine ⟨respells_false, respells_false, respells_retyped, respells_operandsEdit, respells_retyped,
    respells_retyped, ?_⟩
  simp

theorem respells_plan : Respells Edit := by
  refine RecordEdit.respells ?_
  simp only [slots, List.map_cons, List.map_nil, List.forall_mem_cons, Slot.of]
  refine ⟨respells_false, respells_false, respells_false, ItemEdit.respells (respells_nameEdit _),
    ItemEdit.respells (respells_nameEdit _), ItemEdit.respells respells_filter,
    ItemEdit.respells (respells_nameEdit _), respells_false, ?_⟩
  simp

/-- However often it is edited, a document goes on to have texts and to mean the same plan. -/
theorem ofDoc?_of_edits {d d' : Doc} (h : Relation.ReflTransGen Edit d d') (hd : d.Spelled) {p : Plan}
    (hp : ofDoc? d = some p) : d'.Spelled ∧ ofDoc? d' = some p := by
  induction h with
  | refl => exact ⟨hd, hp⟩
  | tail _ hedit ih => exact ⟨respells_plan _ _ hedit ih.1, keeps_plan _ _ p hedit ih.2⟩

/-! ### Values that do not fit -/

inductive Structured : Doc → Prop
  | array {ds : List Doc} : Structured (.array ds)
  | object {ms : List (List Char × Doc)} : Structured (.object ms)

/-- The values that a field of a filter cannot have, as they are no operands. -/
def Misfit : String → Doc → Prop
  | "value" => Structured
  | "values" => fun d =>
    (∃ ds e, d = .array ds ∧ e ∈ ds ∧ Structured e) ∨ (d ≠ .null ∧ ∀ ds, d ≠ .array ds)
  | "from" => Structured
  | "to" => Structured
  | _ => fun _ => False

theorem operandOf?_structured {d : Doc} (h : Structured d) : operandOf? d = none := by
  cases h <;> rfl

theorem mapM_eq_none {meaning : Doc → Option α} {ds : List Doc} {d : Doc} (hd : d ∈ ds)
    (h : meaning d = none) : ds.mapM meaning = none := by
  refine Option.eq_none_iff_forall_ne_some.mpr fun xs hxs => ?_
  obtain ⟨before, after, rfl⟩ := List.append_of_mem hd
  obtain ⟨ys, zs, -, hrest, -⟩ := mapM_eq_some_append.mp hxs
  obtain ⟨z, zs, hz, -, -⟩ := mapM_eq_some_cons.mp hrest
  rw [h] at hz
  cases hz

theorem length_of_mapM {meaning : Doc → Option α} {ds : List Doc} {xs : List α}
    (h : ds.mapM meaning = some xs) : xs.length = ds.length := by
  induction ds generalizing xs with
  | nil =>
    obtain rfl := Option.some.inj h
    rfl
  | cons d ds ih =>
    obtain ⟨y, ys, -, hys, rfl⟩ := mapM_eq_some_cons.mp h
    rw [List.length_cons, List.length_cons, ih hys]

theorem operandsOf?_misfit {d : Doc} (h : Misfit "values" d) : operandsOf? d = none := by
  obtain ⟨ds, e, rfl, he, hstructured⟩ | ⟨hnull, hlist⟩ := h
  · rw [operandsOf?, mapM_eq_none he (operandOf?_structured hstructured)]
    rfl
  · cases d with
    | null => exact absurd rfl hnull
    | array ds => exact absurd rfl (hlist ds)
    | _ => rfl

theorem meaning_misfit {d : Doc} :
    ∀ slot ∈ Filter.slots, Misfit slot.name d → slot.meaning d = none := by
  simp only [Filter.slots, List.forall_mem_cons, Slot.of, Option.map_eq_none_iff]
  refine ⟨False.elim, False.elim, operandOf?_structured, operandsOf?_misfit, operandOf?_structured,
    operandOf?_structured, ?_⟩
  simp

theorem mem_of_misfit {name : String} {d : Doc} (h : Misfit name d) : name ∈ Filter.slots.map (·.name) := by
  unfold Misfit at h
  split at h
  · decide
  · decide
  · decide
  · decide
  · exact h.elim

theorem filter_eq_none {name : String} {d f : Doc} (hfield : HasField (Filter.slots.map (·.name)) name d f)
    (h : Misfit name d) : Doc.record Filter.slots {} f = none := by
  refine record_eq_none (mem_of_misfit h) (fun slot hslot heq => ?_) hfield {}
  exact meaning_misfit slot hslot (heq ▸ h)

/-! ### Fields of plans -/

/-- The filters of a plan are those of its document, in their order. -/
theorem filters_of_ofDoc? {d : Doc} {fs : List Doc}
    (hfield : HasField (slots.map (·.name)) "filters" (.array fs) d) {p : Plan} (hp : ofDoc? d = some p) :
    fs.mapM (Doc.record Filter.slots {}) = some p.filters := by
  have hname : "filters" ∈ slots.map (·.name) := by decide
  have hmeaning : ∀ slot ∈ slots, slot.name = "filters" → slot.meaning (.array fs) =
      (fs.mapM (Doc.record Filter.slots {})).map fun x p => { p with filters := x } := by
    simp only [slots, List.forall_mem_cons, Slot.of]
    refine ⟨?_, ?_, ?_, ?_, ?_, fun _ => ?_, ?_, ?_, List.forall_mem_nil _⟩
    case refine_6 =>
      rw [listOrNull?, Doc.optional, Doc.list]
      · cases fs.mapM (Doc.record Filter.slots {}) <;> rfl
      · intro hnull
        cases hnull
    all_goals exact fun hother => absurd hother (by decide)
  cases hfs : fs.mapM (Doc.record Filter.slots {}) with
  | none =>
    simp only [hfs, Option.map_none] at hmeaning
    rw [ofDoc?, record_eq_none hname hmeaning hfield] at hp
    cases hp
  | some xs =>
    simp only [hfs, Option.map_some] at hmeaning
    have hput := put_record apart_plan hname hmeaning hfield hp
    rw [← hput]

/-- The operand of a filter is what the document of the filter has for its value. -/
theorem value_of_filter {d f : Doc} (hfield : HasField (Filter.slots.map (·.name)) "value" d f)
    {x : Option String} (hx : operandOf? d = some x) {g : Filter}
    (hg : Doc.record Filter.slots {} f = some g) : g.value = x := by
  have hmeaning : ∀ slot ∈ Filter.slots, slot.name = "value" → slot.meaning d =
      some fun f => { f with value := x } := by
    simp only [Filter.slots, List.forall_mem_cons, Slot.of]
    refine ⟨nofun, nofun, fun _ => by rw [hx]; rfl, nofun, nofun, nofun, nofun⟩
  have hput := put_record apart_filter (by decide) hmeaning hfield hg
  rw [← hput]

/-! ### Texts of plans -/

/-- A filter that does not mean anything spoils the whole plan. -/
theorem exists_fault_of_misfit {text : String} {d v f : Doc} {fs : List Doc} {name : String}
    (hd : d.IsText text) (hfilters : HasField (slots.map (·.name)) "filters" (.array fs) d) (hf : f ∈ fs)
    (hfield : HasField (Filter.slots.map (·.name)) name v f) (hmisfit : Misfit name v) :
    ∃ fault, ofJson text = .error fault := by
  cases hread : ofJson text with
  | error fault => exact ⟨fault, rfl⟩
  | ok p =>
    have hp := ofJson_isText hd
    rw [hread, Json.toOption_ok] at hp
    have hmeaning := filters_of_ofDoc? hfilters hp.symm
    rw [mapM_eq_none hf (filter_eq_none hfield hmisfit)] at hmeaning
    cases hmeaning

/-- The document is an id, written as a number or as a text. -/
inductive WritesId (id : Int64) : Doc → Prop
  | number : WritesId id (.number (toString id.toInt).toList)
  | text {body : List Char} : decode body = some (toString id.toInt) → WritesId id (.string body)

theorem WritesId.operandOf? {id : Int64} {d : Doc} (h : WritesId id d) :
    Plan.operandOf? d = some (some (toString id.toInt)) := by
  cases h with
  | number => exact operandOf?_integer id
  | text h => exact operandOf?_string h

/-- The filter of a plan at the place of a filter of its document has the operand that this has. -/
theorem exists_filter_of_value {d v f : Doc} {before after : List Doc}
    (hfilters : HasField (slots.map (·.name)) "filters" (.array (before ++ f :: after)) d)
    (hvalue : HasField (Filter.slots.map (·.name)) "value" v f) {x : Option String}
    (hx : operandOf? v = some x) {p : Plan} (hp : ofDoc? d = some p) :
    ∃ fs g gs, p.filters = fs ++ g :: gs ∧ fs.length = before.length ∧ g.value = x := by
  obtain ⟨fs, rest, hfs, hrest, hp⟩ := mapM_eq_some_append.mp (filters_of_ofDoc? hfilters hp)
  obtain ⟨g, gs, hg, -, rfl⟩ := mapM_eq_some_cons.mp hrest
  exact ⟨fs, g, gs, hp.symm, length_of_mapM hfs, value_of_filter hvalue hx hg⟩

/-! ### A plan of one equation -/

/-- A filter of the assignee by an operand. -/
def assigneeIs (operand : Doc) : Doc :=
  .object [("field".toList, .string "ASSIGNEE_ID".toList), ("op".toList, .string "EQ".toList),
    ("value".toList, operand)]

/-- A plan with this filter and further members. -/
def assigneePlan (operand : Doc) (ms : List (List Char × Doc)) : Doc :=
  .object (("filters".toList, .array [assigneeIs operand]) :: ms)

/-- What is written in front of the operand. -/
def assigneePlanStart : String :=
  "\x7b\"filters\":[\x7b\"field\":\"ASSIGNEE_ID\",\"op\":\"EQ\",\"value\":"

theorem body_assigneePlan :
    ∀ s ∈ ["filters", "field", "ASSIGNEE_ID", "op", "EQ", "value", "limit"], Body s.toList := by
  intro s hs
  exact Json.body_of_plain (by revert s; decide)

theorem spells_assigneePlan {operand : Doc} {ms : List (List Char × Doc)} {t ts : List Char}
    (h : Json.Spells operand t) (hms : Json.SpellsMembers false ms ts) :
    Json.Spells (assigneePlan operand ms) (assigneePlanStart.toList ++ (t ++ ('\x7d' :: ']' :: ts))) := by
  have hgap := Json.gap_nil
  have hbody := body_assigneePlan
  have hfield := Json.Spells.string (hbody "ASSIGNEE_ID" (by decide))
  have hop := Json.Spells.string (hbody "EQ" (by decide))
  have hlast := Json.SpellsMembers.member (Json.lead_close false) (hbody "value" (by decide)) hgap hgap h
    (.close hgap)
  have hmiddle := Json.SpellsMembers.member (Json.lead_close false) (hbody "op" (by decide)) hgap hgap hop
    hlast
  have hfilter := Json.Spells.object (.member (Json.lead_close true) (hbody "field" (by decide)) hgap hgap
    hfield hmiddle)
  have hfilters := Json.Spells.array (.item (Json.lead_close true) hfilter (.close hgap))
  have hobject := Json.Spells.object (.member (Json.lead_close true) (hbody "filters" (by decide)) hgap hgap
    hfilters hms)
  simpa [assigneePlan, assigneeIs, assigneePlanStart] using hobject

theorem hasField_assigneeIs (operand : Doc) :
    HasField (Filter.slots.map (·.name)) "value" operand (assigneeIs operand) :=
  .member (by decide) (List.mem_of_getElem? (i := 2) rfl)

theorem hasField_assigneePlan (operand : Doc) :
    HasField (slots.map (·.name)) "filters" (.array ([] ++ assigneeIs operand :: []))
      (assigneePlan operand []) :=
  .member (by decide) List.mem_cons_self

theorem edit_assigneePlan {operand operand' : Doc} (h : Retyped operand operand') :
    Edit (assigneePlan operand []) (assigneePlan operand' []) := by
  have hfilter : RecordEdit (Filter.slots.map (·.name)) FilterPartEdit (assigneeIs operand)
      (assigneeIs operand') :=
    @RecordEdit.member _ _ "value" _ _ _ [_, _] [] (by decide) (by decide) h
  exact @RecordEdit.member _ _ "filters" _ _ _ [] [] (by decide) (by decide)
    (@ItemEdit.item _ _ _ [] [] hfilter)

theorem edit_assigneePlan_null (operand : Doc) :
    Edit (assigneePlan operand []) (assigneePlan operand [("limit".toList, .null)]) := by
  have habsent : Json.Absent "limit" ([("filters".toList, .array [assigneeIs operand])] ++ []) := by
    intro m hm
    rw [List.mem_singleton.mp hm]
    show decode "filters".toList ≠ some "limit"
    decide
  exact @RecordEdit.add _ _ "limit" _ [_] [] (by decide) (body_assigneePlan "limit" (by decide)) (by decide)
    habsent

/-! ### Reading leniently -/

/-- Texts of a plan and of what it is edited to are read alike. A plan with an operand that has parts is not
read. The id of a plain user in the first equation on the scoped field counts for row scoping, whether it is
written as a number or as a text. -/
theorem ofJson_lenient :
    (∀ {text : String} {p : Plan}, ofJson text = .ok p →
      (∃ d : Doc, d.IsText text) ∧
        ∀ d d' : Doc, d.IsText text → Relation.ReflTransGen Edit d d' →
          (∃ text', d'.IsText text') ∧ ∀ text', d'.IsText text' → ofJson text' = .ok p) ∧
    (∀ {text : String} {d v f : Doc} {fs : List Doc} {name : String}, d.IsText text →
      HasField (slots.map (·.name)) "filters" (.array fs) d → f ∈ fs →
      HasField (Filter.slots.map (·.name)) name v f → Misfit name v → ∃ fault, ofJson text = .error fault) ∧
    (∀ {text : String} {p : Plan} {d v f : Doc} {before after : List Doc} {caller : Caller}
      {registry : Registry}, ofJson text = .ok p → d.IsText text →
      HasField (slots.map (·.name)) "filters" (.array (before ++ f :: after)) d →
      HasField (Filter.slots.map (·.name)) "value" v f → WritesId caller.id v →
      caller.role ≠ .admin → 1 ≤ caller.id.toInt →
      ∃ fs g gs, p.filters = fs ++ g :: gs ∧ fs.length = before.length ∧ g.value = some caller.idText ∧
        (Scope.IsOn registry.dataset g → Text.Spells g.op "EQ" →
          (∀ g' ∈ fs, ¬(Scope.IsOn registry.dataset g' ∧ Text.Spells g'.op "EQ")) →
          ∀ question, caller.scope registry question p = .ok ⟨true, p⟩)) := by
  refine ⟨fun {text p} h => ⟨exists_isText_of_ofJson h, fun d d' hd hedits => ?_⟩,
    fun hd hfilters hf hfield hmisfit => exists_fault_of_misfit hd hfilters hf hfield hmisfit,
    fun {text p d v f before after caller registry} h hd hfilters hvalue hid hrole hpositive => ?_⟩
  · have hp : ofDoc? d = some p := by rw [← ofJson_isText hd, h, Json.toOption_ok]
    obtain ⟨hspelled, hp'⟩ := ofDoc?_of_edits hedits hd.spelled hp
    refine ⟨hspelled.exists_isText, fun text' hd' => ?_⟩
    rw [← Json.toOption_eq_some, ofJson_isText hd', hp']
  · have hp : ofDoc? d = some p := by rw [← ofJson_isText hd, h, Json.toOption_ok]
    obtain ⟨fs, g, gs, hfs, hlength, hg⟩ := exists_filter_of_value hfilters hvalue hid.operandOf? hp
    refine ⟨fs, g, gs, hfs, hlength, hg, fun hon heq hbefore question => ?_⟩
    have hoperand : g.value.map Text.trim = some caller.idText := by
      rw [hg]
      exact congrArg some caller.trim_idText
    exact Caller.scope_of_pinsFirst hrole hpositive ⟨fs, g, gs, hfs, hbefore, ⟨hon, heq⟩, hoperand⟩ question

/-- The tasks of amy are asked for with her id as a number, and then as a text and with a null more. -/
theorem ofJson_lenient_for_42 :
    let amy : Caller := ⟨42, "amy", .user⟩
    let p : Plan := { filters := [.eq "ASSIGNEE_ID" "42"] }
    let start := "\x7b\"filters\":[\x7b\"field\":\"ASSIGNEE_ID\",\"op\":\"EQ\",\"value\":"
    ofJson (start ++ "42\x7d]\x7d") = .ok p ∧
      ofJson (start ++ "\"42\"\x7d],\"limit\":null\x7d") = .ok p ∧
      (∃ fault, ofJson (start ++ "[]\x7d]\x7d") = .error fault) ∧
      amy.scope .builtin "" p = .ok ⟨true, p⟩ := by
  intro amy p start
  have hgap := Json.gap_nil
  have hwhole : Json.Whole ['4', '2'] := .digits ⟨by decide, List.all_eq_true.mp (by decide)⟩ (by decide)
  have hspells := Json.Spells.number (.plain (.parts hwhole .absent .absent))
  have hnumber : (assigneePlan (.number "42".toList) []).IsText (start ++ "42\x7d]\x7d") :=
    ⟨[], _, [], hgap, hgap, spells_assigneePlan hspells (.close hgap), by simp [start, assigneePlanStart]⟩
  have hbody : Body "42".toList := Json.body_of_plain (by decide)
  have hnull := Json.SpellsMembers.member (Json.lead_close false) (body_assigneePlan "limit" (by decide)) hgap
    hgap .null (.close hgap)
  have htext : (assigneePlan (.string "42".toList) [("limit".toList, .null)]).IsText
      (start ++ "\"42\"\x7d],\"limit\":null\x7d") :=
    ⟨[], _, [], hgap, hgap, spells_assigneePlan (.string hbody) hnull, by simp [start, assigneePlanStart]⟩
  have hlist : (assigneePlan (.array []) []).IsText (start ++ "[]\x7d]\x7d") :=
    ⟨[], _, [], hgap, hgap, spells_assigneePlan (.array (.close hgap)) (.close hgap),
      by simp [start, assigneePlanStart]⟩
  have hmeaning : ofDoc? (assigneePlan (.number "42".toList) []) = some p := by
    decide
  have hread : ofJson (start ++ "42\x7d]\x7d") = .ok p := by
    rw [← Json.toOption_eq_some, ofJson_isText hnumber, hmeaning]
  have hretyped : Retyped (.number "42".toList) (.string "42".toList) :=
    @Retyped.integer 42 _ hbody (by decide)
  have hedits := Relation.ReflTransGen.tail (.single (edit_assigneePlan hretyped))
    (edit_assigneePlan_null (.string "42".toList))
  obtain ⟨hlenient, hmisfits, hscoped⟩ := ofJson_lenient
  refine ⟨hread, ((hlenient hread).2 _ _ hnumber hedits).2 _ htext,
    hmisfits hlist (hasField_assigneePlan _) List.mem_cons_self (hasField_assigneeIs _) .array, ?_⟩
  have hid : WritesId amy.id (.number "42".toList) := @WritesId.number 42
  obtain ⟨fs, g, gs, hfs, hlength, hg, hscope⟩ := @hscoped _ _ _ _ _ [] [] amy .builtin hread hnumber
    (hasField_assigneePlan _) (hasField_assigneeIs _) hid (by decide) (by decide)
  obtain rfl := List.length_eq_zero_iff.mp hlength
  obtain ⟨rfl, rfl⟩ := List.cons.inj hfs
  exact hscope (by decide) (by decide) (fun g' hg' => absurd hg' List.not_mem_nil) ""

end ScopedQuery.Plan
