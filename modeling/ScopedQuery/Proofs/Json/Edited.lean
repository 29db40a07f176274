import ScopedQuery.Proofs.Json.Fields
/-!
# Edits of documents

* `RecordEdit`: a field that is null is added or taken out, or the value of a field is edited.
* `ItemEdit`: an item of a list is edited.
* `RecordEdit.keeps`, `ItemEdit.keeps`: by such edits a document means the same, if its parts do.
* `RecordEdit.respells`, `ItemEdit.respells`: an edited document has texts, if its parts have.
-/

namespace ScopedQuery.Json

variable {α σ : Type}

/-! ### Edits of records -/

/-- By an edit, what means something goes on to mean the same. -/
def Keeps (meaning : Doc → Option α) (edit : Doc → Doc → Prop) : Prop :=
  ∀ d d' a, edit d d' → meaning d = some a → meaning d' = some a

theorem Keeps.map {meaning : Doc → Option α} {edit : Doc → Doc → Prop} (h : Keeps meaning edit) (f : α → σ) :
    Keeps (fun d => (meaning d).map f) edit := by
  intro d d' b hedit hb
  obtain ⟨a, ha, rfl⟩ := Option.map_eq_some_iff.mp hb
  exact Option.map_eq_some_iff.mpr ⟨a, h d d' a hedit ha, rfl⟩

/-- A field that is null is added to a record or taken out of it, or the value of a field is edited. The
names are those of all fields, in their order. -/
inductive RecordEdit (names : List String) (edit : String → Doc → Doc → Prop) : Doc → Doc → Prop
  | add {name : String} {body : List Char} {ms ms' : List (List Char × Doc)} : name ∈ names → Body body →
      decode body = some name → Absent name (ms ++ ms') →
      RecordEdit names edit (.object (ms ++ ms')) (.object (ms ++ (body, .null) :: ms'))
  | remove {name : String} {body : List Char} {ms ms' : List (List Char × Doc)} : name ∈ names →
      decode body = some name →
      RecordEdit names edit (.object (ms ++ (body, .null) :: ms')) (.object (ms ++ ms'))
  | member {name : String} {body : List Char} {d d' : Doc} {ms ms' : List (List Char × Doc)} : name ∈ names →
      decode body = some name → edit name d d' →
      RecordEdit names edit (.object (ms ++ (body, d) :: ms')) (.object (ms ++ (body, d') :: ms'))
  | item {name : String} {d d' : Doc} {ds ds' : List Doc} : names[ds.length]? = some name → edit name d d' →
      RecordEdit names edit (.array (ds ++ d :: ds')) (.array (ds ++ d' :: ds'))

/-- An edit of one item of a list. -/
inductive ItemEdit (edit : Doc → Doc → Prop) : Doc → Doc → Prop
  | item {d d' : Doc} {ds ds' : List Doc} : edit d d' →
      ItemEdit edit (.array (ds ++ d :: ds')) (.array (ds ++ d' :: ds'))

section

variable {slots : List (Slot σ)} {edit : String → Doc → Doc → Prop}
  (hvalues : ∀ slot ∈ slots, Keeps slot.meaning (edit slot.name))

include hvalues

theorem memberMeaning_edit {name : String} {body : List Char} (hbody : decode body = some name)
    {d d' : Doc} (hedit : edit name d d') {s s' : Partial σ}
    (h : memberMeaning (Doc.fillMember slots) s (body, d) = some s') :
    memberMeaning (Doc.fillMember slots) s (body, d') = some s' := by
  rw [memberMeaning_eq_some] at h ⊢
  obtain ⟨other, hother, hfill⟩ := h
  obtain rfl := Option.some.inj (hbody.symm.trans hother)
  refine ⟨name, hbody, fillMember_eq_some.mpr ?_⟩
  obtain hnone | ⟨slot, put, hfind, hunseen, hput, hs⟩ := fillMember_eq_some.mp hfill
  · exact .inl hnone
  · obtain ⟨hslot, rfl⟩ := slot_of_find? hfind
    have hkeeps := hvalues slot hslot d d' put hedit hput
    exact .inr ⟨slot, put, hfind, hunseen, hkeeps, hs⟩

theorem fillItems_edit {ds ds' : List Doc} {name : String}
    (hname : (slots.map (·.name))[ds.length]? = some name) {d d' : Doc} (hedit : edit name d d') {a b : σ}
    (h : Doc.fillItems slots (ds ++ d :: ds') a = some b) :
    Doc.fillItems slots (ds ++ d' :: ds') a = some b := by
  induction ds generalizing slots a with
  | nil =>
    cases slots with
    | nil => cases hname
    | cons slot slots =>
      obtain rfl := Option.some.inj hname
      obtain ⟨put, hput, hrest⟩ := Option.bind_eq_some_iff.mp h
      have hkeeps := hvalues slot List.mem_cons_self d d' put hedit hput
      exact Option.bind_eq_some_iff.mpr ⟨put, hkeeps, hrest⟩
  | cons e ds ih =>
    cases slots with
    | nil => cases h
    | cons slot slots =>
      obtain ⟨put, hput, hrest⟩ := Option.bind_eq_some_iff.mp h
      have hothers := fun s hs => hvalues s (List.mem_cons_of_mem slot hs)
      exact Option.bind_eq_some_iff.mpr ⟨put, hput, ih hothers hname hrest⟩

/-- By an edit a record goes on to mean the same, if the values of its fields do. -/
theorem RecordEdit.keeps {initial : σ} (hslots : Apart slots initial) :
    Keeps (Doc.record slots initial) (RecordEdit (slots.map (·.name)) edit) := by
  intro d d' a hedit h
  cases hedit with
  | add hname _ hbody habsent =>
    obtain ⟨slot, -, -, hfind⟩ := exists_find?_slot hname
    exact (fill_null hslots hfind hbody habsent).trans h
  | remove hname hbody =>
    obtain ⟨slot, -, -, hfind⟩ := exists_find?_slot hname
    obtain ⟨s, hfill, -⟩ := Option.map_eq_some_iff.mp h
    exact (fill_null hslots hfind hbody (absent_of_fill hfind hbody hfill)).symm.trans h
  | member _ hbody hedit =>
    obtain ⟨s, hfill, rfl⟩ := Option.map_eq_some_iff.mp h
    obtain ⟨t, hms, hrest⟩ := fill_append_eq_some.mp hfill
    obtain ⟨t', hmember, hms'⟩ := fill_cons_eq_some.mp hrest
    have hmember' := memberMeaning_edit hvalues hbody hedit hmember
    exact Option.map_eq_some_iff.mpr
      ⟨s, fill_append_eq_some.mpr ⟨t, hms, fill_cons_eq_some.mpr ⟨t', hmember', hms'⟩⟩, rfl⟩
  | item hname hedit => exact fillItems_edit hvalues hname hedit h

end

theorem mapM_eq_some_append {meaning : Doc → Option α} {ds ds' : List Doc} {xs : List α} :
    (ds ++ ds').mapM meaning = some xs ↔
      ∃ ys zs, ds.mapM meaning = some ys ∧ ds'.mapM meaning = some zs ∧ ys ++ zs = xs := by
  rw [List.mapM_append]
  simp [Option.bind_eq_some_iff]

theorem mapM_eq_some_cons {meaning : Doc → Option α} {d : Doc} {ds : List Doc} {xs : List α} :
    (d :: ds).mapM meaning = some xs ↔
      ∃ y ys, meaning d = some y ∧ ds.mapM meaning = some ys ∧ y :: ys = xs := by
  rw [List.mapM_cons]
  simp [Option.bind_eq_some_iff]

/-- A list goes on to mean the same, if its items do. -/
theorem ItemEdit.keeps {meaning : Doc → Option α} {edit : Doc → Doc → Prop} (h : Keeps meaning edit) :
    Keeps (Doc.list meaning) (ItemEdit edit) := by
  intro d d' xs hedit hxs
  obtain @⟨d, d', ds, ds', hedit⟩ := hedit
  obtain ⟨ys, zs, hys, hrest, rfl⟩ := mapM_eq_some_append.mp hxs
  obtain ⟨z, zs, hz, hzs, rfl⟩ := mapM_eq_some_cons.mp hrest
  have hrest := mapM_eq_some_cons.mpr ⟨z, zs, h d d' z hedit hz, hzs, rfl⟩
  exact mapM_eq_some_append.mpr ⟨ys, z :: zs, hys, hrest, rfl⟩

/-! ### Texts of edited documents -/

/-- The document has a text. -/
def Doc.Spelled (d : Doc) : Prop := ∃ t, Spells d t

/-- What stands in front of an item or a member if there is no white space. -/
theorem lead_close (first : Bool) : Lead first (if first then [] else [',']) := by
  cases first with
  | true => exact gap_nil
  | false => exact ⟨[], [], gap_nil, gap_nil, rfl⟩

theorem spelledItems_iff {first : Bool} {ds : List Doc} :
    (∃ t, SpellsItems first ds t) ↔ ∀ d ∈ ds, d.Spelled := by
  induction ds generalizing first with
  | nil => exact ⟨fun _ d hd => absurd hd List.not_mem_nil, fun _ => ⟨[']'], .close gap_nil⟩⟩
  | cons d ds ih =>
    rw [List.forall_mem_cons]
    constructor
    · rintro ⟨_, h⟩
      cases h with
      | item _ ht hts => exact ⟨⟨_, ht⟩, ih.mp ⟨_, hts⟩⟩
    · rintro ⟨⟨t, ht⟩, hds⟩
      obtain ⟨ts, hts⟩ := ih.mpr hds
      exact ⟨_, .item (lead_close first) ht hts⟩

theorem spelledMembers_iff {first : Bool} {ms : List (List Char × Doc)} :
    (∃ t, SpellsMembers first ms t) ↔ ∀ m ∈ ms, Body m.1 ∧ m.2.Spelled := by
  induction ms generalizing first with
  | nil => exact ⟨fun _ m hm => absurd hm List.not_mem_nil, fun _ => ⟨['\x7d'], .close gap_nil⟩⟩
  | cons m ms ih =>
    rw [List.forall_mem_cons]
    constructor
    · rintro ⟨_, h⟩
      cases h with
      | member _ hname _ _ ht hts => exact ⟨⟨hname, _, ht⟩, ih.mp ⟨_, hts⟩⟩
    · rintro ⟨⟨hname, t, ht⟩, hms⟩
      obtain ⟨ts, hts⟩ := ih.mpr hms
      exact ⟨_, .member (lead_close first) hname gap_nil gap_nil ht hts⟩

theorem spelled_array {ds : List Doc} : (Doc.array ds).Spelled ↔ ∀ d ∈ ds, d.Spelled := by
  rw [← spelledItems_iff]
  constructor
  · rintro ⟨_, h⟩
    cases h with
    | array hts => exact ⟨_, hts⟩
  · rintro ⟨ts, hts⟩
    exact ⟨_, .array hts⟩

theorem spelled_object {ms : List (List Char × Doc)} :
    (Doc.object ms).Spelled ↔ ∀ m ∈ ms, Body m.1 ∧ m.2.Spelled := by
  rw [← spelledMembers_iff]
  constructor
  · rintro ⟨_, h⟩
    cases h with
    | object hts => exact ⟨_, hts⟩
  · rintro ⟨ts, hts⟩
    exact ⟨_, .object hts⟩

theorem Doc.IsText.spelled {d : Doc} {text : String} (h : d.IsText text) : d.Spelled := by
  obtain ⟨_, t, _, -, -, ht, -⟩ := h
  exact ⟨t, ht⟩

theorem Doc.Spelled.exists_isText {d : Doc} (h : d.Spelled) : ∃ text, d.IsText text := by
  obtain ⟨t, ht⟩ := h
  exact ⟨String.ofList t, [], t, [], gap_nil, gap_nil, ht, by simp⟩

/-- An edited document has a text, if it had one before. -/
def Respells (edit : Doc → Doc → Prop) : Prop := ∀ d d', edit d d' → d.Spelled → d'.Spelled

theorem RecordEdit.respells {names : List String} {edit : String → Doc → Doc → Prop}
    (h : ∀ name ∈ names, Respells (edit name)) : Respells (RecordEdit names edit) := by
  intro d d' hedit hd
  cases hedit with
  | add _ hbody _ _ =>
    rw [spelled_object] at hd ⊢
    simp only [List.forall_mem_append, List.forall_mem_cons] at hd ⊢
    exact ⟨hd.1, ⟨hbody, _, .null⟩, hd.2⟩
  | remove _ _ =>
    rw [spelled_object] at hd ⊢
    simp only [List.forall_mem_append, List.forall_mem_cons] at hd ⊢
    exact ⟨hd.1, hd.2.2⟩
  | member hname _ hedit =>
    rw [spelled_object] at hd ⊢
    simp only [List.forall_mem_append, List.forall_mem_cons] at hd ⊢
    exact ⟨hd.1, ⟨hd.2.1.1, h _ hname _ _ hedit hd.2.1.2⟩, hd.2.2⟩
  | item hname hedit =>
    rw [spelled_array] at hd ⊢
    simp only [List.forall_mem_append, List.forall_mem_cons] at hd ⊢
    exact ⟨hd.1, h _ (List.mem_of_getElem? hname) _ _ hedit hd.2.1, hd.2.2⟩

theorem ItemEdit.respells {edit : Doc → Doc → Prop} (h : Respells edit) : Respells (ItemEdit edit) := by
  rintro _ _ ⟨hedit⟩ hd
  rw [spelled_array] at hd ⊢
  simp only [List.forall_mem_append, List.forall_mem_cons] at hd ⊢
  exact ⟨hd.1, h _ _ hedit hd.2.1, hd.2.2⟩

end ScopedQuery.Json
