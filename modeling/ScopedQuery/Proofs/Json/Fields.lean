import Mathlib.Data.List.Pairwise
import ScopedQuery.Proofs.Json.Filled
/-!
# Fields of records

* `fillMember_eq_some`, `absent_of_fill`: what a member does to a record, and that no field comes twice.
* `Apart`: the fields of a record do not get in each other's way, and null stands for what they are at first.
* `fill_null`: a field that is null may as well be absent.
* `put_record`: what the value of a field means stands in the record.
* `record_eq_none`: a record means nothing if the value of one of its fields does not.
-/

namespace ScopedQuery.Json

variable {α σ : Type}

/-! ### Members one after the other -/

/-- What members mean to a record under construction. -/
def Doc.fill (slots : List (Slot σ)) (ms : List (List Char × Doc)) (s : Partial σ) : Option (Partial σ) :=
  ms.foldlM (memberMeaning (fillMember slots)) s

section

variable {slots : List (Slot σ)} {s s' : Partial σ} {name : String} {d : Doc}
  {ms ms' : List (List Char × Doc)}

theorem memberMeaning_eq_some {meaning : σ → String → Doc → Option σ} {a b : σ} {body : List Char} :
    memberMeaning meaning a (body, d) = some b ↔
      ∃ name, decode body = some name ∧ meaning a name d = some b :=
  Option.bind_eq_some_iff

theorem slot_of_find? {slot : Slot σ} (h : slots.find? (·.name == name) = some slot) :
    slot ∈ slots ∧ slot.name = name :=
  ⟨List.mem_of_find?_eq_some h, by simpa using List.find?_some h⟩

/-- A member either means nothing or fills a field that has not been filled. -/
theorem fillMember_eq_some : Doc.fillMember slots s name d = some s' ↔
    (slots.find? (·.name == name) = none ∧ s = s') ∨
      ∃ slot put, slots.find? (·.name == name) = some slot ∧ name ∉ s.seen ∧ slot.meaning d = some put ∧
        ⟨put s.record, name :: s.seen⟩ = s' := by
  rw [Doc.fillMember]
  cases slots.find? (·.name == name) with
  | none => simp
  | some slot =>
    by_cases hseen : name ∈ s.seen
    · simp [hseen]
    · simp [hseen]

theorem fill_cons (m : List Char × Doc) : Doc.fill slots (m :: ms) s =
    (memberMeaning (Doc.fillMember slots) s m).bind (Doc.fill slots ms) :=
  List.foldlM_cons

theorem fill_append : Doc.fill slots (ms ++ ms') s = (Doc.fill slots ms s).bind (Doc.fill slots ms') :=
  List.foldlM_append

theorem fill_cons_eq_some {m : List Char × Doc} : Doc.fill slots (m :: ms) s = some s' ↔
    ∃ t, memberMeaning (Doc.fillMember slots) s m = some t ∧ Doc.fill slots ms t = some s' := by
  rw [fill_cons, Option.bind_eq_some_iff]

theorem fill_append_eq_some : Doc.fill slots (ms ++ ms') s = some s' ↔
    ∃ t, Doc.fill slots ms s = some t ∧ Doc.fill slots ms' t = some s' := by
  rw [fill_append, Option.bind_eq_some_iff]

/-- A property of records that no other member changes holds after all of them. -/
theorem fill_induction (p : Partial σ → Prop)
    (hstep : ∀ m ∈ ms, ∀ s s' name, decode m.1 = some name → Doc.fillMember slots s name m.2 = some s' →
      p s → p s')
    (h : Doc.fill slots ms s = some s') (hs : p s) : p s' := by
  induction ms generalizing s with
  | nil =>
    obtain rfl := Option.some.inj h
    exact hs
  | cons m ms ih =>
    obtain ⟨t, hm, hms⟩ := fill_cons_eq_some.mp h
    obtain ⟨name, hname, hfill⟩ := memberMeaning_eq_some.mp hm
    exact ih (fun m hm => hstep m (List.mem_cons_of_mem _ hm)) hms
      (hstep m List.mem_cons_self s t name hname hfill hs)

/-! ### The names of the fields that are filled -/

/-- No member has the name. -/
def Absent (name : String) (ms : List (List Char × Doc)) : Prop := ∀ m ∈ ms, decode m.1 ≠ some name

theorem not_seen_of_absent (habsent : Absent name ms) (h : Doc.fill slots ms s = some s')
    (hs : name ∉ s.seen) : name ∉ s'.seen := by
  refine fill_induction (fun s => name ∉ s.seen) (fun m hm s s' other hother hfill hs => ?_) h hs
  obtain ⟨-, rfl⟩ | ⟨slot, put, -, -, -, rfl⟩ := fillMember_eq_some.mp hfill
  · exact hs
  · intro hmem
    rcases List.mem_cons.mp hmem with rfl | hmem
    · exact habsent m hm hother
    · exact hs hmem

theorem seen_of_fillMember (h : Doc.fillMember slots s name d = some s') {other : String}
    (hs : other ∈ s.seen) : other ∈ s'.seen := by
  obtain ⟨-, rfl⟩ | ⟨slot, put, -, -, -, rfl⟩ := fillMember_eq_some.mp h
  · exact hs
  · exact List.mem_cons_of_mem _ hs

/-- A record does not depend on which other fields have been filled. -/
theorem fill_congr {a : σ} {seen seen' : List String}
    (h : ∀ m ∈ ms, ∀ name, decode m.1 = some name → (name ∈ seen ↔ name ∈ seen')) :
    (Doc.fill slots ms ⟨a, seen⟩).map (·.record) = (Doc.fill slots ms ⟨a, seen'⟩).map (·.record) := by
  induction ms generalizing a seen seen' with
  | nil => rfl
  | cons m ms ih =>
    have hothers := fun n hn => h n (List.mem_cons_of_mem m hn)
    rw [fill_cons, fill_cons, memberMeaning, memberMeaning]
    cases hname : decode m.1 with
    | none => rfl
    | some name =>
      have hseen := h m List.mem_cons_self name hname
      simp only [Option.bind_some, Doc.fillMember, List.contains_iff_mem, hseen]
      cases slots.find? (·.name == name) with
      | none => exact ih hothers
      | some slot =>
        simp only []
        split
        · rfl
        cases slot.meaning m.2 with
        | none => rfl
        | some put =>
          refine ih fun n hn other hother => ?_
          rw [List.mem_cons, List.mem_cons, hothers n hn other hother]

section

variable {slot : Slot σ} (hfind : slots.find? (·.name == name) = some slot)

include hfind

/-- A member of that name fills the field, for the first time. -/
theorem exists_put_of_member {m : List Char × Doc} (hname : decode m.1 = some name)
    (h : memberMeaning (Doc.fillMember slots) s m = some s') :
    name ∉ s.seen ∧ ∃ put, slot.meaning m.2 = some put ∧ s' = ⟨put s.record, name :: s.seen⟩ := by
  obtain ⟨other, hother, hfill⟩ := memberMeaning_eq_some.mp h
  obtain rfl := Option.some.inj (hname.symm.trans hother)
  obtain ⟨hnone, -⟩ | ⟨slot', put, hfind', hunseen, hput, rfl⟩ := fillMember_eq_some.mp hfill
  · rw [hfind] at hnone
    cases hnone
  · obtain rfl := Option.some.inj (hfind.symm.trans hfind')
    exact ⟨hunseen, put, hput, rfl⟩

/-- A field that has been filled does not come again. -/
theorem absent_of_seen (h : Doc.fill slots ms s = some s') (hs : name ∈ s.seen) : Absent name ms := by
  induction ms generalizing s with
  | nil => exact fun m hm => absurd hm List.not_mem_nil
  | cons m ms ih =>
    obtain ⟨t, hm, hms⟩ := fill_cons_eq_some.mp h
    obtain ⟨other, -, hfill⟩ := memberMeaning_eq_some.mp hm
    exact List.forall_mem_cons.mpr ⟨fun hname => (exists_put_of_member hfind hname hm).1 hs,
      ih hms (seen_of_fillMember hfill hs)⟩

/-- No field comes before it is filled. -/
theorem absent_of_not_seen (h : Doc.fill slots ms s = some s') (hs : name ∉ s'.seen) : Absent name ms := by
  induction ms generalizing s with
  | nil => exact fun m hm => absurd hm List.not_mem_nil
  | cons m ms ih =>
    obtain ⟨t, hm, hms⟩ := fill_cons_eq_some.mp h
    refine List.forall_mem_cons.mpr ⟨fun hname => hs ?_, ih hms⟩
    obtain ⟨-, put, -, rfl⟩ := exists_put_of_member hfind hname hm
    exact fill_induction (fun s => name ∈ s.seen) (fun _ _ _ _ _ _ hfill hs => seen_of_fillMember hfill hs)
      hms List.mem_cons_self

/-- If members mean something to a record, a field comes only once among them. -/
theorem absent_of_fill {body : List Char} (hbody : decode body = some name)
    (h : Doc.fill slots (ms ++ (body, d) :: ms') s = some s') : Absent name (ms ++ ms') := by
  obtain ⟨t, hms, hrest⟩ := fill_append_eq_some.mp h
  obtain ⟨t', hm, hms'⟩ := fill_cons_eq_some.mp hrest
  obtain ⟨hunseen, put, -, rfl⟩ := exists_put_of_member hfind hbody hm
  exact List.forall_mem_append.mpr
    ⟨absent_of_not_seen hfind hms hunseen, absent_of_seen hfind hms' List.mem_cons_self⟩

end

end

/-! ### Fields that are independent -/

/-- The order in which two fields are put into a record does not matter. -/
def Slot.Commutes (s t : Slot σ) : Prop :=
  ∀ d put d' put', s.meaning d = some put → t.meaning d' = some put' → ∀ a, put (put' a) = put' (put a)

instance : Std.Symm (@Slot.Commutes σ) where
  symm _ _ h d put d' put' hd hd' a := (h d' put' d put hd' hd a).symm

/-- The fields of a record do not get in each other's way, and null stands for what they are at first. -/
structure Apart (slots : List (Slot σ)) (initial : σ) : Prop where
  commutes : slots.Pairwise Slot.Commutes
  again : ∀ s ∈ slots, ∀ d put, s.meaning d = some put → ∀ a, put (put a) = put a
  null : ∀ s ∈ slots, ∃ put, s.meaning .null = some put ∧ put initial = initial

theorem Slot.commutes_of {β : Type} {name name' : String} {meaning : Doc → Option α}
    {meaning' : Doc → Option β} {put : α → σ → σ} {put' : β → σ → σ}
    (h : ∀ x y a, put x (put' y a) = put' y (put x a)) :
    (Slot.of name meaning put).Commutes (.of name' meaning' put') := by
  intro d p d' p' hp hp' a
  obtain ⟨x, -, rfl⟩ := Option.map_eq_some_iff.mp hp
  obtain ⟨y, -, rfl⟩ := Option.map_eq_some_iff.mp hp'
  exact h x y a

theorem apart_nil (initial : σ) : Apart [] initial where
  commutes := .nil
  again _ hs := absurd hs List.not_mem_nil
  null _ hs := absurd hs List.not_mem_nil

theorem Apart.cons {name : String} {meaning : Doc → Option α} {put : α → σ → σ} {slots : List (Slot σ)}
    {initial : σ} {x : α} (hnull : meaning .null = some x) (hinitial : put x initial = initial)
    (hagain : ∀ x a, put x (put x a) = put x a) (hothers : ∀ s ∈ slots, (Slot.of name meaning put).Commutes s)
    (h : Apart slots initial) : Apart (.of name meaning put :: slots) initial where
  commutes := h.commutes.cons hothers
  again s hs d p hp a := by
    rcases List.mem_cons.mp hs with rfl | hs
    · obtain ⟨x, -, rfl⟩ := Option.map_eq_some_iff.mp hp
      exact hagain x a
    · exact h.again s hs d p hp a
  null s hs := by
    rcases List.mem_cons.mp hs with rfl | hs
    · exact ⟨put x, Option.map_eq_some_iff.mpr ⟨x, hnull, rfl⟩, hinitial⟩
    · exact h.null s hs

theorem Apart.tail {slot : Slot σ} {slots : List (Slot σ)} {initial : σ}
    (h : Apart (slot :: slots) initial) : Apart slots initial where
  commutes := (List.pairwise_cons.mp h.commutes).2
  again s hs := h.again s (List.mem_cons_of_mem slot hs)
  null s hs := h.null s (List.mem_cons_of_mem slot hs)

section

variable {slots : List (Slot σ)} {initial : σ} (hslots : Apart slots initial)

include hslots

theorem Apart.commute {s t : Slot σ} (hs : s ∈ slots) (ht : t ∈ slots) (hne : s.name ≠ t.name) :
    s.Commutes t :=
  hslots.commutes.forall hs ht fun heq => hne (heq ▸ rfl)

variable {name : String} {slot : Slot σ} (hfind : slots.find? (·.name == name) = some slot)
  {d : Doc} {put : σ → σ} (hput : slot.meaning d = some put)

include hfind hput

/-- What has been put into a record stays there while other fields are filled. -/
theorem put_fill {ms : List (List Char × Doc)} {s s' : Partial σ} (habsent : Absent name ms)
    (h : Doc.fill slots ms s = some s') (hs : put s.record = s.record) : put s'.record = s'.record := by
  refine fill_induction (fun s => put s.record = s.record) (fun m hm s s' other hother hfill hs => ?_) h hs
  obtain ⟨-, rfl⟩ | ⟨slot', put', hfind', -, hput', rfl⟩ := fillMember_eq_some.mp hfill
  · exact hs
  · obtain ⟨hslot, rfl⟩ := slot_of_find? hfind
    obtain ⟨hslot', rfl⟩ := slot_of_find? hfind'
    have hne : slot.name ≠ slot'.name := fun heq => habsent m hm (heq ▸ hother)
    have hcommutes := hslots.commute hslot hslot' hne
    show put (put' s.record) = put' s.record
    rw [hcommutes d put m.2 put' hput hput', hs]

end

section

variable {slots : List (Slot σ)} {initial : σ} (hslots : Apart slots initial) {name : String} {slot : Slot σ}
  (hfind : slots.find? (·.name == name) = some slot) {body : List Char} (hbody : decode body = some name)

include hslots hfind hbody

/-- Null stands for a field that is absent. -/
theorem fill_null {ms ms' : List (List Char × Doc)} (habsent : Absent name (ms ++ ms')) :
    (Doc.fill slots (ms ++ (body, .null) :: ms') ⟨initial, []⟩).map (·.record) =
      (Doc.fill slots (ms ++ ms') ⟨initial, []⟩).map (·.record) := by
  obtain ⟨put, hput, hinitial⟩ := hslots.null slot (slot_of_find? hfind).1
  rw [fill_append, fill_append]
  cases hms : Doc.fill slots ms ⟨initial, []⟩ with
  | none => rfl
  | some s =>
    have hbefore : Absent name ms := fun m hm => habsent m (List.mem_append_left _ hm)
    have hunseen : name ∉ s.seen := not_seen_of_absent hbefore hms List.not_mem_nil
    have hrecord := put_fill hslots hfind hput hbefore hms hinitial
    have hmember : memberMeaning (Doc.fillMember slots) s (body, .null) =
        some ⟨s.record, name :: s.seen⟩ := by
      rw [memberMeaning_eq_some]
      refine ⟨name, hbody, fillMember_eq_some.mpr (.inr ⟨slot, put, hfind, hunseen, hput, ?_⟩)⟩
      rw [hrecord]
    rw [Option.bind_some, Option.bind_some, fill_cons, hmember, Option.bind_some]
    refine fill_congr fun m hm other hother => ?_
    rw [List.mem_cons, or_iff_right]
    rintro rfl
    exact habsent m (List.mem_append_right _ hm) hother

/-- The value of a field stands in the record. -/
theorem put_record_object {ms : List (List Char × Doc)} {d : Doc} {put : σ → σ} {a : σ}
    (hm : (body, d) ∈ ms) (hput : slot.meaning d = some put)
    (h : Doc.record slots initial (.object ms) = some a) : put a = a := by
  obtain ⟨s, hfill, rfl⟩ := Option.map_eq_some_iff.mp h
  obtain ⟨before, after, rfl⟩ := List.append_of_mem hm
  have habsent := absent_of_fill hfind hbody hfill
  obtain ⟨t, hms, hrest⟩ := fill_append_eq_some.mp hfill
  obtain ⟨t', hmember, hms'⟩ := fill_cons_eq_some.mp hrest
  obtain ⟨-, put', hput', rfl⟩ := exists_put_of_member hfind hbody hmember
  obtain rfl := Option.some.inj (hput.symm.trans hput')
  refine put_fill hslots hfind hput (fun m hm => habsent m (List.mem_append_right _ hm)) hms' ?_
  exact hslots.again slot (slot_of_find? hfind).1 d put hput t.record

end

/-! ### Values of fields -/

theorem exists_find?_slot {slots : List (Slot σ)} {name : String} (h : name ∈ slots.map (·.name)) :
    ∃ slot ∈ slots, slot.name = name ∧ slots.find? (·.name == name) = some slot := by
  cases hfind : slots.find? (·.name == name) with
  | none =>
    obtain ⟨slot, hslot, rfl⟩ := List.mem_map.mp h
    exact absurd (beq_self_eq_true slot.name) (List.find?_eq_none.mp hfind slot hslot)
  | some slot =>
    exact ⟨slot, (slot_of_find? hfind).1, (slot_of_find? hfind).2, rfl⟩

/-- A record has a value for a field. The names are those of all fields, in their order. -/
inductive HasField (names : List String) (name : String) (d : Doc) : Doc → Prop
  | member {body : List Char} {ms : List (List Char × Doc)} : decode body = some name → (body, d) ∈ ms →
      HasField names name d (.object ms)
  | item {ds ds' : List Doc} : names[ds.length]? = some name → HasField names name d (.array (ds ++ d :: ds'))

section

variable {slots : List (Slot σ)} {name : String} {d e : Doc}

theorem fillItems_eq_none (hmeaning : ∀ slot ∈ slots, slot.name = name → slot.meaning d = none)
    {ds ds' : List Doc} (hname : (slots.map (·.name))[ds.length]? = some name) (a : σ) :
    Doc.fillItems slots (ds ++ d :: ds') a = none := by
  induction ds generalizing slots a with
  | nil =>
    cases slots with
    | nil => rfl
    | cons slot slots =>
      rw [List.nil_append, Doc.fillItems, hmeaning slot List.mem_cons_self (Option.some.inj hname)]
      rfl
  | cons e ds ih =>
    cases slots with
    | nil => rfl
    | cons slot slots =>
      rw [List.cons_append, Doc.fillItems]
      cases slot.meaning e with
      | none => rfl
      | some put => exact ih (fun s hs => hmeaning s (List.mem_cons_of_mem slot hs)) hname (put a)

/-- A record means nothing if the value of one of its fields does not. -/
theorem record_eq_none (hname : name ∈ slots.map (·.name))
    (hmeaning : ∀ slot ∈ slots, slot.name = name → slot.meaning d = none)
    (hfield : HasField (slots.map (·.name)) name d e) (initial : σ) : Doc.record slots initial e = none := by
  cases hfield with
  | item hindex => exact fillItems_eq_none hmeaning hindex initial
  | @member body ms hbody hm =>
    obtain ⟨slot, hslot, hslotname, hfind⟩ := exists_find?_slot hname
    obtain ⟨before, after, rfl⟩ := List.append_of_mem hm
    refine Option.map_eq_none_iff.mpr (Option.eq_none_iff_forall_ne_some.mpr fun s hfill => ?_)
    obtain ⟨t, -, hrest⟩ := fill_append_eq_some.mp hfill
    obtain ⟨t', hmember, -⟩ := fill_cons_eq_some.mp hrest
    obtain ⟨-, put, hput, -⟩ := exists_put_of_member hfind hbody hmember
    rw [hmeaning slot hslot hslotname] at hput
    cases hput

/-- What has been put into a record stays there while the fields behind it are filled. -/
theorem put_fillItems {slot : Slot σ} {put : σ → σ} (hcommutes : ∀ t ∈ slots, slot.Commutes t)
    (hput : slot.meaning d = some put) {ds : List Doc} {a b : σ} (h : Doc.fillItems slots ds a = some b)
    (ha : put a = a) : put b = b := by
  induction ds generalizing slots a with
  | nil =>
    rw [Doc.fillItems] at h
    exact Option.some.inj h ▸ ha
  | cons e ds ih =>
    cases slots with
    | nil => cases h
    | cons t slots =>
      obtain ⟨put', hput', hrest⟩ := Option.bind_eq_some_iff.mp h
      refine ih (fun s hs => hcommutes s (List.mem_cons_of_mem t hs)) hrest ?_
      rw [hcommutes t List.mem_cons_self d put e put' hput hput', ha]

theorem put_record_array {initial : σ} (hslots : Apart slots initial) {put : σ → σ}
    (hput : ∀ slot ∈ slots, slot.name = name → slot.meaning d = some put) {ds ds' : List Doc}
    (hname : (slots.map (·.name))[ds.length]? = some name) {a b : σ}
    (h : Doc.fillItems slots (ds ++ d :: ds') a = some b) : put b = b := by
  induction ds generalizing slots a with
  | nil =>
    cases slots with
    | nil => cases hname
    | cons slot slots =>
      have hslot := hput slot List.mem_cons_self (Option.some.inj hname)
      obtain ⟨put', hput', hrest⟩ := Option.bind_eq_some_iff.mp h
      obtain rfl := Option.some.inj (hslot.symm.trans hput')
      exact put_fillItems (List.pairwise_cons.mp hslots.commutes).1 hslot hrest
        (hslots.again slot List.mem_cons_self d put hslot a)
  | cons e ds ih =>
    cases slots with
    | nil => cases h
    | cons slot slots =>
      obtain ⟨put', -, hrest⟩ := Option.bind_eq_some_iff.mp h
      exact ih hslots.tail (fun s hs => hput s (List.mem_cons_of_mem slot hs)) hname hrest

/-- The value of a field stands in the record. -/
theorem put_record {initial : σ} (hslots : Apart slots initial) (hname : name ∈ slots.map (·.name))
    {put : σ → σ} (hput : ∀ slot ∈ slots, slot.name = name → slot.meaning d = some put)
    (hfield : HasField (slots.map (·.name)) name d e) {a : σ} (h : Doc.record slots initial e = some a) :
    put a = a := by
  cases hfield with
  | item hindex => exact put_record_array hslots hput hindex h
  | member hbody hm =>
    obtain ⟨slot, hslot, hslotname, hfind⟩ := exists_find?_slot hname
    exact put_record_object hslots hfind hbody hm (hput slot hslot hslotname) h

end

end ScopedQuery.Json
