import ScopedQuery.Proofs.Json.Denoted
import ScopedQuery.Proofs.Json.Record
/-!
# What documents mean as records

* `Slot`, `Doc.record`: what the members of an object, or the items of a list, mean to a record. Members that
  are no fields mean nothing, and a field must not come twice.
* `DenotesMember.members`: the members of an object are read in turn.
* `Means.record`: a record is read from the documents that mean one.
-/

namespace ScopedQuery.Json

variable {α σ : Type}

/-! ### Members -/

theorem nextMember_lead {first : Bool} {m : List Char} (hm : Lead first m) (cs : List Char) :
    nextMember first (m ++ '"' :: cs) = .ok (true, '"' :: cs) := by
  cases first with
  | true =>
    rw [nextMember_gap hm]
    rfl
  | false =>
    obtain ⟨w, w', hw, hw', rfl⟩ := hm
    rw [List.append_assoc, nextMember_gap hw, List.cons_append, nextMember, bind_apply,
      peek_cons (by decide), andThen_ok]
    simp [peek_gap hw', peek_cons (c := '"') (by decide)]

theorem SpellsMembers.length_lt {first : Bool} {ms : List (List Char × Doc)} {t : List Char}
    (h : SpellsMembers first ms t) (rest : List Char) : ms.length < (t ++ rest).length + 1 := by
  have hlength : ms.length ≤ t.length := by
    induction ms generalizing first t with
    | nil => exact Nat.zero_le _
    | cons m ms ih =>
      cases h with
      | member hm hname hw hw' ht hts =>
        have hrest := ih hts
        simp only [List.length_append, List.length_cons]
        omega
  rw [List.length_append]
  omega

/-- A step that takes a state further by one member reads the members that mean something to it. -/
structure DenotesMember (member : String → σ → Step σ) (meaning : σ → String → Doc → Option σ) : Prop where
  reads {name : String} {s : σ} {w w' t rest : List Char} {d : Doc} : Gap w → Gap w' → Spells d t →
    Stops rest → (member name s (w ++ ':' :: (w' ++ (t ++ rest)))).toOption =
      (meaning s name d).map fun s' => (s', rest)

/-- What a member with a name in quotation marks means. -/
def memberMeaning (meaning : σ → String → Doc → Option σ) (s : σ) (m : List Char × Doc) : Option σ :=
  (decode m.1).bind fun name => meaning s name m.2

theorem members_close {w : List Char} (hw : Gap w) (member : String → σ → Step σ) (fuel : Nat)
    (first : Bool) (s : σ) (rest : List Char) :
    members member (fuel + 1) first s (w ++ '\x7d' :: rest) = .ok (s, '\x7d' :: rest) := by
  rw [members, bind_apply, nextMember_gap hw]
  rfl

theorem members_lead {first : Bool} {m name : List Char} (hm : Lead first m) (hname : Body name)
    (member : String → σ → Step σ) (fuel : Nat) (s : σ) (cs : List Char) :
    (members member (fuel + 1) first s (m ++ '"' :: (name ++ '"' :: cs))).toOption =
      (decode name).bind fun name => (member name s cs).toOption.bind fun p =>
        (members member fuel false p.1 p.2).toOption := by
  rw [members, bind_apply, nextMember_lead hm, andThen_ok, if_pos rfl, bind_apply, advance_cons,
    andThen_ok, toOption_bind, hname.read]
  cases decode name with
  | none => rfl
  | some name =>
    simp only [Option.map_some, Option.bind_some, toOption_bind]

/-- The members of an object are read in turn. -/
theorem DenotesMember.members {member : String → σ → Step σ} {meaning : σ → String → Doc → Option σ}
    (h : DenotesMember member meaning) {first : Bool} {ms : List (List Char × Doc)} {ts : List Char}
    (hts : SpellsMembers first ms ts) (s : σ) (rest : List Char) {fuel : Nat} (hfuel : ms.length < fuel) :
    (Json.members member fuel first s (ts ++ rest)).toOption =
      (ms.foldlM (memberMeaning meaning) s).map fun s' => (s', '\x7d' :: rest) := by
  obtain ⟨fuel, rfl⟩ := Nat.exists_eq_succ_of_ne_zero (Nat.ne_zero_of_lt hfuel)
  induction ms generalizing first ts fuel s with
  | nil =>
    cases hts with
    | close hw =>
      rw [List.append_assoc, List.singleton_append, members_close hw]
      rfl
  | cons m ms ih =>
    have hmore := Nat.lt_of_succ_lt_succ hfuel
    obtain ⟨fuel, rfl⟩ := Nat.exists_eq_succ_of_ne_zero (Nat.ne_zero_of_lt hmore)
    cases hts with
    | @member _ name d _ lead w w' t ts hm hname hw hw' ht hts =>
      simp only [List.append_assoc, List.cons_append]
      rw [members_lead hm hname, List.foldlM_cons, memberMeaning]
      cases decode name with
      | none => rfl
      | some name =>
        simp only [Option.bind_some]
        rw [h.reads hw hw' ht (hts.stops rest)]
        cases meaning s name d with
        | none => rfl
        | some s' => exact ih hts s' fuel hmore

/-! ### Records -/

/-- A field of a record as documents have it: what a value of it does to the record. -/
structure Slot (σ : Type) where
  name : String
  meaning : Doc → Option (σ → σ)

/-- What a member means to a record under construction. -/
def Doc.fillMember (slots : List (Slot σ)) (state : Partial σ) (name : String) (d : Doc) :
    Option (Partial σ) :=
  match slots.find? (·.name == name) with
  | none => some state
  | some slot =>
    if state.seen.contains name then none
    else (slot.meaning d).map fun put => ⟨put state.record, name :: state.seen⟩

/-- What the items of a list mean to a record, the fields of which they fill in turn. -/
def Doc.fillItems : List (Slot σ) → List Doc → σ → Option σ
  | _, [], a => some a
  | [], _ :: _, _ => none
  | slot :: slots, d :: ds, a => (slot.meaning d).bind fun put => fillItems slots ds (put a)

/-- What a document means that is a record. -/
def Doc.record (slots : List (Slot σ)) (initial : σ) : Doc → Option σ
  | object ms => (ms.foldlM (memberMeaning (fillMember slots)) ⟨initial, []⟩).map (·.record)
  | array items => fillItems slots items initial
  | _ => none

/-- The slot of values that are put into the record. -/
def Slot.of (name : String) (meaning : Doc → Option α) (put : α → σ → σ) : Slot σ :=
  ⟨name, fun d => (meaning d).map put⟩

/-- A field that need not be present, and what its values mean. -/
structure Fits (depth : Nat) (f : Field σ) (slot : Slot σ) : Prop where
  name : f.name = slot.name
  optional : f.required = false
  means : Means f.read depth slot.meaning

theorem Means.fits {item : Reader α} {depth : Nat} {meaning : Doc → Option α} (h : Means item depth meaning)
    (name : String) (put : α → σ → σ) :
    Fits depth (optionalField name item put) (.of name meaning put) :=
  ⟨rfl, rfl, h.map put⟩

theorem record_of_ne {c : Char} (hspace : isSpace c = false) (hbracket : c ≠ '[') (hbrace : c ≠ '\x7b')
    (name : String) (fields : List (Field σ)) (initial : σ) (levels : Nat) (cs : List Char) :
    (record name fields initial levels (c :: cs)).toOption = none := by
  rw [record, bind_apply, start_cons hspace, andThen_ok]
  simp only [ite_apply]
  rw [if_neg hbracket, if_neg hbrace]
  exact mismatch_fails c _ _

section

variable {depth : Nat} {fields : List (Field σ)} {slots : List (Slot σ)}
  (h : List.Forall₂ (Fits depth) fields slots)

include h

theorem find?_slot (name : String) :
    Option.Rel (Fits depth) (fields.find? (·.name == name)) (slots.find? (·.name == name)) := by
  induction h with
  | nil => exact .none
  | @cons f slot fields slots hfirst _ ih =>
    rw [List.find?_cons, List.find?_cons, hfirst.name]
    cases slot.name == name with
    | true => exact .some hfirst
    | false => exact ih

theorem find?_required (p : Field σ → Bool) : (fields.find? fun f => f.required && p f) = none := by
  induction h with
  | nil => rfl
  | @cons f slot fields slots hfirst _ ih =>
    rw [List.find?_cons, hfirst.optional, Bool.false_and, ih]

theorem denotesMember_recordMember {levels : Nat} (hlevels : depth < levels) :
    DenotesMember (recordMember fields levels) (Doc.fillMember slots) where
  reads {name state w w' t rest d} hw hw' ht hrest := by
    rw [recordMember, Doc.fillMember]
    have hfind := find?_slot h name
    generalize fields.find? (·.name == name) = f at hfind ⊢
    generalize slots.find? (·.name == name) = slot at hfind ⊢
    cases hfind with
    | none =>
      simp only []
      rw [bind_apply, colon_gap hw, colon_colon, andThen_ok, bind_apply, skip_spelled ht hw' hrest]
      rfl
    | @some f slot hfits =>
      simp only []
      by_cases hseen : state.seen.contains name = true
      · rw [if_pos hseen, if_pos hseen]
        rfl
      · have hread := hfits.means levels hlevels
        rw [unless_apply hseen, if_neg hseen, bind_apply, colon_gap hw, colon_colon, andThen_ok,
          toOption_bind, hread.gap hw', hread.reads ht hrest]
        cases slot.meaning d <;> rfl

theorem recordItems_reads (expected : String) {levels : Nat} (hlevels : depth < levels) {index : Nat}
    {first : Bool} (hindex : (index == 0) = first) {ds : List Doc} {ts : List Char}
    (hts : SpellsItems first ds ts) (a : σ) (rest : List Char) :
    ((do
        let a ← recordItems expected levels fields index a
        closeList
        return a : Step σ) (ts ++ rest)).toOption =
      (Doc.fillItems slots ds a).map fun b => (b, rest) := by
  induction h generalizing ds index first ts a with
  | nil =>
    rw [recordItems, bind_apply, pure_apply, andThen_ok, bind_apply]
    cases hts with
    | close hw =>
      rw [List.append_assoc, closeList_gap hw, List.singleton_append, closeList_close]
      rfl
    | @item _ d ds m t ts hm ht hts =>
      obtain ⟨c, cs, rfl, hc⟩ := ht.exists_head
      simp only [List.append_assoc, List.cons_append]
      rw [toOption_andThen, closeList_lead hm hc]
      rfl
  | @cons f slot fields slots hfirst hothers ih =>
    rw [recordItems, hindex]
    cases hts with
    | close hw =>
      have hnone : (f :: fields).find? (·.required) = none := by
        have hall := find?_required (.cons hfirst hothers) fun _ => true
        simpa only [Bool.and_true] using hall
      rw [List.append_assoc, List.singleton_append, bind_apply, bind_apply, nextItem_gap hw,
        nextItem_close, andThen_ok, if_neg Bool.false_ne_true]
      simp only [hnone]
      rfl
    | @item _ d ds m t ts hm ht hts =>
      have hread := (hfirst.means levels hlevels).reads ht (hts.stops rest)
      obtain ⟨c, cs, rfl, hc⟩ := ht.exists_head
      simp only [List.append_assoc, List.cons_append] at hread ⊢
      rw [bind_assoc, bind_apply, nextItem_lead hm hc, andThen_ok, if_pos rfl, bind_assoc, toOption_bind,
        hread, Doc.fillItems]
      cases slot.meaning d with
      | none => rfl
      | some put => exact ih (show (index + 1 == 0) = false from rfl) hts (put a)

theorem Means.record (name : String) (initial : σ) :
    Means (Json.record name fields initial) (depth + 1) (Doc.record slots initial) := by
  intro levels hlevels
  refine ⟨fun hw cs => start_bind_gap hw cs _, fun {d t rest} ht hrest => ?_⟩
  cases ht with
  | number h =>
    obtain ⟨c, cs, rfl, hc⟩ := h.exists_head
    exact record_of_ne (isSpace_of_startsValue (startsValue_of_number hc))
      (ne_of_number hc (by decide) rfl) (ne_of_number hc (by decide) rfl) name fields initial levels _
  | @array ds ts hts =>
    have hread := recordItems_reads h
      ("struct " ++ name ++ " with " ++ toString fields.length ++
        if fields.length = 1 then " element" else " elements")
      (Nat.lt_sub_of_add_lt hlevels) (show (0 == 0) = true from rfl) hts initial rest
    rw [List.cons_append, Json.record, bind_apply, start_cons rfl, andThen_ok]
    simp only [ite_apply, if_true]
    rw [enter_cons (by omega)]
    exact hread
  | @object ms ts hts =>
    have hread := (denotesMember_recordMember h (Nat.lt_sub_of_add_lt hlevels)).members hts
      ⟨initial, []⟩ rest (hts.length_lt rest)
    rw [List.cons_append, record_object name fields initial (by omega), bind_apply, get_apply, andThen_ok,
      toOption_bind, hread, Doc.record]
    cases ms.foldlM (memberMeaning (Doc.fillMember slots)) ⟨initial, []⟩ with
    | none => rfl
    | some state =>
      simp only [Option.map_some, Option.bind_some, find?_required h]
      rfl
  | _ => exact record_of_ne (by decide) (by decide) (by decide) name fields initial levels _

end

end ScopedQuery.Json
