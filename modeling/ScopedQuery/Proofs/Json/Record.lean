import ScopedQuery.Proofs.Json.Reads
/-!
# Records read back

* `Fills depth fields ms a b`: the members `ms` stand in the order of the fields of a record, only fields
  that are not required are left out, and what is read turns the record `a` into `b`.
* `Fills.record`: a record is read from such members.
* `Fills.optional_field`, `Fills.required_field` and `Fills.option` add one member after another.
-/

namespace ScopedQuery.Json

variable {α σ : Type}

/-- Members fill the fields of a record, in the order of the fields; each puts what is read of its value
into the record. -/
inductive Fills (depth : Nat) : List (Field σ) → List (String × Value) → σ → σ → Prop
  | nil (a : σ) : Fills depth [] [] a a
  | skip {f : Field σ} {fields : List (Field σ)} {ms : List (String × Value)} {a b : σ}
      (optional : f.required = false) (rest : Fills depth fields ms a b) :
      Fills depth (f :: fields) ms a b
  | put {f : Field σ} {fields : List (Field σ)} {ms : List (String × Value)} {a b : σ} {v : Value}
      {put : σ → σ} (read : Reads f.read depth v put) (rest : Fills depth fields ms (put a) b) :
      Fills depth (f :: fields) ((f.name, v) :: ms) a b

/-! ### Members -/

/-- The text of a member. -/
def memberText (m : String × Value) : List Char := writeText m.1 ++ ':' :: write m.2

theorem writeMembers_eq (ms : List (String × Value)) : writeMembers ms = ms.map memberText := by
  induction ms with
  | nil => rfl
  | cons m ms ih => rw [writeMembers, ih, List.map_cons, memberText]

theorem nextMember_text (first : Bool) (m : String × Value) (cs : List Char) :
    nextMember first ((if first then memberText m else ',' :: memberText m) ++ cs) =
      .ok (true, memberText m ++ cs) := by
  cases first <;> rfl

/-- Each member, read behind its name, takes a state to the next. -/
inductive Follows (member : String → σ → Step σ) : List (String × Value) → σ → σ → Prop
  | nil (s : σ) : Follows member [] s s
  | cons {name : String} {v : Value} {ms : List (String × Value)} {s t u : σ}
      (first : ∀ rest, EndsValue rest → member name s (':' :: (write v ++ rest)) = .ok (t, rest))
      (others : Follows member ms t u) : Follows member ((name, v) :: ms) s u

/-- The members of a written object are read one after the other. -/
theorem Follows.members {member : String → σ → Step σ} {ms : List (String × Value)} {s t : σ}
    (h : Follows member ms s t) {fuel : Nat} (hfuel : ms.length < fuel) (first : Bool)
    (rest : List Char) :
    members member fuel first s (commas first (ms.map memberText) ++ '\x7d' :: rest) =
      .ok (t, '\x7d' :: rest) := by
  induction h generalizing fuel first with
  | nil =>
    obtain ⟨fuel, rfl⟩ := Nat.exists_eq_succ_of_ne_zero (Nat.ne_zero_of_lt hfuel)
    rw [Json.members, bind_apply, List.map_nil, commas, List.nil_append, nextMember_close]
    rfl
  | @cons name v ms s t u hfirst _ ih =>
    obtain ⟨fuel, rfl⟩ := Nat.exists_eq_succ_of_ne_zero (Nat.ne_zero_of_lt hfuel)
    have hread := hfirst _ (endsValue_commas (.inr rfl) (ms.map memberText) rest)
    rw [Json.members, bind_apply, List.map_cons, commas, List.append_assoc, nextMember_text, andThen_ok]
    simp only [memberText, List.append_assoc, writeText_append, List.cons_append]
    simp [textRest_escaped, hread, ih (Nat.lt_of_succ_lt_succ hfuel)]

/-! ### Fields -/

theorem find?_name {fields : List (Field σ)} (hnames : (fields.map (·.name)).Nodup) {f : Field σ}
    (hf : f ∈ fields) : fields.find? (·.name == f.name) = some f := by
  induction fields with
  | nil => cases hf
  | cons g fields ih =>
    rw [List.map_cons, List.nodup_cons] at hnames
    rcases List.mem_cons.mp hf with rfl | hf
    · simp
    · have hne : (g.name == f.name) = false := by
        rw [beq_eq_false_iff_ne]
        intro heq
        exact hnames.1 (heq ▸ List.mem_map_of_mem hf)
      rw [List.find?_cons_of_neg (by simp [hne]), ih hnames.2 hf]

/-- A field that has not been seen is put into the record. -/
theorem recordMember_put {all : List (Field σ)} {f : Field σ}
    (hfind : all.find? (·.name == f.name) = some f) {seen : List String} (hseen : f.name ∉ seen)
    {depth levels : Nat} (hlevels : depth < levels) {v : Value} {put : σ → σ}
    (hread : Reads f.read depth v put) (a : σ) {rest : List Char} (hrest : EndsValue rest) :
    recordMember all levels f.name ⟨a, seen⟩ (':' :: (write v ++ rest)) =
      .ok (⟨put a, f.name :: seen⟩, rest) := by
  have hcontains : ¬seen.contains f.name = true := by
    rwa [List.contains_iff_mem]
  rw [recordMember, hfind]
  simp only []
  rw [unless_apply hcontains]
  simp [hread levels rest hlevels hrest]

section

variable {depth : Nat} {fields : List (Field σ)} {ms : List (String × Value)} {a b : σ}

/-- Members that fill fields which have not been seen are read in turn, and every required field has
been seen by then. -/
theorem Fills.follows (h : Fills depth fields ms a b) {all : List (Field σ)}
    (hfind : ∀ f ∈ fields, all.find? (·.name == f.name) = some f)
    (hnames : (fields.map (·.name)).Nodup) {levels : Nat} (hlevels : depth < levels)
    {seen : List String} (hseen : ∀ f ∈ fields, f.name ∉ seen) :
    ∃ seen', Follows (recordMember all levels) ms ⟨a, seen⟩ ⟨b, seen'⟩ ∧ seen ⊆ seen' ∧
      ∀ f ∈ fields, f.required = true → f.name ∈ seen' := by
  induction h generalizing seen with
  | nil a => exact ⟨seen, .nil _, List.Subset.refl seen, by simp⟩
  | @skip f fields ms a b hoptional _ ih =>
    rw [List.map_cons, List.nodup_cons] at hnames
    obtain ⟨seen', hfollows, hsub, hrequired⟩ := ih (fun g hg => hfind g (List.mem_cons_of_mem f hg))
      hnames.2 (fun g hg => hseen g (List.mem_cons_of_mem f hg))
    refine ⟨seen', hfollows, hsub, fun g hg hreq => ?_⟩
    rcases List.mem_cons.mp hg with rfl | hg
    · rw [hoptional] at hreq
      cases hreq
    · exact hrequired g hg hreq
  | @put f fields ms a b v put hread _ ih =>
    rw [List.map_cons, List.nodup_cons] at hnames
    -- the names of the other fields differ from the one that has now been seen
    have hothers : ∀ g ∈ fields, g.name ∉ f.name :: seen := by
      intro g hg hmem
      rcases List.mem_cons.mp hmem with heq | hmem
      · exact hnames.1 (heq ▸ List.mem_map_of_mem hg)
      · exact hseen g (List.mem_cons_of_mem f hg) hmem
    obtain ⟨seen', hfollows, hsub, hrequired⟩ := ih (fun g hg => hfind g (List.mem_cons_of_mem f hg))
      hnames.2 hothers
    have hfirst := fun rest (hrest : EndsValue rest) =>
      recordMember_put (hfind f List.mem_cons_self) (hseen f List.mem_cons_self) hlevels hread a hrest
    refine ⟨seen', .cons hfirst hfollows, fun name hname => hsub (List.mem_cons_of_mem _ hname),
      fun g hg hreq => ?_⟩
    rcases List.mem_cons.mp hg with rfl | hg
    · exact hsub List.mem_cons_self
    · exact hrequired g hg hreq

/-! ### Records -/

theorem write_object_append (ms : List (String × Value)) (rest : List Char) :
    write (.object ms) ++ rest = '\x7b' :: (commas true (ms.map memberText) ++ '\x7d' :: rest) := by
  simp [write_object, writeMembers_eq, joined_eq_commas]

/-- What is read behind an opening brace. -/
theorem record_object (name : String) (fields : List (Field σ)) (a : σ) {levels : Nat}
    (hlevels : 1 < levels) (cs : List Char) :
    record name fields a levels ('\x7b' :: cs) =
      (do
        let state ← members (recordMember fields (levels - 1)) ((← get).length + 1) true ⟨a, []⟩
        match fields.find? fun f => f.required && !state.seen.contains f.name with
        | some f => fail (.missingField f.name)
        | none =>
          closeObject
          return state.record : Step σ) cs := by
  rw [record, bind_apply, start_cons rfl, andThen_ok]
  simp only [ite_apply]
  rw [if_neg (by decide), if_pos trivial]
  exact enter_cons hlevels '\x7b' cs

/-- A record is read from members that fill its fields, one level further in. -/
theorem Fills.record (h : Fills depth fields ms a b) (name : String)
    (hnames : (fields.map (·.name)).Nodup) :
    Reads (record name fields a) (depth + 1) (.object ms) b := by
  intro levels rest hlevels _
  have hinner : depth < levels - 1 := by omega
  have hunseen : ∀ f ∈ fields, f.name ∉ ([] : List String) := fun f _ => List.not_mem_nil
  obtain ⟨seen, hfollows, -, hrequired⟩ := h.follows (fun f hf => find?_name hnames hf) hnames hinner
    hunseen
  have hfuel : ms.length < (commas true (ms.map memberText) ++ '\x7d' :: rest).length + 1 := by
    have hfilled : ∀ piece ∈ ms.map memberText, piece ≠ [] := by
      intro piece hpiece
      obtain ⟨m, -, rfl⟩ := List.mem_map.mp hpiece
      exact List.cons_ne_nil '"' _
    have hlength := length_le_commas hfilled true
    rw [List.length_map] at hlength
    rw [List.length_append]
    omega
  have hnone : (fields.find? fun f => f.required && !seen.contains f.name) = none := by
    rw [List.find?_eq_none]
    intro f hf hmissing
    rw [Bool.and_eq_true, Bool.not_eq_true', ← Bool.not_eq_true, List.contains_iff_mem] at hmissing
    exact hmissing.2 (hrequired f hf hmissing.1)
  rw [write_object_append, record_object name fields a (by omega), bind_apply, get_apply, andThen_ok,
    bind_apply, hfollows.members hfuel, andThen_ok]
  simp only []
  rw [hnone]
  rfl

/-! ### Members -/

section

variable {item : Reader α} {put : α → σ → σ}

theorem Fills.optional_field {v : Value} {x : α} (hread : Reads item depth v x) (name : String)
    (rest : Fills depth fields ms (put x a) b) :
    Fills depth (optionalField name item put :: fields) ((name, v) :: ms) a b :=
  .put (hread.map put) rest

theorem Fills.required_field {v : Value} {x : α} (hread : Reads item depth v x) (name : String)
    (rest : Fills depth fields ms (put x a) b) :
    Fills depth (requiredField name item put :: fields) ((name, v) :: ms) a b :=
  .put (hread.map put) rest

end

/-- A member that is only written if there is something to write. -/
theorem Fills.option {item : Reader (Option α)} {put : Option α → σ → σ} {encode : α → Value}
    {x : Option α} (hread : ∀ y, x = some y → Reads item depth (encode y) (some y))
    (hnone : put none a = a) (name : String) (rest : Fills depth fields ms (put x a) b) :
    Fills depth (optionalField name item put :: fields)
      ((x.map fun y => (name, encode y)).toList ++ ms) a b := by
  cases x with
  | none =>
    rw [hnone] at rest
    exact .skip rfl rest
  | some y => exact .optional_field (hread y rfl) name rest

end

end ScopedQuery.Json
