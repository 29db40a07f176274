import ScopedQuery.Proofs.Json.Accepted
/-!
# What documents mean to readers

* `Denotes step meaning`: a step reads just the documents that mean something to it, whatever their texts.
* `Means reader depth meaning`: so does a reader that may enter more than `depth` levels.
* `denotes_textOf`, `denotes_boolean` and `denotes_word`: what scalars mean.
* `Means.optional` and `Means.list`: what is made of parts means what its parts do, put together.
* `value_scalar`: a value that is neither a list nor an object is read as such.
* `Means.run`: what a whole text is read as depends on its document alone.
-/

namespace ScopedQuery.Json

variable {α β σ : Type}

theorem stops_gap {w : List Char} (hw : Gap w) : Stops w := by
  intro c hc
  exact .inl (hw c (List.mem_of_mem_head? hc))

/-! ### Marks -/

theorem nextItem_lead {first : Bool} {m : List Char} (hm : Lead first m) {c : Char}
    (hc : startsValue c = true) (cs : List Char) :
    nextItem first (m ++ c :: cs) = .ok (true, c :: cs) := by
  have hspace := isSpace_of_startsValue hc
  have hclose := ne_of_startsValue hc
  cases first with
  | true => rw [nextItem_gap hm, nextItem_first hspace hclose]
  | false =>
    obtain ⟨w, w', hw, hw', rfl⟩ := hm
    rw [List.append_assoc, nextItem_gap hw, List.cons_append, nextItem, bind_apply,
      peek_cons (by decide), andThen_ok]
    simp [peek_gap hw', peek_cons hspace]

/-- A list goes on in front of an item. -/
theorem closeList_lead {first : Bool} {m : List Char} (hm : Lead first m) {c : Char}
    (hc : startsValue c = true) (cs : List Char) : (closeList (m ++ c :: cs)).toOption = none := by
  cases first with
  | true =>
    rw [closeList_gap hm]
    exact closeList_of_ne (isSpace_of_startsValue hc) (ne_of_startsValue hc) cs
  | false =>
    obtain ⟨w, w', hw, -, rfl⟩ := hm
    rw [List.append_assoc, closeList_gap hw]
    exact closeList_of_ne (by decide) (by decide) _

/-! ### Readers -/

theorem toOption_bind (x : Step α) (f : α → Step β) (cs : List Char) :
    ((x >>= f) cs).toOption = (x cs).toOption.bind fun p => (f p.1 p.2).toOption := by
  rw [bind_apply, toOption_andThen]

/-- A step reads the documents that mean something to it, and no others, whatever ends them. -/
structure Denotes (step : Step α) (meaning : Doc → Option α) : Prop where
  gap {w : List Char} : Gap w → ∀ cs, step (w ++ cs) = step cs
  reads {d : Doc} {t rest : List Char} : Spells d t → Stops rest →
    (step (t ++ rest)).toOption = (meaning d).map fun a => (a, rest)

/-- What a document means to a reader that may enter more than so many levels. -/
def Means (reader : Reader α) (depth : Nat) (meaning : Doc → Option α) : Prop :=
  ∀ levels, depth < levels → Denotes (reader levels) meaning

theorem Means.mono {reader : Reader α} {depth depth' : Nat} {meaning : Doc → Option α}
    (h : Means reader depth meaning) (hle : depth ≤ depth') : Means reader depth' meaning :=
  fun levels hlevels => h levels (Nat.lt_of_le_of_lt hle hlevels)

theorem Denotes.map {step : Step α} {meaning : Doc → Option α} (h : Denotes step meaning) (f : α → β) :
    Denotes (do return f (← step)) fun d => (meaning d).map f where
  gap hw cs := by rw [bind_apply, bind_apply, h.gap hw]
  reads ht hrest := by
    rw [toOption_bind, h.reads ht hrest]
    cases meaning _ <;> rfl

theorem Means.map {reader : Reader α} {depth : Nat} {meaning : Doc → Option α}
    (h : Means reader depth meaning) (f : α → β) :
    Means (fun levels => do return f (← reader levels)) depth fun d => (meaning d).map f :=
  fun levels hlevels => (h levels hlevels).map f

/-! ### Scalars -/

/-- The text that a document is. -/
def Doc.text? : Doc → Option String
  | string body => decode body
  | _ => none

def Doc.bool? : Doc → Option Bool
  | bool b => some b
  | _ => none

/-- The integer of some bounds that a document is. -/
def Doc.integer? (low high : Int) : Doc → Option Int
  | number t =>
    match numeralOf t with
    | some (.int n) => if low ≤ n ∧ n < high then some n else none
    | _ => none
  | _ => none

/-- The word of 64 bits that a document is. -/
def Doc.word? (d : Doc) : Option Int64 :=
  (d.integer? Int64.minValue.toInt (Int64.maxValue.toInt + 1)).map Int64.ofInt

theorem textOf_of_ne {c : Char} (hspace : isSpace c = false) (hc : c ≠ '"') (expected : String)
    (levels : Nat) (cs : List Char) : (textOf expected levels (c :: cs)).toOption = none := by
  rw [textOf, bind_apply, start_cons hspace, andThen_ok, if_neg hc]
  exact mismatch_fails c expected _

theorem boolean_of_ne {c : Char} (hspace : isSpace c = false) (htrue : c ≠ 't') (hfalse : c ≠ 'f')
    (levels : Nat) (cs : List Char) : (boolean levels (c :: cs)).toOption = none := by
  rw [boolean, bind_apply, start_cons hspace, andThen_ok, if_neg htrue, if_neg hfalse]
  exact mismatch_fails c _ _

theorem integer_of_ne {c : Char} (hspace : isSpace c = false) (hc : ¬(c = '-' ∨ c.isDigit = true))
    (low high : Int) (expected : String) (levels : Nat) (cs : List Char) :
    (integer low high expected levels (c :: cs)).toOption = none := by
  rw [integer, bind_apply, start_cons hspace, andThen_ok, if_neg hc]
  exact mismatch_fails c expected _

/-- A character in front of a number is none of another kind. -/
theorem ne_of_number {c e : Char} (hc : c = '-' ∨ c.isDigit = true) (hminus : e ≠ '-')
    (hdigit : e.isDigit = false) : c ≠ e := by
  rintro rfl
  rcases hc with rfl | hc
  · exact hminus rfl
  · rw [hc] at hdigit
    cases hdigit

theorem denotes_textOf (expected : String) (levels : Nat) :
    Denotes (textOf expected levels) Doc.text? where
  gap hw cs := start_bind_gap hw cs _
  reads {d t rest} ht hrest := by
    cases ht with
    | number h =>
      obtain ⟨c, cs, rfl, hc⟩ := h.exists_head
      exact textOf_of_ne (isSpace_of_startsValue (startsValue_of_number hc))
        (ne_of_number hc (by decide) rfl) expected levels _
    | @string body h =>
      have hread := h.read rest
      rw [List.cons_append, List.append_assoc, textOf, bind_apply, start_cons rfl, andThen_ok, if_pos rfl]
      exact hread
    | _ => exact textOf_of_ne (by decide) (by decide) expected levels _

theorem denotes_boolean (levels : Nat) : Denotes (boolean levels) Doc.bool? where
  gap hw cs := start_bind_gap hw cs _
  reads {d t rest} ht hrest := by
    cases ht with
    | isTrue => rfl
    | isFalse => rfl
    | number h =>
      obtain ⟨c, cs, rfl, hc⟩ := h.exists_head
      exact boolean_of_ne (isSpace_of_startsValue (startsValue_of_number hc))
        (ne_of_number hc (by decide) rfl) (ne_of_number hc (by decide) rfl) levels _
    | _ => exact boolean_of_ne (by decide) (by decide) (by decide) levels _

theorem denotes_integer (low high : Int) (expected : String) (levels : Nat) :
    Denotes (integer low high expected levels) (Doc.integer? low high) where
  gap hw cs := start_bind_gap hw cs _
  reads {d t rest} ht hrest := by
    cases ht with
    | number h =>
      obtain ⟨c, cs, rfl, hc, hread⟩ := h.read hrest
      have hspace := isSpace_of_startsValue (startsValue_of_number hc)
      rw [List.cons_append] at hread ⊢
      rw [integer, bind_apply, start_cons hspace, andThen_ok, if_pos hc, toOption_bind, hread, Doc.integer?]
      cases numeralOf (c :: cs) with
      | none => rfl
      | some x =>
        cases x with
        | float x => rfl
        | int n =>
          simp only [Option.map_some, Option.bind_some, ite_apply]
          split <;> rfl
    | _ => exact integer_of_ne (by decide) (by decide) low high expected levels _

theorem denotes_word (levels : Nat) : Denotes (word levels) Doc.word? :=
  (denotes_integer _ _ "i64" levels).map Int64.ofInt

/-! ### Values that may be null -/

/-- What a document means if null stands for nothing. -/
def Doc.optional (meaning : Doc → Option α) : Doc → Option (Option α)
  | null => some none
  | d => (meaning d).map some

theorem Spells.head_ne {d : Doc} {t : List Char} (h : Spells d t) (hd : d ≠ .null) :
    ∃ c cs, t = c :: cs ∧ isSpace c = false ∧ c ≠ 'n' := by
  cases h with
  | null => exact absurd rfl hd
  | number h =>
    obtain ⟨c, cs, rfl, hc⟩ := h.exists_head
    exact ⟨c, cs, rfl, isSpace_of_startsValue (startsValue_of_number hc), ne_of_number hc (by decide) rfl⟩
  | _ => exact ⟨_, _, rfl, by decide, by decide⟩

theorem Denotes.optional {item : Reader α} {levels : Nat} {meaning : Doc → Option α}
    (h : Denotes (item levels) meaning) : Denotes (Json.optional item levels) (Doc.optional meaning) where
  gap hw cs := optional_gap hw item levels cs
  reads {d t rest} ht hrest := by
    by_cases hd : d = .null
    · subst hd
      cases ht
      rfl
    · have hmeaning : d.optional meaning = (meaning d).map some := by
        cases d <;> first | rfl | exact absurd rfl hd
      have hread := h.reads ht hrest
      obtain ⟨c, cs, rfl, hspace, hn⟩ := ht.head_ne hd
      rw [List.cons_append] at hread ⊢
      rw [optional_of_ne hspace hn, map_apply, toOption_andThen, hread, hmeaning]
      cases meaning d <;> rfl

theorem Means.optional {item : Reader α} {depth : Nat} {meaning : Doc → Option α}
    (h : Means item depth meaning) : Means (Json.optional item) depth (Doc.optional meaning) :=
  fun levels hlevels => (h levels hlevels).optional

/-! ### Lists -/

theorem SpellsItems.length_le {first : Bool} {ds : List Doc} {t : List Char} (h : SpellsItems first ds t) :
    ds.length < t.length := by
  induction ds generalizing first t with
  | nil =>
    cases h
    simp
  | cons d ds ih =>
    cases h with
    | @item _ _ _ m t ts hm ht hts =>
      obtain ⟨c, cs, rfl, -⟩ := ht.exists_head
      have hrest := ih hts
      simp only [List.length_append, List.length_cons]
      omega

theorem SpellsItems.length_lt {first : Bool} {ds : List Doc} {t : List Char} (h : SpellsItems first ds t)
    (rest : List Char) : ds.length < (t ++ rest).length + 1 := by
  have hlength := h.length_le
  rw [List.length_append]
  omega

/-! ### Lists whose items are checked after they are read -/

theorem mapM_check_cons (check : α → Except Fault β) (x : α) (xs : List α) :
    ((x :: xs).mapM check).toOption =
      (check x).toOption.bind fun b => (xs.mapM check).toOption.map fun bs => b :: bs := by
  rw [List.mapM_cons]
  cases check x with
  | error fault => rfl
  | ok b => cases xs.mapM check <;> rfl

theorem toOption_check (x : Step α) (check : α → Except Fault β) (cs : List Char) :
    ((do check (← x) : Step β) cs).toOption =
      (x cs).toOption.bind fun p => (check p.1).toOption.map fun b => (b, p.2) := by
  rw [toOption_bind]
  cases x cs with
  | error fault => rfl
  | ok p =>
    simp only [toOption_ok, Option.bind_some]
    cases check p.1 <;> rfl

theorem many_lead {first : Bool} {m : List Char} (hm : Lead first m) {c : Char}
    (hc : startsValue c = true) (item : Step α) (fuel : Nat) (cs : List Char) :
    (many item (fuel + 1) first (m ++ c :: cs)).toOption =
      (item (c :: cs)).toOption.bind fun p =>
        (many item fuel false p.2).toOption.map fun q => (p.1 :: q.1, q.2) := by
  rw [many, bind_apply, nextItem_lead hm hc, andThen_ok, if_pos rfl, toOption_bind]
  congr 1
  funext p
  rw [toOption_bind]
  cases many item fuel false p.2 <;> rfl

theorem many_close {w : List Char} (hw : Gap w) (item : Step α) (fuel : Nat) (first : Bool)
    (rest : List Char) : many item (fuel + 1) first (w ++ ']' :: rest) = .ok ([], ']' :: rest) := by
  rw [many, bind_apply, nextItem_gap hw]
  rfl

/-- An item that does not pass fails its list, whether the items are looked at when all of them are read
or one by one. -/
theorem many_check_lead {first : Bool} {m : List Char} (hm : Lead first m) {c : Char}
    (hc : startsValue c = true) (item : Step α) (check : α → Except Fault β) (fuel : Nat)
    (cs : List Char) :
    ((many item (fuel + 1) first (m ++ c :: cs)).toOption.bind fun p =>
        (p.1.mapM check).toOption.map fun bs => (bs, p.2)) =
      ((do check (← item) : Step β) (c :: cs)).toOption.bind fun p =>
        ((many item fuel false p.2).toOption.bind fun q =>
          (q.1.mapM check).toOption.map fun bs => (bs, q.2)).map fun q => (p.1 :: q.1, q.2) := by
  rw [many_lead hm hc, toOption_check, Option.bind_assoc, Option.bind_assoc]
  congr 1
  funext p
  simp only [Option.bind_map, Function.comp_def, mapM_check_cons]
  cases check p.1 with
  | error fault => cases (many item fuel false p.2).toOption <;> rfl
  | ok b =>
    simp only [toOption_ok, Option.bind_some, Option.map_bind, Function.comp_def, Option.map_map]

/-- The items of a list are read and then looked at once more. What comes after an item that does not pass
may be read or not. -/
theorem Denotes.many_check {item : Step α} {check : α → Except Fault β} {meaning : Doc → Option β}
    (h : Denotes (do check (← item)) meaning) {first : Bool} {ds : List Doc} {ts : List Char}
    (hts : SpellsItems first ds ts) (rest : List Char) {fuel : Nat} (hfuel : ds.length < fuel) :
    ((many item fuel first (ts ++ rest)).toOption.bind fun p =>
        (p.1.mapM check).toOption.map fun bs => (bs, p.2)) =
      (ds.mapM meaning).map fun bs => (bs, ']' :: rest) := by
  obtain ⟨fuel, rfl⟩ := Nat.exists_eq_succ_of_ne_zero (Nat.ne_zero_of_lt hfuel)
  induction ds generalizing first ts fuel with
  | nil =>
    cases hts with
    | close hw =>
      rw [List.append_assoc, List.singleton_append, many_close hw]
      rfl
  | cons d ds ih =>
    obtain ⟨fuel, rfl⟩ := Nat.exists_eq_succ_of_ne_zero (Nat.ne_zero_of_lt (Nat.lt_of_succ_lt_succ hfuel))
    cases hts with
    | @item _ _ _ m t ts hm ht hts =>
      have hitem := h.reads ht (hts.stops rest)
      have hothers := ih hts fuel (Nat.lt_of_succ_lt_succ hfuel)
      obtain ⟨c, cs, rfl, hstart⟩ := ht.exists_head
      simp only [List.append_assoc, List.cons_append] at hitem ⊢
      rw [many_check_lead hm hstart, hitem, List.mapM_cons]
      cases meaning d with
      | none => rfl
      | some b =>
        rw [Option.map_some, Option.bind_some, hothers]
        cases ds.mapM meaning <;> rfl

theorem Denotes.check_ok {item : Step α} {meaning : Doc → Option α} (h : Denotes item meaning) :
    Denotes (do (Except.ok (← item) : Except Fault α)) meaning where
  gap hw cs := by rw [bind_apply, bind_apply, h.gap hw]
  reads ht hrest := by
    rw [toOption_check, h.reads ht hrest]
    cases meaning _ <;> rfl

theorem mapM_ok (xs : List α) : (xs.mapM .ok : Except Fault (List α)) = .ok xs := by
  induction xs with
  | nil => rfl
  | cons x xs ih =>
    rw [List.mapM_cons, ih]
    rfl

theorem Denotes.many {item : Step α} {meaning : Doc → Option α} (h : Denotes item meaning) {first : Bool}
    {ds : List Doc} {ts : List Char} (hts : SpellsItems first ds ts) (rest : List Char) {fuel : Nat}
    (hfuel : ds.length < fuel) :
    (Json.many item fuel first (ts ++ rest)).toOption =
      (ds.mapM meaning).map fun xs => (xs, ']' :: rest) := by
  rw [← h.check_ok.many_check hts rest hfuel]
  simp only [mapM_ok, toOption_ok, Option.map_some]
  exact (Option.bind_fun_some _).symm

/-- What a document means that is a list. -/
def Doc.list (meaning : Doc → Option α) : Doc → Option (List α)
  | array items => items.mapM meaning
  | _ => none

theorem list_of_ne {c : Char} (hspace : isSpace c = false) (hc : c ≠ '[') (item : Reader α)
    (levels : Nat) (cs : List Char) : (list item levels (c :: cs)).toOption = none := by
  rw [list, bind_apply, start_cons hspace, andThen_ok, if_neg hc]
  exact mismatch_fails c _ _

theorem Means.list {item : Reader α} {depth : Nat} {meaning : Doc → Option α}
    (h : Means item depth meaning) : Means (Json.list item) (depth + 1) (Doc.list meaning) := by
  intro levels hlevels
  have hitem := h (levels - 1) (by omega)
  refine ⟨fun hw cs => start_bind_gap hw cs _, fun {d t rest} ht hrest => ?_⟩
  cases ht with
  | number h =>
    obtain ⟨c, cs, rfl, hc⟩ := h.exists_head
    exact list_of_ne (isSpace_of_startsValue (startsValue_of_number hc))
      (ne_of_number hc (by decide) rfl) item levels _
  | @array ds ts hts =>
    rw [List.cons_append, Json.list, bind_apply, start_cons rfl, andThen_ok, if_pos rfl,
      enter_cons (by omega), itemsOf, bind_apply, get_apply, andThen_ok, toOption_bind,
      hitem.many hts rest (hts.length_lt rest), Doc.list]
    cases ds.mapM meaning <;> rfl
  | _ => exact list_of_ne (by decide) (by decide) item levels _

/-! ### Any value -/

def Numeral.toValue : Numeral → Value
  | .int n => .int n
  | .float x => .float x

/-- The value that a document is without being a list or an object. -/
def Doc.scalar? : Doc → Option Value
  | null => some .null
  | bool b => some (.bool b)
  | number t => (numeralOf t).map Numeral.toValue
  | string body => (decode body).map .string
  | _ => none

theorem value_gap {w : List Char} (hw : Gap w) (levels : Nat) (cs : List Char) :
    value levels (w ++ cs) = value levels cs := by
  cases levels with
  | zero => rfl
  | succ levels => exact start_bind_gap hw cs _

theorem value_number {t rest : List Char} (h : Number t) (hrest : Stops rest) (levels : Nat) :
    (value (levels + 1) (t ++ rest)).toOption = (numeralOf t).map fun x => (x.toValue, rest) := by
  obtain ⟨c, cs, rfl, hc, hread⟩ := h.read hrest
  have hne : ∀ e : Char, e ≠ '-' → e.isDigit = false → c ≠ e := fun e => ne_of_number hc
  rw [List.cons_append] at hread ⊢
  rw [value, bind_apply, start_cons (isSpace_of_startsValue (startsValue_of_number hc)), andThen_ok]
  simp only [ite_apply]
  rw [if_neg (hne 'n' (by decide) rfl), if_neg (hne 't' (by decide) rfl), if_neg (hne 'f' (by decide) rfl),
    if_pos hc, toOption_bind, hread]
  cases numeralOf (c :: cs) with
  | none => rfl
  | some x => cases x <;> rfl

theorem value_quote {body : List Char} (h : Body body) (rest : List Char) (levels : Nat) :
    (value (levels + 1) ('"' :: (body ++ '"' :: rest))).toOption =
      (decode body).map fun s => (.string s, rest) := by
  have hvalue : value (levels + 1) ('"' :: (body ++ '"' :: rest)) =
      (do return .string (← textRest) : Step Value) (body ++ '"' :: rest) := rfl
  rw [hvalue, toOption_bind, h.read]
  cases decode body <;> rfl

/-- What is read behind a bracket is a list, if anything is. -/
theorem exists_of_value_bracket {levels : Nat} {cs rest : List Char} {v : Value}
    (h : value levels ('[' :: cs) = .ok (v, rest)) : ∃ items, v = .array items := by
  match levels with
  | 0 => cases h
  | 1 => cases h
  | levels + 2 =>
    rw [value_list, bind_apply, get_apply, andThen_ok] at h
    obtain ⟨items, left, -, hend⟩ := bind_eq_ok.mp h
    obtain ⟨_, left', -, hlast⟩ := bind_eq_ok.mp hend
    exact ⟨items, (Prod.mk.inj (Except.ok.inj hlast)).1.symm⟩

/-- What is read behind a bracket is an object, if anything is. -/
theorem exists_of_value_brace {levels : Nat} {cs rest : List Char} {v : Value}
    (h : value levels ('\x7b' :: cs) = .ok (v, rest)) : ∃ members, v = .object members := by
  match levels with
  | 0 => cases h
  | 1 => cases h
  | levels + 2 =>
    have hvalue : value (levels + 2) ('\x7b' :: cs) =
        (do
          let sorted ← members (anyMember (value (levels + 1))) ((← get).length + 1) true []
          closeObject
          return .object sorted : Step Value) cs := rfl
    rw [hvalue, bind_apply, get_apply, andThen_ok] at h
    obtain ⟨sorted, left, -, hend⟩ := bind_eq_ok.mp h
    obtain ⟨_, left', -, hlast⟩ := bind_eq_ok.mp hend
    exact ⟨sorted, (Prod.mk.inj (Except.ok.inj hlast)).1.symm⟩

/-- A value that is neither a list nor an object is read as such. -/
theorem value_scalar {d : Doc} {t rest : List Char} (ht : Spells d t) (hrest : Stops rest)
    (hlist : ∀ ds, d ≠ .array ds) (hobject : ∀ ms, d ≠ .object ms) (levels : Nat) :
    (value (levels + 1) (t ++ rest)).toOption = d.scalar?.map fun v => (v, rest) := by
  cases ht with
  | null => rfl
  | isTrue => rfl
  | isFalse => rfl
  | number h => rw [value_number h hrest, Doc.scalar?, Option.map_map, Function.comp_def]
  | string h =>
    rw [List.cons_append, List.append_assoc, List.singleton_append, value_quote h, Doc.scalar?,
      Option.map_map, Function.comp_def]
  | array _ => exact absurd rfl (hlist _)
  | object _ => exact absurd rfl (hobject _)

theorem toOption_check_none {x : Step α} {check : α → Except Fault β} {cs : List Char}
    (h : ∀ a rest, x cs = .ok (a, rest) → (check a).toOption = none) :
    ((do check (← x) : Step β) cs).toOption = none := by
  rw [toOption_check]
  cases hx : x cs with
  | error fault => rfl
  | ok p =>
    rw [toOption_ok, Option.bind_some, h p.1 p.2 hx]
    rfl

/-! ### Whole texts -/

theorem Means.run {reader : Reader α} {depth : Nat} {meaning : Doc → Option α}
    (h : Means reader depth meaning) (hdepth : depth < depthLimit) {d : Doc} {text : String}
    (hd : d.IsText text) : (reader.run text).toOption = meaning d := by
  obtain ⟨w, t, w', hw, hw', ht, htext⟩ := hd
  have hread := (h depthLimit hdepth).reads ht (stops_gap hw')
  rw [← (h depthLimit hdepth).gap hw, ← htext] at hread
  apply Option.ext
  intro a
  rw [toOption_eq_some, run_eq_ok]
  constructor
  · rintro ⟨v, -, hok⟩
    rw [hok, toOption_ok] at hread
    obtain ⟨b, hb, hpair⟩ := Option.map_eq_some_iff.mp hread.symm
    rw [hb, (Prod.mk.inj hpair).1]
  · intro ha
    rw [ha] at hread
    exact ⟨w', hw', toOption_eq_some.mp hread⟩

end ScopedQuery.Json
