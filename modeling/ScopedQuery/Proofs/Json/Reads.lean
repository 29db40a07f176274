import Mathlib.Data.List.Forall2
import ScopedQuery.Proofs.Json.Number
import ScopedQuery.Proofs.Json.Text
/-!
# Values read back

`Reads reader depth v a` says that a reader which may enter `depth` levels of lists and objects reads the
written value `v` as `a`, whatever ends the value.

* `reads_text`, `reads_boolean`, `reads_word` and `Reads.optional`: scalars, and values that may be null.
* `Reads.list`: a list is read item by item.
* `Reads.run`: a whole text is read.
-/

namespace ScopedQuery.Json

variable {α β σ : Type}

/-! ### Starts of values -/

/-- Whether a value can start with a character. -/
def startsValue (c : Char) : Bool := !isSpace c && c != ']'

theorem startsValue_of_number {c : Char} (h : c = '-' ∨ c.isDigit = true) : startsValue c = true := by
  rcases h with rfl | h
  · rfl
  · have hne : ∀ d : Char, d.isDigit = false → c ≠ d := fun d hd => Decimal.ne_of_isDigit h hd
    simp [startsValue, isSpace, hne]

theorem isSpace_of_startsValue {c : Char} (h : startsValue c = true) : isSpace c = false := by
  simp only [startsValue, Bool.and_eq_true, Bool.not_eq_true'] at h
  exact h.1

theorem ne_of_startsValue {c : Char} (h : startsValue c = true) : c ≠ ']' := by
  simp only [startsValue, Bool.and_eq_true, bne_iff_ne] at h
  exact h.2

/-- Every written value starts with a character that says so. -/
theorem exists_write_eq_cons (v : Value) : ∃ c cs, write v = c :: cs ∧ startsValue c = true := by
  have hnumber : ∀ cs : List Char, (∃ c ds, cs = c :: ds ∧ (c = '-' ∨ c.isDigit = true)) →
      ∃ c ds, cs = c :: ds ∧ startsValue c = true := by
    rintro _ ⟨c, ds, rfl, hc⟩
    exact ⟨c, ds, rfl, startsValue_of_number hc⟩
  cases v with
  | null => exact ⟨'n', _, rfl, rfl⟩
  | bool b =>
    cases b with
    | false => exact ⟨'f', _, rfl, rfl⟩
    | true => exact ⟨'t', _, rfl, rfl⟩
  | int n => exact hnumber _ (exists_toString_eq_cons n)
  | float x =>
    rw [write_float, writeFloat]
    split
    · exact hnumber _ (exists_render_eq_cons x)
    · exact ⟨'n', _, rfl, rfl⟩
  | string s => exact ⟨'"', _, rfl, rfl⟩
  | array items => exact ⟨'[', _, rfl, rfl⟩
  | object members => exact ⟨'\x7b', _, rfl, rfl⟩

/-! ### Readers of values -/

/-- A reader that may enter so many levels reads a written value, whatever ends it. -/
def Reads (reader : Reader α) (depth : Nat) (v : Value) (a : α) : Prop :=
  ∀ levels rest, depth < levels → EndsValue rest → reader levels (write v ++ rest) = .ok (a, rest)

section

variable {reader : Reader α} {depth : Nat} {v : Value} {a : α} (h : Reads reader depth v a)

include h

theorem Reads.mono {depth' : Nat} (hle : depth ≤ depth') : Reads reader depth' v a :=
  fun levels rest hlevels hrest => h levels rest (Nat.lt_of_le_of_lt hle hlevels) hrest

theorem Reads.map (f : α → β) : Reads (fun levels => do return f (← reader levels)) depth v (f a) := by
  intro levels rest hlevels hrest
  simp [h levels rest hlevels hrest]

/-- What has been read is looked at once more. -/
theorem Reads.check {f : α → Except Fault β} {b : β} (hf : f a = .ok b) :
    Reads (fun levels => do f (← reader levels)) depth v b := by
  intro levels rest hlevels hrest
  simp [h levels rest hlevels hrest, hf]

theorem Reads.optional (hnull : (write v).head? ≠ some 'n') : Reads (optional reader) depth v (some a) := by
  intro levels rest hlevels hrest
  obtain ⟨c, cs, hcs, hstart⟩ := exists_write_eq_cons v
  have hspace := isSpace_of_startsValue hstart
  have hne : c ≠ 'n' := by
    rintro rfl
    rw [hcs] at hnull
    exact hnull rfl
  have hread := h levels rest hlevels hrest
  rw [hcs, List.cons_append] at hread ⊢
  simp [Json.optional, peek_cons hspace, hne, hread]

/-- A whole text is read. -/
theorem Reads.run (hdepth : depth < depthLimit) : reader.run v.compact = .ok a := by
  have hread := h depthLimit [] hdepth endsValue_nil
  rw [List.append_nil] at hread
  rw [Reader.run, Value.compact, String.toList_ofList, StateT.run, hread]
  rfl

end

theorem reads_optional_null (item : Reader α) : Reads (optional item) 0 .null none :=
  fun _ _ _ _ => rfl

theorem reads_text (s : String) : Reads text 0 (.string s) s := by
  intro levels rest _ _
  rw [write_string, writeText_append]
  simp [text, textOf, start_cons (c := '"') rfl, textRest_escaped]

theorem reads_boolean (b : Bool) : Reads boolean 0 (.bool b) b := by
  intro levels rest _ _
  cases b <;> rfl

theorem reads_integer {low high n : Int} (hn : IsWord n) (hlow : low ≤ n) (hhigh : n < high)
    (expected : String) : Reads (integer low high expected) 0 (.int n) n := by
  intro levels rest _ hrest
  obtain ⟨c, cs, hcs, hc⟩ := exists_toString_eq_cons n
  have hspace := isSpace_of_startsValue (startsValue_of_number hc)
  have hread := signedNumeral_toString hn hcs hrest
  rw [write_int, hcs, List.cons_append]
  simp [integer, start_cons hspace, hc, hread, hlow, hhigh]

theorem reads_word (n : Int64) : Reads word 0 (.int n.toInt) n := by
  have hread := reads_integer (isWord_toInt n) (Int64.minValue_le_toInt n)
    (Int.lt_add_one_of_le (Int64.toInt_le n)) "i64"
  have hmap := hread.map Int64.ofInt
  rw [Int64.ofInt_toInt] at hmap
  exact hmap

/-! ### Pieces with commas -/

/-- Pieces with a comma before each of them, except the first of all. -/
def commas (first : Bool) : List (List Char) → List Char
  | [] => []
  | piece :: pieces => (if first then piece else ',' :: piece) ++ commas false pieces

theorem joined_eq_commas (pieces : List (List Char)) : joined [','] pieces = commas true pieces := by
  cases pieces with
  | nil => rfl
  | cons piece pieces =>
    induction pieces generalizing piece with
    | nil => simp [joined, commas]
    | cons next pieces ih =>
      rw [joined, ih next]
      · simp [commas]
      · simp

/-- Behind a piece stands a comma or the closing bracket. -/
theorem endsValue_commas {close : Char} (hclose : close = ']' ∨ close = '\x7d')
    (pieces : List (List Char)) (rest : List Char) :
    EndsValue (commas false pieces ++ close :: rest) := by
  cases pieces with
  | nil => exact endsValue_cons (.inr hclose) rest
  | cons piece pieces => exact endsValue_cons (.inl rfl) _

theorem length_le_commas {pieces : List (List Char)} (h : ∀ piece ∈ pieces, piece ≠ [])
    (first : Bool) : pieces.length ≤ (commas first pieces).length := by
  induction pieces generalizing first with
  | nil => simp
  | cons piece pieces ih =>
    have hrest := ih (fun p hp => h p (List.mem_cons_of_mem piece hp)) false
    have hpiece := List.length_pos_iff.mpr (h piece List.mem_cons_self)
    cases first <;> simp only [commas, if_true, Bool.false_eq_true, if_false, List.length_append,
      List.length_cons] <;> omega

/-! ### Lists -/

theorem writeItems_eq (vs : List Value) : writeItems vs = vs.map write := by
  induction vs with
  | nil => rfl
  | cons v vs ih => rw [writeItems, ih, List.map_cons]

/-- The next item starts where its value does. -/
theorem nextItem_write (first : Bool) (v : Value) (cs : List Char) :
    nextItem first ((if first then write v else ',' :: write v) ++ cs) = .ok (true, write v ++ cs) := by
  obtain ⟨c, ds, hcs, hstart⟩ := exists_write_eq_cons v
  have hspace := isSpace_of_startsValue hstart
  have hclose := ne_of_startsValue hstart
  rw [hcs]
  cases first with
  | true => exact nextItem_first hspace hclose _
  | false => exact nextItem_comma hspace hclose _

theorem many_items {item : Step α} {vs : List Value} {as : List α}
    (h : List.Forall₂ (fun v a => ∀ rest, EndsValue rest → item (write v ++ rest) = .ok (a, rest)) vs as)
    {fuel : Nat} (hfuel : vs.length < fuel) (first : Bool) (rest : List Char) :
    many item fuel first (commas first (vs.map write) ++ ']' :: rest) = .ok (as, ']' :: rest) := by
  induction h generalizing fuel first with
  | nil =>
    obtain ⟨fuel, rfl⟩ := Nat.exists_eq_succ_of_ne_zero (Nat.ne_zero_of_lt hfuel)
    rw [many, bind_apply, List.map_nil, commas, List.nil_append, nextItem_close]
    simp
  | @cons v a vs as hfirst _ ih =>
    obtain ⟨fuel, rfl⟩ := Nat.exists_eq_succ_of_ne_zero (Nat.ne_zero_of_lt hfuel)
    have hread := hfirst _ (endsValue_commas (.inl rfl) (vs.map write) rest)
    rw [many, bind_apply, List.map_cons, commas, List.append_assoc, nextItem_write]
    simp [hread, ih (Nat.lt_of_succ_lt_succ hfuel)]

/-- The items of a written list are read up to its end. -/
theorem many_read {item : Reader α} {depth : Nat} {vs : List Value} {as : List α}
    (h : List.Forall₂ (Reads item depth) vs as) {levels : Nat} (hlevels : depth < levels)
    (rest : List Char) :
    many (item levels) ((joined [','] (writeItems vs) ++ ']' :: rest).length + 1) true
      (joined [','] (writeItems vs) ++ ']' :: rest) = .ok (as, ']' :: rest) := by
  rw [joined_eq_commas, writeItems_eq]
  refine many_items (h.imp fun v a hread rest hrest => hread levels rest hlevels hrest) ?_ true rest
  -- no written item is empty, so there are no more items than characters
  have hfilled : ∀ piece ∈ vs.map write, piece ≠ [] := by
    intro piece hpiece
    obtain ⟨v, -, rfl⟩ := List.mem_map.mp hpiece
    obtain ⟨c, cs, hcs, -⟩ := exists_write_eq_cons v
    rw [hcs]
    exact List.cons_ne_nil c cs
  have hlength := length_le_commas hfilled true
  rw [List.length_map] at hlength
  rw [List.length_append]
  omega

theorem write_array_append (vs : List Value) (rest : List Char) :
    write (.array vs) ++ rest = '[' :: (joined [','] (writeItems vs) ++ ']' :: rest) := by
  simp [write_array]

theorem enter_cons {body : Reader α} {levels : Nat} (h : 1 < levels) (c : Char) (cs : List Char) :
    enter body levels (c :: cs) = body (levels - 1) cs := by
  rw [enter, unless_apply (by omega)]
  rfl

/-- A list is read item by item, one level further in. -/
theorem Reads.list {item : Reader α} {depth : Nat} {vs : List Value} {as : List α}
    (h : List.Forall₂ (Reads item depth) vs as) :
    Reads (list item) (depth + 1) (.array vs) as := by
  intro levels rest hlevels _
  rw [write_array_append, Json.list, bind_apply, start_cons rfl, andThen_ok, if_pos rfl,
    enter_cons (by omega), itemsOf, bind_apply, get_apply, andThen_ok, bind_apply,
    many_read h (by omega)]
  rfl

/-! ### Values of any kind -/

theorem reads_value_string (s : String) : Reads value 0 (.string s) (.string s) := by
  intro levels rest hlevels _
  obtain ⟨levels, rfl⟩ := Nat.exists_eq_succ_of_ne_zero (Nat.ne_zero_of_lt hlevels)
  rw [write_string, writeText_append, value, bind_apply, start_cons rfl, andThen_ok]
  simp [textRest_escaped]

theorem reads_value_int {n : Int} (hn : IsWord n) : Reads value 0 (.int n) (.int n) := by
  intro levels rest hlevels hrest
  obtain ⟨levels, rfl⟩ := Nat.exists_eq_succ_of_ne_zero (Nat.ne_zero_of_lt hlevels)
  obtain ⟨c, cs, hcs, hc⟩ := exists_toString_eq_cons n
  have hspace := isSpace_of_startsValue (startsValue_of_number hc)
  have hletter : c ≠ 'n' ∧ c ≠ 't' ∧ c ≠ 'f' := by
    rcases hc with rfl | hc
    · decide
    · exact ⟨Decimal.ne_of_isDigit hc rfl, Decimal.ne_of_isDigit hc rfl, Decimal.ne_of_isDigit hc rfl⟩
  rw [write_int, hcs, List.cons_append, value, bind_apply, start_cons hspace, andThen_ok]
  simp [hletter, hc, signedNumeral_toString hn hcs hrest]

/-- What is read behind an opening bracket. -/
theorem value_list (levels : Nat) (cs : List Char) :
    value (levels + 2) ('[' :: cs) =
      (do
        let items ← many (value (levels + 1)) ((← get).length + 1) true
        closeList
        return .array items : Step Value) cs := rfl

theorem reads_value_array {depth : Nat} {vs ws : List Value}
    (h : List.Forall₂ (Reads value depth) vs ws) :
    Reads value (depth + 1) (.array vs) (.array ws) := by
  intro levels rest hlevels _
  obtain ⟨levels, rfl⟩ : ∃ k, levels = k + 2 := ⟨levels - 2, by omega⟩
  rw [write_array_append, value_list, bind_apply, get_apply, andThen_ok, bind_apply,
    many_read h (by omega)]
  rfl

end ScopedQuery.Json
