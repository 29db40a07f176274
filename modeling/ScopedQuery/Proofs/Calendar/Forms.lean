import ScopedQuery.Proofs.Bound.Failing
import ScopedQuery.Proofs.Calendar.Written
/-!
# The forms of an instant

People write an instant as a day, up to the minute or up to the second.

* `Form.write` and `Form.kept`: the text of an instant in a form, and what of the instant it tells.
* `Form.run_write`: reading a text in the form that its length stands for puts its parts together.
* `Instant.ofText?_write`: a text in a form is read as what it tells of an instant, if that exists, and turned
  down otherwise. Whatever is read at all is read again from the text that is bound for it.
-/

namespace ScopedQuery.Calendar

variable {α : Type}

inductive Form
  | day | minute | second
deriving DecidableEq, Repr

namespace Form

/-- What a form tells of an instant. -/
def kept : Form → Instant → Instant
  | day, t => ⟨t.date, 0, 0, 0, 0⟩
  | minute, t => ⟨t.date, t.hour, t.minute, 0, 0⟩
  | second, t => ⟨t.date, t.hour, t.minute, t.second, 0⟩

/-- The characters of an instant in a form. -/
def chars : Form → Instant → List Char
  | day, t => t.date.write
  | minute, t => t.date.write ++ ' ' :: (padded 2 t.hour ++ ':' :: padded 2 t.minute)
  | second, t => t.date.write ++ ' ' :: t.writeTime

/-- The text of an instant in a form. -/
def write (form : Form) (t : Instant) : String := String.ofList (form.chars t)

/-- How a form is read. -/
def reading : Form → Reading Instant
  | day => dateOnly
  | minute => dateAndMinute
  | second => dateAndSecond

end Form

/-- Every part of an instant is written with two digits, its year apart. -/
structure Instant.TwoDigits (t : Instant) : Prop where
  month : t.date.month < 10 ^ 2
  day : t.date.day < 10 ^ 2
  hour : t.hour < 10 ^ 2
  minute : t.minute < 10 ^ 2
  second : t.second < 10 ^ 2

instance (t : Instant) : Decidable t.TwoDigits :=
  decidable_of_iff (t.date.month < 10 ^ 2 ∧ t.date.day < 10 ^ 2 ∧ t.hour < 10 ^ 2 ∧ t.minute < 10 ^ 2 ∧
      t.second < 10 ^ 2)
    ⟨fun h => ⟨h.1, h.2.1, h.2.2.1, h.2.2.2.1, h.2.2.2.2⟩,
      fun h => ⟨h.month, h.day, h.hour, h.minute, h.second⟩⟩

theorem Instant.Valid.twoDigits {t : Instant} (h : t.Valid) : t.TwoDigits := by
  obtain ⟨hdate, hhour, hminute, hsecond, -⟩ := h
  exact ⟨hdate.lt_hundred.1, hdate.lt_hundred.2, by omega, by omega, by omega⟩

/-! ### Reading a form -/

/-- A space before a part is passed over. -/
theorem part_space_bind {n : Nat} (h : n < 10 ^ 2) (f : Nat → Reading α) (rest : List Char) :
    (part 2 >>= f) (' ' :: (padded 2 n ++ rest)) = f n rest :=
  part_bind h f rest

theorem part_bind_last {n : Nat} (h : n < 10 ^ 2) (f : Nat → Reading α) :
    (part 2 >>= f) (padded 2 n) = f n [] := by
  have hread := part_bind h f []
  rwa [List.append_nil] at hread

theorem Reading.run_of_eq {reading : Reading α} {cs : List Char} {o : Option α}
    (h : reading cs = (liftM o : Reading α) []) : reading.run cs = o := by
  rw [Reading.run, StateT.run, h]
  cases o <;> rfl

theorem four_le_length_writeYear (p : Int) : 4 ≤ (writeYear p).length := by
  have hfour : ∀ n, 4 ≤ (padded 4 n).length := by
    intro n
    rw [padded, List.length_append, List.length_replicate]
    omega
  unfold writeYear
  split
  · exact hfour _
  · exact Nat.le_succ_of_le (hfour _)

section

variable {t : Instant} (h : t.TwoDigits)

include h

/-- The parts of a text in a form are put together. -/
theorem Form.run_write (form : Form) :
    form.reading.run (form.chars t) =
      if (form.kept t).Valid then some (form.kept t) else none := by
  have hdate := date_write h.month h.day
  cases form with
  | day =>
    have hdate := hdate []
    rw [List.append_nil] at hdate
    exact Reading.run_of_eq (by rw [chars, reading, dateOnly, bind_apply, hdate]; rfl)
  | minute =>
    refine Reading.run_of_eq ?_
    rw [chars, reading, dateAndMinute, bind_apply, hdate, Option.bind_some, part_space_bind h.hour,
      literal_bind, part_bind_last h.minute]
    rfl
  | second =>
    refine Reading.run_of_eq ?_
    rw [chars, reading, dateAndSecond, bind_apply, hdate, Option.bind_some, Instant.writeTime,
      List.append_assoc, part_space_bind h.hour, List.cons_append, literal_bind, part_bind h.minute,
      literal_bind, part_bind_last h.second]
    rfl

theorem length_date_write :
    t.date.write.length = (writeYear t.date.year).length + 6 := by
  simp only [Date.write, List.length_append, List.length_cons, length_padded (by decide) h.month,
    length_padded (by decide) h.day]

/-- The length of a text tells its form. -/
theorem Form.formOfLength_write (form : Form) (hyear : 0 ≤ t.date.year ∧ t.date.year ≤ 9999) :
    formOfLength (form.chars t).length = form.reading := by
  have hplain : (writeYear t.date.year).length = 4 := by
    rw [writeYear, if_pos hyear, length_padded (by decide) (by omega)]
  cases form <;>
    simp only [chars, Instant.writeTime, List.length_append, List.length_cons, length_date_write h, hplain,
      length_padded (by decide) h.hour, length_padded (by decide) h.minute,
      length_padded (by decide) h.second] <;> rfl

end

/-! ### The text of a form -/

theorem getLast?_padded {cs : List Char} {width n : Nat} {c : Char}
    (hc : (cs ++ padded width n).getLast? = some c) : c.isDigit = true := by
  rw [List.getLast?_append, List.getLast?_eq_some_getLast (padded_ne_nil width n), Option.some_or,
    Option.some.injEq] at hc
  exact isDigit_padded (hc ▸ List.getLast_mem (padded_ne_nil width n))

/-- A year begins with a digit or a sign. -/
theorem head?_writeYear {p : Int} {cs : List Char} {c : Char}
    (hc : (writeYear p ++ cs).head? = some c) : Text.isBlank c = false := by
  unfold writeYear at hc
  split at hc
  · obtain ⟨d, ds, hds, hd⟩ := exists_padded_eq_cons 4 p.toNat
    rw [hds, List.cons_append, List.head?_cons, Option.some.injEq] at hc
    exact hc ▸ Text.isBlank_of_isDigit hd
  · rw [List.cons_append, List.head?_cons, Option.some.injEq] at hc
    subst hc
    split <;> decide

namespace Form

theorem head?_chars (form : Form) (t : Instant) {c : Char} (hc : (form.chars t).head? = some c) :
    Text.isBlank c = false := by
  cases form <;> simp only [chars, Date.write, List.append_assoc] at hc <;> exact head?_writeYear hc

/-- A text in a form ends with a number of two digits. -/
theorem exists_chars_eq_append_padded (form : Form) (t : Instant) :
    ∃ cs n, form.chars t = cs ++ padded 2 n := by
  cases form with
  | day =>
    exact ⟨writeYear t.date.year ++ '-' :: padded 2 t.date.month ++ ['-'], t.date.day,
      by simp [chars, Date.write]⟩
  | minute => exact ⟨t.date.write ++ ' ' :: padded 2 t.hour ++ [':'], t.minute, by simp [chars]⟩
  | second =>
    exact ⟨t.date.write ++ ' ' :: padded 2 t.hour ++ ':' :: padded 2 t.minute ++ [':'], t.second,
      by simp [chars, Instant.writeTime]⟩

theorem getLast?_chars (form : Form) (t : Instant) {c : Char} (hc : (form.chars t).getLast? = some c) :
    Text.isBlank c = false := by
  obtain ⟨cs, n, hcs⟩ := form.exists_chars_eq_append_padded t
  exact Text.isBlank_of_isDigit (getLast?_padded (hcs ▸ hc))

/-- Blanks around a text in a form do not count. -/
theorem trim_write (form : Form) (t : Instant) {w₁ w₂ : String} (h₁ : Text.Blank w₁)
    (h₂ : Text.Blank w₂) : Text.trim (w₁ ++ form.write t ++ w₂) = form.write t := by
  rw [Text.trim, String.toList_append, String.toList_append, write, String.toList_ofList,
    List.append_assoc, Text.trim_around h₁ h₂,
    Text.trim_eq_self (fun _ => form.head?_chars t) (fun _ => form.getLast?_chars t)]

end Form

namespace Instant

/-- A text in a form that its length stands for is read as what it tells of an instant, if that exists. -/
theorem ofText?_of_formOfLength {t : Instant} (ht : t.TwoDigits) {form : Form}
    (hform : formOfLength (form.chars t).length = form.reading) {w₁ w₂ : String} (h₁ : Text.Blank w₁)
    (h₂ : Text.Blank w₂) :
    ofText? (w₁ ++ form.write t ++ w₂) = if (form.kept t).Valid then some (form.kept t) else none := by
  simp only [ofText?, form.trim_write t h₁ h₂]
  rw [Form.write, String.toList_ofList, hform, form.run_write ht]

/-- An instant with whole seconds is read back from the text that is bound for it, whatever its year. -/
theorem ofText?_spaced {t : Instant} (h : t.Valid) (hnano : t.nano = 0) : ofText? t.spaced = some t := by
  have hlong : 19 ≤ (Form.second.chars t).length := by
    obtain ⟨-, -, hhour, hminute, hsecond⟩ := h.twoDigits
    simp only [Form.chars, writeTime, List.length_append, List.length_cons,
      length_date_write h.twoDigits, length_padded (by decide) hhour,
      length_padded (by decide) hminute, length_padded (by decide) hsecond]
    have hyear := four_le_length_writeYear t.date.year
    omega
  have hform : formOfLength (Form.second.chars t).length = Form.second.reading := by
    unfold formOfLength
    split
    · omega
    · omega
    · rfl
  have hkept : Form.second.kept t = t := by
    obtain ⟨date, hour, minute, second, nano⟩ := t
    subst hnano
    rfl
  have hblank : Text.Blank "" := by decide
  have hread := ofText?_of_formOfLength h.twoDigits hform hblank hblank
  rwa [String.empty_append, String.append_empty, hkept, if_pos h] at hread

/-- A text that is turned down wherever an instant is asked for. -/
def TurnedDown (s : String) : Prop :=
  ofText? s = none ∧
    ∀ (d : Dataset) (dialect : Dialect) (f : Query.Filter) (field : Field), d.field? f.field = some field →
      field.type = .timestamp → s ∈ f.predicate.operands →
      ∃ fault, f.condition d dialect = .error (.invalidPlan fault)

theorem turnedDown_of_ofText? {s : String} (h : ofText? s = none) : TurnedDown s := by
  refine ⟨h, ?_⟩
  intro d dialect f field hfield htype hmem
  have hmisreads : f.Misreads d := by
    refine ⟨field, hfield, s, hmem, ?_⟩
    rw [htype]
    rintro ⟨t, ht⟩
    rw [h] at ht
    cases ht
  have hne : f.predicate ≠ .oneOf [] := by
    intro hnil
    rw [hnil] at hmem
    cases hmem
  obtain ⟨_, -, hreads⟩ | ⟨fault, hfails, -⟩ :=
    Query.Filter.condition_cases (Option.isSome_iff_exists.mpr ⟨field, hfield⟩) hne dialect
  · exact absurd hmisreads hreads
  · exact ⟨fault, hfails⟩

/-- Reading undoes writing: a text in a form is read as what it tells of an instant, if that exists, and
turned down otherwise, with any blanks around it. What is read at all is read again from the text that is
bound for it. -/
theorem ofText?_write :
    (∀ (form : Form) (t : Instant) (w₁ w₂ : String), t.TwoDigits →
      0 ≤ t.date.year ∧ t.date.year ≤ 9999 → Text.Blank w₁ → Text.Blank w₂ →
        ((form.kept t).Valid → ofText? (w₁ ++ form.write t ++ w₂) = some (form.kept t)) ∧
        (¬(form.kept t).Valid → TurnedDown (w₁ ++ form.write t ++ w₂))) ∧
      ∀ (s : String) (t : Instant), ofText? s = some t → ofText? t.spaced = some t := by
  refine ⟨?_, fun s t h => ofText?_spaced (valid_of_ofText? h) (nano_of_ofText? h)⟩
  intro form t w₁ w₂ ht hyear h₁ h₂
  have hread := ofText?_of_formOfLength ht (form.formOfLength_write ht hyear) h₁ h₂
  refine ⟨fun hvalid => ?_, fun hvalid => turnedDown_of_ofText? ?_⟩
  · rw [hread, if_pos hvalid]
  · rw [hread, if_neg hvalid]

/-- The last minute of February in a leap year, the same day one year later, and a year of six digits. -/
theorem ofText?_write_at_the_end_of_february :
    let t : Instant := ⟨⟨2024, 2, 29⟩, 23, 59, 8, 0⟩
    let v : Instant := ⟨⟨-262143, 7, 1⟩, 6, 30, 60, 0⟩
    (ofText? ("\u3000 " ++ "2024-02-29" ++ "\n") = some ⟨⟨2024, 2, 29⟩, 0, 0, 0, 0⟩ ∧
        ofText? ("" ++ "2024-02-29 23:59" ++ "\t") = some ⟨⟨2024, 2, 29⟩, 23, 59, 0, 0⟩ ∧
        ofText? (" " ++ "2024-02-29 23:59:08" ++ "") = some t) ∧
      TurnedDown (" " ++ "2023-02-29 23:59" ++ " ") ∧
      ofText? " -262143-7-1 6:30:60" = some v ∧ ofText? v.spaced = some v := by
  intro t v
  let u : Instant := ⟨⟨2023, 2, 29⟩, 23, 59, 8, 0⟩
  have hday : Form.day.write t = "2024-02-29" := by decide
  have hminute : Form.minute.write t = "2024-02-29 23:59" := by decide
  have hsecond : Form.second.write t = "2024-02-29 23:59:08" := by decide
  have hnever : Form.minute.write u = "2023-02-29 23:59" := by decide +kernel
  have hv : ofText? " -262143-7-1 6:30:60" = some v := by decide
  obtain ⟨hforms, hagain⟩ := ofText?_write
  refine ⟨⟨?_, ?_, ?_⟩, ?_, hv, hagain _ v hv⟩
  · rw [← hday]
    exact (hforms .day t "\u3000 " "\n" (by decide) (by decide) (by decide) (by decide)).1 (by decide)
  · rw [← hminute]
    exact (hforms .minute t "" "\t" (by decide) (by decide) (by decide) (by decide)).1 (by decide)
  · rw [← hsecond]
    exact (hforms .second t " " "" (by decide) (by decide) (by decide) (by decide)).1 (by decide)
  · rw [← hnever]
    exact (hforms .minute u " " " " (by decide) (by decide) (by decide) (by decide)).2 (by decide)

end Instant

end ScopedQuery.Calendar
