import Mathlib.Algebra.Ring.Nat
import ScopedQuery.Calendar.Reading
import ScopedQuery.Calendar.Written
import ScopedQuery.Proofs.Decimal.Written
/-!
# Instants read back

* `number_padded`, `part_padded` and `year_writeYear`: a number with zeros in front is read as that number,
  and so is a year of any length.
* `date_write`: a date is read back, whatever follows its two digits of the day.
* `fraction_writeFraction`: so is the fraction of a second, in three, six or nine digits.
* `ofIso?_iso`: an instant that exists is read back from the text in which it is exchanged.
* `valid_of_ofText?` and `nano_of_ofText?`: only instants that exist are read, and people write whole seconds.
-/

namespace ScopedQuery.Calendar

variable {α β : Type}

/-! ### Steps -/

theorem bind_apply (x : Reading α) (f : α → Reading β) (cs : List Char) :
    (x >>= f) cs = (x cs).bind fun r => f r.1 r.2 := rfl

theorem map_apply (f : α → β) (x : Reading α) (cs : List Char) :
    (f <$> x) cs = (x cs).map fun r => (f r.1, r.2) := by
  cases h : x cs <;> simp [Functor.map, StateT.map, h]

theorem get_apply (cs : List Char) : (get : Reading (List Char)) cs = some (cs, cs) := rfl

theorem set_apply (ds cs : List Char) : (set ds : Reading PUnit) cs = some (⟨⟩, ds) := rfl

theorem literal_cons (c : Char) (cs : List Char) : literal c (c :: cs) = some ((), cs) := by
  simp [literal]

/-- Nothing is passed over where no blank stands. -/
theorem blanks_cons {c : Char} (hc : Text.isBlank c = false) (cs : List Char) :
    blanks (c :: cs) = some ((), c :: cs) := by
  simp [blanks, Text.trimStart, hc]

theorem literal_bind (c : Char) (f : Unit → Reading α) (cs : List Char) :
    (literal c >>= f) (c :: cs) = f () cs := by
  rw [bind_apply, literal_cons, Option.bind_some]

/-- A mark between the parts of an instant may have blanks before it. -/
theorem mark_bind {c : Char} (hc : Text.isBlank c = false) (f : Unit → Reading α) (cs : List Char) :
    (blanks >>= fun _ => literal c >>= f) (c :: cs) = f () cs := by
  rw [bind_apply, blanks_cons hc, Option.bind_some, literal_bind]

/-! ### Numbers of a fixed width -/

theorem isDigit_padded {width n : Nat} {c : Char} (hc : c ∈ padded width n) : c.isDigit = true := by
  rcases List.mem_append.mp hc with hc | hc
  · obtain rfl := List.eq_of_mem_replicate hc
    rfl
  · exact Nat.isDigit_of_mem_toDigits (by decide) (by decide) hc

theorem length_padded {width n : Nat} (hwidth : 0 < width) (h : n < 10 ^ width) :
    (padded width n).length = width := by
  have hlength := (Nat.length_toDigits_le_iff (by decide) hwidth).mpr h
  rw [padded, List.length_append, List.length_replicate]
  omega

theorem padded_ne_nil (width n : Nat) : padded width n ≠ [] := by
  simp [padded, Nat.toDigits_ne_nil]

theorem exists_padded_eq_cons (width n : Nat) :
    ∃ c cs, padded width n = c :: cs ∧ c.isDigit = true := by
  obtain ⟨c, cs, hcs⟩ := List.exists_cons_of_ne_nil (padded_ne_nil width n)
  exact ⟨c, cs, hcs, isDigit_padded (hcs ▸ List.mem_cons_self)⟩

/-- Zeros in front do not count. -/
theorem value_padded (width n : Nat) : Decimal.value (padded width n) = n := by
  have hzeros : ∀ k : Nat, Decimal.value (List.replicate k '0') = 0 := by
    intro k
    induction k with
    | zero => rfl
    | succ k ih =>
      rw [List.replicate_succ, Decimal.value, List.foldl_cons]
      exact ih
  have hvalue := Decimal.value_toDigits n
  rw [Decimal.value] at hvalue ⊢
  have hz := hzeros (width - (Nat.toDigits 10 n).length)
  rw [Decimal.value] at hz
  rw [padded, List.foldl_append, hz, hvalue]

theorem takeWhile_isDigit_padded (width n : Nat) :
    (padded width n).takeWhile Char.isDigit = padded width n :=
  List.takeWhile_eq_self_iff.mpr fun _ hc => isDigit_padded hc

theorem takeWhile_padded (width n : Nat) {rest : List Char}
    (hrest : ∀ c, rest.head? = some c → c.isDigit = false) :
    (padded width n ++ rest).takeWhile Char.isDigit = padded width n := by
  rw [List.takeWhile_append_of_pos fun _ hc => isDigit_padded hc]
  cases rest with
  | nil => simp
  | cons c rest => simp [hrest c rfl]

/-- Of a number as wide as may be read, all digits are read and none of what follows. -/
theorem number_padded {width n : Nat} (hwidth : 0 < width) (h : n < 10 ^ width) (rest : List Char) :
    number width (padded width n ++ rest) = some (n, rest) := by
  have htake : (padded width n ++ rest).take width = padded width n := by
    rw [List.take_append_of_le_length (length_padded hwidth h).ge, List.take_of_length_le]
    exact (length_padded hwidth h).le
  simp only [number, htake, takeWhile_isDigit_padded]
  simp [padded_ne_nil, value_padded]

/-- A number that may be as wide as the text is read up to a character that is no digit. -/
theorem number_padded_of_le {width n bound : Nat} {rest : List Char}
    (hbound : (padded width n ++ rest).length ≤ bound)
    (hrest : ∀ c, rest.head? = some c → c.isDigit = false) :
    number bound (padded width n ++ rest) = some (n, rest) := by
  simp only [number, List.take_of_length_le hbound, takeWhile_padded width n hrest]
  simp [padded_ne_nil, value_padded]

theorem part_padded {width n : Nat} (hwidth : 0 < width) (h : n < 10 ^ width) (rest : List Char) :
    part width (padded width n ++ rest) = some (n, rest) := by
  have hread := number_padded hwidth h rest
  obtain ⟨c, cs, hcs, hc⟩ := exists_padded_eq_cons width n
  rw [hcs, List.cons_append] at hread ⊢
  rw [part, bind_apply, blanks_cons (Text.isBlank_of_isDigit hc)]
  exact hread

/-- A part of two digits is read, and what comes next goes on behind it. -/
theorem part_bind {n : Nat} (h : n < 10 ^ 2) (f : Nat → Reading α) (rest : List Char) :
    (part 2 >>= f) (padded 2 n ++ rest) = f n rest := by
  rw [bind_apply, part_padded (by decide) h, Option.bind_some]

/-! ### Dates -/

/-- A year without a sign has up to four digits. -/
theorem year_digit {c : Char} (hc : c.isDigit = true) (cs : List Char) :
    year (c :: cs) = (number 4 (c :: cs)).map fun r => ((r.1 : Int), r.2) := by
  have hminus : c ≠ '-' := Decimal.ne_of_isDigit hc rfl
  have hplus : c ≠ '+' := Decimal.ne_of_isDigit hc rfl
  rw [year, bind_apply, blanks_cons (Text.isBlank_of_isDigit hc), Option.bind_some, bind_apply, get_apply,
    Option.bind_some]
  simp [hminus, hplus, map_apply]

theorem year_minus (cs : List Char) :
    year ('-' :: cs) = (number cs.length cs).map fun r => (-(r.1 : Int), r.2) := by
  rw [year, bind_apply, blanks_cons (by decide), Option.bind_some, bind_apply, get_apply, Option.bind_some]
  simp [bind_apply, set_apply, map_apply]

theorem year_plus (cs : List Char) :
    year ('+' :: cs) = (number cs.length cs).map fun r => ((r.1 : Int), r.2) := by
  rw [year, bind_apply, blanks_cons (by decide), Option.bind_some, bind_apply, get_apply, Option.bind_some]
  simp [bind_apply, set_apply, map_apply]

/-- A year is read back if no digit follows it. -/
theorem year_writeYear (y : Int) {rest : List Char}
    (hrest : ∀ c, rest.head? = some c → c.isDigit = false) :
    year (writeYear y ++ rest) = some (y, rest) := by
  have hread : number (padded 4 y.natAbs ++ rest).length (padded 4 y.natAbs ++ rest) =
      some (y.natAbs, rest) := number_padded_of_le le_rfl hrest
  unfold writeYear
  split
  · next h =>
    have hnumber : number 4 (padded 4 y.toNat ++ rest) = some (y.toNat, rest) :=
      number_padded (by decide) (by omega) rest
    obtain ⟨c, cs, hcs, hc⟩ := exists_padded_eq_cons 4 y.toNat
    rw [hcs, List.cons_append] at hnumber ⊢
    rw [year_digit hc, hnumber, Option.map_some, Int.toNat_of_nonneg h.1]
  · split
    · next hneg =>
      rw [List.cons_append, year_minus, hread, Option.map_some,
        Int.ofNat_natAbs_of_nonpos (Int.le_of_lt hneg), Int.neg_neg]
    · next hpos =>
      rw [List.cons_append, year_plus, hread, Option.map_some,
        Int.natAbs_of_nonneg (Int.not_lt.mp hpos)]

theorem daysInMonth_le (year : Int) (month : Nat) : daysInMonth year month ≤ 31 := by
  unfold daysInMonth
  split <;> first | decide | skip
  split <;> decide

/-- The month and the day of a date that exists have two digits. -/
theorem Date.Valid.lt_hundred {d : Date} (h : d.Valid) : d.month < 10 ^ 2 ∧ d.day < 10 ^ 2 := by
  have hday := daysInMonth_le d.year d.month
  obtain ⟨-, -, -, hmonth, -, hlast⟩ := h
  omega

/-- A date is read back, also one that does not exist. -/
theorem date_write {d : Date} (hmonth : d.month < 10 ^ 2) (hday : d.day < 10 ^ 2) (rest : List Char) :
    date (d.write ++ rest) = some (d, rest) := by
  simp only [Date.write, List.append_assoc, List.cons_append]
  rw [date, bind_apply, year_writeYear d.year (by rintro c ⟨⟩; rfl), Option.bind_some, literal_bind,
    part_bind hmonth, literal_bind, part_bind hday]
  rfl

/-! ### Fractions -/

/-- A fraction of so many digits is read in units of the ninth. -/
theorem fraction_padded {width n : Nat} (hwidth : 0 < width) (hle : width ≤ 9) (h : n < 10 ^ width) :
    fraction ('.' :: padded width n) = some (n * 10 ^ (9 - width), []) := by
  have hnone : (padded width n).dropWhile Char.isDigit = [] :=
    List.dropWhile_eq_nil_iff.mpr fun _ hc => isDigit_padded hc
  have htake : (padded width n).take 9 = padded width n :=
    List.take_of_length_le ((length_padded hwidth h).trans_le hle)
  rw [fraction, bind_apply, get_apply, Option.bind_some]
  simp only [takeWhile_isDigit_padded, hnone, htake, value_padded, length_padded hwidth h]
  rw [if_neg (by simp [padded_ne_nil])]
  rfl

/-- The fraction of a second is read back, in whichever width it is written. -/
theorem fraction_writeFraction {nano : Nat} (h : nano < 1000000000) :
    fraction (Instant.writeFraction nano) = some (nano, []) := by
  unfold Instant.writeFraction
  split
  · next hzero => exact hzero ▸ rfl
  split
  · next hmillis =>
    rw [fraction_padded (by decide) (by decide) (by omega)]
    exact congrArg (fun n => some (n, [])) (by omega)
  split
  · next hmicros =>
    rw [fraction_padded (by decide) (by decide) (by omega)]
    exact congrArg (fun n => some (n, [])) (by omega)
  · rw [fraction_padded (by decide) (by decide) h]
    exact congrArg (fun n => some (n, [])) (by omega)

/-! ### Instants -/

theorem ofParts?_of_valid {t : Instant} (h : t.Valid) :
    Instant.ofParts? t.date t.hour t.minute t.second t.nano = some t :=
  if_pos h

/-- An instant that exists is read back from the text in which it is exchanged. -/
theorem ofIso?_iso {t : Instant} (h : t.Valid) : Instant.ofIso? t.iso = some t := by
  have hparts := ofParts?_of_valid h
  obtain ⟨hdate, hhour, hminute, hsecond, hnano⟩ := h
  obtain ⟨hmonth, hday⟩ := hdate.lt_hundred
  have hread : isoInstant (t.date.write ++ 'T' :: t.writeTime ++ Instant.writeFraction t.nano) =
      some (t, []) := by
    simp only [Date.write, Instant.writeTime, List.append_assoc, List.cons_append]
    rw [isoInstant, bind_apply, year_writeYear t.date.year (by rintro c ⟨⟩; rfl), Option.bind_some,
      mark_bind (by decide), part_bind hmonth, mark_bind (by decide), part_bind hday,
      mark_bind (by decide), part_bind (by omega), mark_bind (by decide), part_bind (by omega),
      mark_bind (by decide), part_bind (by omega), bind_apply, fraction_writeFraction hnano]
    change (Instant.ofParts? t.date t.hour t.minute t.second t.nano).bind _ = _
    rw [hparts]
    rfl
  rw [Instant.ofIso?, Instant.iso, String.toList_ofList, Reading.run, StateT.run, hread]

/-! ### Only instants that exist are read -/

/-- Whatever a reader gives has a property. -/
def Reading.Gives (P : α → Prop) (reading : Reading α) : Prop :=
  ∀ cs a rest, reading cs = some (a, rest) → P a

/-- What is read before the last step does not matter. -/
theorem Reading.Gives.bind {P : β → Prop} (x : Reading α) {f : α → Reading β}
    (h : ∀ a, Gives P (f a)) : Gives P (x >>= f) := by
  intro cs b rest hread
  rw [bind_apply] at hread
  obtain ⟨⟨a, more⟩, -, hlast⟩ := Option.bind_eq_some_iff.mp hread
  exact h a more b rest hlast

theorem Reading.Gives.run {P : α → Prop} {reading : Reading α} (h : reading.Gives P) {cs : List Char}
    {a : α} (hrun : reading.run cs = some a) : P a := by
  unfold Reading.run at hrun
  split at hrun
  · next b hread =>
    obtain rfl := Option.some.inj hrun
    exact h cs b [] hread
  · cases hrun

/-- The last step of every reader of instants puts its parts together. -/
theorem gives_ofParts? {P : Instant → Prop} {d : Date} {hour minute second nano : Nat}
    (h : ∀ t, Instant.ofParts? d hour minute second nano = some t → P t) :
    Reading.Gives P (liftM (Instant.ofParts? d hour minute second nano)) := by
  intro cs t rest hread
  obtain ⟨t', hparts, hpure⟩ := Option.bind_eq_some_iff.mp hread
  obtain ⟨rfl, -⟩ := Prod.mk.inj (Option.some.inj hpure)
  exact h t' hparts

theorem gives_formOfLength {P : Instant → Prop}
    (h : ∀ d hour minute second t, Instant.ofParts? d hour minute second 0 = some t → P t)
    (length : Nat) : Reading.Gives P (formOfLength length) := by
  unfold formOfLength
  split
  · exact .bind _ fun d => gives_ofParts? (h d 0 0 0)
  · refine .bind _ fun d => .bind _ fun hour => .bind _ fun _ => .bind _ fun minute => ?_
    exact gives_ofParts? (h d hour minute 0)
  · refine .bind _ fun d => .bind _ fun hour => .bind _ fun _ => .bind _ fun minute => .bind _ fun _ =>
      .bind _ fun second => ?_
    exact gives_ofParts? (h d hour minute second)

theorem valid_of_ofText? {s : String} {t : Instant} (h : Instant.ofText? s = some t) : t.Valid := by
  simp only [Instant.ofText?] at h
  exact (gives_formOfLength (fun _ _ _ _ _ => Instant.valid_of_ofParts?) _).run h

/-- What people write has no fraction of a second. -/
theorem nano_of_ofText? {s : String} {t : Instant} (h : Instant.ofText? s = some t) : t.nano = 0 := by
  have hparts : ∀ d hour minute second u, Instant.ofParts? d hour minute second 0 = some u →
      u.nano = 0 := by
    intro d hour minute second u hu
    unfold Instant.ofParts? at hu
    split at hu
    · exact Option.some.inj hu ▸ rfl
    · cases hu
  simp only [Instant.ofText?] at h
  exact (gives_formOfLength hparts _).run h

end ScopedQuery.Calendar
