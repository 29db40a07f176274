import ScopedQuery.Proofs.Calendar.Digits
import ScopedQuery.Store.Term
/-!
# Instants sort as their texts

The texts in which instants are bound to a query are compared character by character, which is the order of
their bytes.

* `Instant.behindYear_lt_iff`: instants of one year sort as what is written behind the year.
* `Instant.writeYear_sorted_iff`: which years sort as they are written. A sign before a year can prevent
  this.
* `Instant.spaced_sorted_iff`: instants sort as their texts just if their years do.
-/

namespace ScopedQuery.Calendar

open Text (bytes toNat_lt_iff append_lt_append_iff cons_lt_cons_self)

/-! ### Instants -/

namespace Instant

variable {x y : Instant}

/-- The text behind the year. -/
def behindYear (t : Instant) : List Char :=
  '-' :: (padded 2 t.date.month ++ '-' :: (padded 2 t.date.day ++ ' ' :: t.writeTime))

theorem toList_spaced (t : Instant) : t.spaced.toList = writeYear t.date.year ++ t.behindYear := by
  simp [spaced, Date.write, behindYear]

/-- Of two instants in one year, the one whose text comes first behind the year is the earlier one. -/
theorem behindYear_lt_iff (hx : x.Valid) (hy : y.Valid) (hnano : x.nano = 0)
    (hyear : x.date.year = y.date.year) : y.behindYear < x.behindYear ↔ ¬x ≤ y := by
  obtain ⟨hdx, hhx, hmx, hsx, -⟩ := hx
  obtain ⟨hdy, hhy, hmy, hsy, -⟩ := hy
  have hle : x ≤ y ↔ keyLe x.key y.key = true := Iff.rfl
  rw [behindYear, behindYear, writeTime, writeTime]
  simp only [List.append_assoc, List.cons_append]
  rw [cons_lt_cons_self, padded_append_lt_iff hdy.lt_hundred.1 hdx.lt_hundred.1, cons_lt_cons_self,
    padded_append_lt_iff hdy.lt_hundred.2 hdx.lt_hundred.2, cons_lt_cons_self,
    padded_append_lt_iff (by omega) (by omega), cons_lt_cons_self,
    padded_append_lt_iff (by omega) (by omega), cons_lt_cons_self,
    padded_lt_iff (by decide) (by omega) (by omega), hle]
  simp only [key, Date.key, List.cons_append, List.nil_append, keyLe, hyear, hnano, Bool.or_eq_true,
    Bool.and_eq_true, decide_eq_true_eq, beq_iff_eq, true_and, and_true]
  omega

/-! ### Years -/

theorem writeYear_plain {p : Int} (h : 0 ≤ p) (h' : p ≤ 9999) : writeYear p = padded 4 p.toNat :=
  if_pos ⟨h, h'⟩

theorem writeYear_minus {p : Int} (h : p < 0) : writeYear p = '-' :: padded 4 p.natAbs := by
  rw [writeYear, if_neg (by omega), if_pos h]

theorem writeYear_plus {p : Int} (h : 9999 < p) : writeYear p = '+' :: padded 4 p.natAbs := by
  rw [writeYear, if_neg (by omega), if_neg (by omega)]

/-- Two years whose texts sort as the years do: the same year; years up to year 9999 that do not both lie
before year 0; and two years beyond year 9999, or two before year 0, of which the digits of the earlier one
come first. -/
def YearsSort (p q : Int) : Prop :=
  p = q ∨ (p ≤ 9999 ∧ q ≤ 9999 ∧ (0 ≤ p ∨ 0 ≤ q)) ∨
    ((9999 < p ∧ 9999 < q ∨ p < 0 ∧ q < 0) ∧ (WrittenFirst p.natAbs q.natAbs ↔ p < q))

instance (p q : Int) : Decidable (YearsSort p q) := by
  unfold YearsSort
  infer_instance

/-- Of two years that are written with one sign, the digits decide. -/
theorem yearsSort_of_signed {p q : Int} (hne : p ≠ q) (h : 9999 < p ∧ 9999 < q ∨ p < 0 ∧ q < 0) :
    YearsSort p q ↔ (WrittenFirst p.natAbs q.natAbs ↔ p < q) := by
  rw [YearsSort, or_iff_right hne, or_iff_right (by omega), and_iff_right h]

/-- A year before year 0 is written before every year of four digits. -/
theorem writeYear_minus_lt {p q : Int} (hp : p < 0) (hq : 0 ≤ q) (hq' : q ≤ 9999) (r s : List Char) :
    writeYear p ++ r < writeYear q ++ s := by
  obtain ⟨c, cs, hcs, hc⟩ := exists_padded_eq_cons 4 q.toNat
  have hdigit := toNat_of_isDigit hc
  have hsign : '-'.toNat = 45 := rfl
  rw [writeYear_minus hp, writeYear_plain hq hq', hcs, List.cons_append, List.cons_append,
    List.cons_lt_cons_iff, toNat_lt_iff]
  omega

/-- A year beyond year 9999 is written before every other one. -/
theorem writeYear_plus_lt {p q : Int} (hp : 9999 < p) (hq : q ≤ 9999) (r s : List Char) :
    writeYear p ++ r < writeYear q ++ s := by
  have hplus : '+'.toNat = 43 := rfl
  have hminus : '-'.toNat = 45 := rfl
  rw [writeYear_plus hp]
  by_cases hneg : q < 0
  · rw [writeYear_minus hneg, List.cons_append, List.cons_append, List.cons_lt_cons_iff, toNat_lt_iff]
    omega
  · obtain ⟨c, cs, hcs, hc⟩ := exists_padded_eq_cons 4 q.toNat
    have hdigit := toNat_of_isDigit hc
    rw [writeYear_plain (by omega) hq, hcs, List.cons_append, List.cons_append, List.cons_lt_cons_iff,
      toNat_lt_iff]
    omega

/-- Years of four digits sort as they are written. -/
theorem writeYear_plain_lt_iff {p q : Int} (hp : 0 ≤ p) (hp' : p ≤ 9999) (hq : 0 ≤ q) (hq' : q ≤ 9999)
    (hne : p ≠ q) (r s : List Char) : writeYear p ++ r < writeYear q ++ s ↔ p < q := by
  have hpfits : p.toNat < 10 ^ 4 := by omega
  have hqfits : q.toNat < 10 ^ 4 := by omega
  rw [writeYear_plain hp hp', writeYear_plain hq hq',
    append_lt_append_iff
      ((length_padded (by decide) hpfits).trans (length_padded (by decide) hqfits).symm),
    padded_lt_iff (by decide) hpfits hqfits, padded_inj]
  omega

/-- Two different years, with a hyphen behind them, come in the order of time in no other cases. -/
theorem writeYear_sorted_iff {p q : Int} (hne : p ≠ q) (r s : List Char) :
    (writeYear p ++ '-' :: r < writeYear q ++ '-' :: s ↔ p < q) ↔ YearsSort p q := by
  by_cases hpplus : 9999 < p
  · by_cases hqplus : 9999 < q
    · rw [writeYear_plus hpplus, writeYear_plus hqplus, List.cons_append, List.cons_append,
        cons_lt_cons_self, padded_hyphen_lt_iff (by omega),
        yearsSort_of_signed hne (.inl ⟨hpplus, hqplus⟩)]
    · have hlt := writeYear_plus_lt hpplus (by omega : q ≤ 9999) ('-' :: r) ('-' :: s)
      rw [iff_true_left hlt, YearsSort]
      omega
  by_cases hqplus : 9999 < q
  · have hlt := List.lt_asymm (writeYear_plus_lt hqplus (by omega : p ≤ 9999) ('-' :: s) ('-' :: r))
    rw [iff_false_left hlt, YearsSort]
    omega
  by_cases hpminus : p < 0
  · by_cases hqminus : q < 0
    · rw [writeYear_minus hpminus, writeYear_minus hqminus, List.cons_append, List.cons_append,
        cons_lt_cons_self, padded_hyphen_lt_iff (by omega),
        yearsSort_of_signed hne (.inr ⟨hpminus, hqminus⟩)]
    · have hlt := writeYear_minus_lt hpminus (by omega : 0 ≤ q) (by omega) ('-' :: r) ('-' :: s)
      rw [iff_true_left hlt, YearsSort]
      omega
  by_cases hqminus : q < 0
  · have hlt := List.lt_asymm
      (writeYear_minus_lt hqminus (by omega : 0 ≤ p) (by omega) ('-' :: s) ('-' :: r))
    rw [iff_false_left hlt, YearsSort]
    omega
  · have hlt := writeYear_plain_lt_iff (by omega) (by omega) (by omega) (by omega) hne
      ('-' :: r) ('-' :: s)
    rw [iff_true_left hlt, YearsSort]
    omega

/-- With equally many digits, years beyond year 9999 sort, and years before year 0 do not. -/
example : YearsSort 10000 99999 ∧ ¬YearsSort (-45) (-44) ∧ ¬YearsSort 20000 100000 := by decide

theorem YearsSort.symm {p q : Int} (h : YearsSort p q) : YearsSort q p := by
  by_cases hne : p = q
  · exact .inl hne.symm
  · have hfirst := WrittenFirst.not_iff (m := p.natAbs) (n := q.natAbs)
    unfold YearsSort at h ⊢
    grind

/-! ### Instants of several years -/

/-- Of two instants in different years, the one in the later year is the later one. -/
theorem le_iff_of_year_ne (h : x.date.year ≠ y.date.year) : x ≤ y ↔ x.date.year < y.date.year := by
  have hle : x ≤ y ↔ keyLe x.key y.key = true := Iff.rfl
  simp [hle, key, Date.key, keyLe, h]

/-- Instants sort as their texts just if their years do. -/
theorem spaced_sorted_iff (hx : x.Valid) (hy : y.Valid) (hnano : x.nano = 0) :
    (y.spaced < x.spaced ↔ ¬x ≤ y) ↔ YearsSort y.date.year x.date.year := by
  rw [String.lt_iff_toList_lt, toList_spaced, toList_spaced]
  by_cases hyear : x.date.year = y.date.year
  · rw [hyear, append_lt_append_iff rfl, behindYear_lt_iff hx hy hnano hyear]
    simp [YearsSort]
  · rw [le_iff_of_year_ne hyear, behindYear, behindYear, ← writeYear_sorted_iff (Ne.symm hyear)]
    exact iff_congr Iff.rfl (by omega)

/-! ### Characters -/

theorem ascii_padded (width n : Nat) : ∀ c ∈ padded width n, c.toNat < 128 := by
  intro c hc
  have hdigit := toNat_of_isDigit (isDigit_padded hc)
  omega

theorem ascii_writeYear (p : Int) : ∀ c ∈ writeYear p, c.toNat < 128 := by
  unfold writeYear
  split
  · exact ascii_padded _ _
  · rw [List.forall_mem_cons]
    exact ⟨by split <;> decide, ascii_padded _ _⟩

theorem ascii_spaced (t : Instant) : ∀ c ∈ t.spaced.toList, c.toNat < 128 := by
  rw [toList_spaced, behindYear, writeTime]
  simp only [List.append_assoc, List.cons_append, List.forall_mem_append, List.forall_mem_cons]
  exact ⟨ascii_writeYear _, by decide, ascii_padded _ _, by decide, ascii_padded _ _, by decide,
    ascii_padded _ _, by decide, ascii_padded _ _, by decide, ascii_padded _ _⟩

/-! ### Filters -/

theorem keyLe_antisymm {ks ls : List Int} (h : keyLe ks ls = true) (h' : keyLe ls ks = true) :
    ks = ls := by
  induction ks generalizing ls with
  | nil =>
    cases ls with
    | nil => rfl
    | cons l ls => cases h'
  | cons k ks ih =>
    cases ls with
    | nil => cases h
    | cons l ls =>
      simp only [keyLe, Bool.or_eq_true, Bool.and_eq_true, decide_eq_true_eq, beq_iff_eq] at h h'
      rcases h with hlt | ⟨rfl, h⟩
      · omega
      · rcases h' with hlt | ⟨-, h'⟩
        · omega
        · rw [ih h h']

/-- Instants of which neither is the earlier one are the same. -/
theorem eq_iff_le : x = y ↔ x ≤ y ∧ y ≤ x := by
  have hle : ∀ u v : Instant, u ≤ v ↔ keyLe u.key v.key = true := fun _ _ => Iff.rfl
  constructor
  · rintro rfl
    simp [hle, key, Date.key, keyLe]
  · rintro ⟨h, h'⟩
    obtain ⟨⟨_, _, _⟩, _, _, _, _⟩ := x
    obtain ⟨⟨_, _, _⟩, _, _, _, _⟩ := y
    have hkeys := keyLe_antisymm h h'
    simpa [key, Date.key, and_assoc] using hkeys

/-- What an operator says of two instants, by their order in time. -/
def relates (op : CompareOp) (x y : Instant) : Bool :=
  match op with
  | .eq => decide (x = y)
  | .ne => !decide (x = y)
  | .gt => !decide (x ≤ y)
  | .gte => decide (y ≤ x)
  | .lt => !decide (y ≤ x)
  | .lte => decide (x ≤ y)

variable {a b c : String} {x y z : Instant}

/-- Instants that people write sort as their texts just if their years do. -/
theorem spaced_sorted_iff_of_ofText? (hx : Instant.ofText? a = some x) (hy : Instant.ofText? b = some y) :
    (y.spaced < x.spaced ↔ ¬x ≤ y) ↔ YearsSort x.date.year y.date.year := by
  rw [spaced_sorted_iff (valid_of_ofText? hx) (valid_of_ofText? hy) (nano_of_ofText? hx)]
  exact ⟨YearsSort.symm, YearsSort.symm⟩

/-- A store compares the texts of instants as the instants compare in time, just if their years sort. -/
theorem relates_spaced_iff (hx : Instant.ofText? a = some x) (hy : Instant.ofText? b = some y) :
    (∀ op, Store.Test.relates op (.text x.spaced) (.text y.spaced) = relates op x y) ↔
      YearsSort x.date.year y.date.year := by
  constructor
  · intro h
    have hgt : decide (y.spaced < x.spaced) = !decide (x ≤ y) := h .gt
    rw [← decide_not, decide_eq_decide] at hgt
    exact (spaced_sorted_iff_of_ofText? hx hy).mp hgt
  · intro hyears op
    have hlt := (spaced_sorted_iff_of_ofText? hx hy).mpr hyears
    have hgt := (spaced_sorted_iff_of_ofText? hy hx).mpr hyears.symm
    have heq : x = y ↔ y ≤ x ∧ x ≤ y := eq_iff_le.trans and_comm
    cases op <;> simp [Store.Test.relates, Cell.same, Cell.lt, relates, hlt, hgt, heq]

theorem compareTerms_spaced {occasion : Store.Occasion} {row : Store.Joined} {source place index : Nat}
    (hcell : Store.Table.cellAt ((row[source]?).getD []) place = .text x.spaced)
    (hparam : occasion.params[index]? = some (Cell.ofParam (.timestamp y))) (op : CompareOp) :
    Store.Test.compareTerms occasion row op (.cell source place .text) (.param index) =
      some (Store.Test.relates op (.text x.spaced) (.text y.spaced)) := by
  have hleft : (Store.Term.cell source place .text).eval occasion row = .text x.spaced := hcell
  have hright : (Store.Term.param index).eval occasion row = .text y.spaced := by
    rw [Store.Term.eval, hparam]
    rfl
  rw [Store.Test.compareTerms, hleft, hright]
  rfl

/-- Instants that people write sort as the texts bound for them, in the order of bytes, just if their years
do. So a filter on a column of such texts selects by time, whichever way it compares, if no year stands
out by its sign, and in no other case. -/
theorem bytes_spaced_sorted (hx : Instant.ofText? a = some x) (hy : Instant.ofText? b = some y)
    (hz : Instant.ofText? c = some z) :
    ((bytes x.spaced ≤ bytes y.spaced ↔ x ≤ y) ↔ YearsSort x.date.year y.date.year) ∧
      ∀ (occasion : Store.Occasion) (row : Store.Joined) (source place i j : Nat),
        Store.Table.cellAt ((row[source]?).getD []) place = .text x.spaced →
        occasion.params[i]? = some (Cell.ofParam (.timestamp y)) →
        occasion.params[j]? = some (Cell.ofParam (.timestamp z)) →
        ((∀ op, (Store.Test.compare op (.cell source place .text) (.param i)).holds occasion row =
          relates op x y) ↔ YearsSort x.date.year y.date.year) ∧
        (YearsSort x.date.year y.date.year → YearsSort x.date.year z.date.year →
          (Store.Test.between (.cell source place .text) (.param i) (.param j)).holds occasion row =
            (decide (y ≤ x) && decide (x ≤ z))) := by
  refine ⟨?_, fun occasion row source place i j hcell hi hj => ⟨?_, fun hxy hxz => ?_⟩⟩
  · rw [← spaced_sorted_iff_of_ofText? hx hy, ← List.not_lt,
      Text.bytes_lt_iff (ascii_spaced y) (ascii_spaced x), not_iff_comm]
    exact iff_comm
  · rw [← relates_spaced_iff hx hy]
    refine forall_congr' fun op => ?_
    rw [Store.Test.holds, Store.Test.eval, compareTerms_spaced hcell hi op]
    simp
  · rw [Store.Test.holds, Store.Test.eval, compareTerms_spaced hcell hi .gte,
      compareTerms_spaced hcell hj .lte, (relates_spaced_iff hx hy).mpr hxy,
      (relates_spaced_iff hx hz).mpr hxz]
    simp only [relates]
    cases decide (y ≤ x) <;> cases decide (x ≤ z) <;> rfl

/-- A moment of a year before year 0, between the first moment of its day and one of our years. -/
theorem bytes_spaced_sorted_on_the_ides :
    let x : Instant := ⟨⟨-44, 3, 15⟩, 12, 0, 0, 0⟩
    let y : Instant := ⟨⟨-44, 3, 15⟩, 0, 0, 0, 0⟩
    let z : Instant := ⟨⟨2024, 1, 5⟩, 9, 15, 0, 0⟩
    let row : Store.Joined := [[.integer 1, .text x.spaced]]
    let occasion : Store.Occasion := ⟨[Cell.ofParam (.timestamp y), Cell.ofParam (.timestamp z)], .of z⟩
    (Instant.ofText? "-0044-03-15 12:0:00" = some x ∧ Instant.ofText? "-0044-03-15 0:0:0" = some y ∧
        Instant.ofText? " 2024-01-05 09:15" = some z) ∧
      bytes y.spaced ≤ bytes x.spaced ∧
      (Store.Test.compare .gt (.cell 0 1 .text) (.param 0)).holds occasion row = true ∧
      (Store.Test.between (.cell 0 1 .text) (.param 0) (.param 1)).holds occasion row = true := by
  intro x y z row occasion
  have hx : Instant.ofText? "-0044-03-15 12:0:00" = some x := by decide
  have hy : Instant.ofText? "-0044-03-15 0:0:0" = some y := by decide
  have hz : Instant.ofText? " 2024-01-05 09:15" = some z := by decide
  obtain ⟨-, hfilters⟩ := bytes_spaced_sorted hx hy hz
  obtain ⟨hcompare, hbetween⟩ := hfilters occasion row 0 1 0 1 rfl rfl rfl
  obtain ⟨horder, -⟩ := bytes_spaced_sorted hy hx hx
  refine ⟨⟨hx, hy, hz⟩, (horder.mpr (by decide)).mpr (by decide), ?_, ?_⟩
  · rw [hcompare.mpr (by decide) .gt]
    decide
  · rw [hbetween (by decide) (by decide)]
    decide

/-- The first moment of year 10000 is later than one in 2024, but its text comes first. A filter by it lets
nothing through. -/
theorem bytes_spaced_unsorted_in_year_10000 :
    let x : Instant := ⟨⟨2024, 1, 5⟩, 9, 0, 0, 0⟩
    let y : Instant := ⟨⟨2024, 1, 1⟩, 0, 0, 0, 0⟩
    let z : Instant := ⟨⟨10000, 1, 1⟩, 0, 0, 0, 0⟩
    Instant.ofText? "2024-01-05 09:00:00" = some x ∧ Instant.ofText? "2024-01-01" = some y ∧
      Instant.ofText? "+10000-01-01 00:00:00" = some z ∧
      (x ≤ z ∧ ¬bytes x.spaced ≤ bytes z.spaced) ∧ (y ≤ x ∧ x ≤ z) ∧
      (Store.Test.between (.cell 0 0 .text) (.param 0) (.param 1)).holds
        ⟨[Cell.ofParam (.timestamp y), Cell.ofParam (.timestamp z)], .of y⟩
        [[Cell.ofParam (.timestamp x)]] = false := by
  decide

end Instant

end ScopedQuery.Calendar
