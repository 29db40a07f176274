/-!
# Instants

A `Date` is a day of the Gregorian calendar, extended to all years; an `Instant` is a date and a
time of day, which may be a leap second. `Instant.ofParts?` accepts exactly the instants that exist.
A `Moment` is what two clocks show at the same time.
-/

namespace ScopedQuery.Calendar

structure Date where
  year : Int
  month : Nat
  day : Nat
deriving DecidableEq, Repr

structure Instant where
  date : Date
  hour : Nat
  minute : Nat
  /-- The second, which is 60 in a leap second. -/
  second : Nat
  nano : Nat
deriving DecidableEq, Repr

/-- What clocks show at the same time in two places. -/
structure Moment where
  /-- Where the time is the common one. -/
  common : Instant
  here : Instant
deriving DecidableEq, Repr

/-- Here the time is the common one, too. -/
def Moment.of (t : Instant) : Moment := ⟨t, t⟩

def isLeap (year : Int) : Bool := year % 4 == 0 && (year % 100 != 0 || year % 400 == 0)

def daysInMonth (year : Int) : Nat → Nat
  | 2 => if isLeap year then 29 else 28
  | 4 => 30
  | 6 => 30
  | 9 => 30
  | 11 => 30
  | _ => 31

/-- The years that are counted. -/
def firstYear : Int := -262143

def lastYear : Int := 262142

namespace Date

def Valid (d : Date) : Prop :=
  firstYear ≤ d.year ∧ d.year ≤ lastYear ∧ 1 ≤ d.month ∧ d.month ≤ 12 ∧
    1 ≤ d.day ∧ d.day ≤ daysInMonth d.year d.month

instance (d : Date) : Decidable d.Valid := inferInstanceAs (Decidable (_ ∧ _))

/-- The order of days: by year, then by month, then by day. -/
def key (d : Date) : List Int := [d.year, d.month, d.day]

end Date

namespace Instant

def Valid (t : Instant) : Prop :=
  t.date.Valid ∧ t.hour < 24 ∧ t.minute < 60 ∧ t.second ≤ 60 ∧ t.nano < 1000000000

instance (t : Instant) : Decidable t.Valid := inferInstanceAs (Decidable (_ ∧ _))

/-- Instants compare in time as these lists do. -/
def key (t : Instant) : List Int :=
  t.date.key ++ [(t.hour : Int), (t.minute : Int), (t.second : Int), (t.nano : Int)]

/-- Whether one list of numbers stands before or at the place of another, by the first number
in which they differ. -/
def keyLe : List Int → List Int → Bool
  | [], _ => true
  | _ :: _, [] => false
  | x :: xs, y :: ys => decide (x < y) || (x == y && keyLe xs ys)

instance : LE Instant := ⟨fun s t => keyLe s.key t.key = true⟩

instance (s t : Instant) : Decidable (s ≤ t) := inferInstanceAs (Decidable (_ = true))

/-- The instant with these parts, if there is one. -/
def ofParts? (date : Date) (hour minute second nano : Nat) : Option Instant :=
  if Valid ⟨date, hour, minute, second, nano⟩ then some ⟨date, hour, minute, second, nano⟩ else none

/-- The first instant of a day. -/
def midnight? (date : Date) : Option Instant := ofParts? date 0 0 0 0

theorem valid_of_ofParts? {date : Date} {hour minute second nano : Nat} {t : Instant}
    (h : ofParts? date hour minute second nano = some t) : t.Valid := by
  unfold ofParts? at h
  split at h
  · next valid => exact Option.some.inj h ▸ valid
  · exact absurd h (by simp)

end Instant

end ScopedQuery.Calendar
