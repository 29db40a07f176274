import ScopedQuery.Calendar.Instant
/-!
# The texts of an instant

`Instant.spaced` is the text in which instants are bound to a query, and `Instant.iso` the text in
which they are exchanged. A year beyond four digits or before year 0 has a sign.
-/

namespace ScopedQuery.Calendar

/-- A number in decimal, with zeros in front up to a width. -/
def padded (width n : Nat) : List Char :=
  let ds := Nat.toDigits 10 n
  List.replicate (width - ds.length) '0' ++ ds

def writeYear (year : Int) : List Char :=
  if 0 ≤ year ∧ year ≤ 9999 then padded 4 year.toNat
  else (if year < 0 then '-' else '+') :: padded 4 year.natAbs

namespace Date

def write (d : Date) : List Char :=
  writeYear d.year ++ '-' :: padded 2 d.month ++ '-' :: padded 2 d.day

end Date

namespace Instant

def writeTime (t : Instant) : List Char :=
  padded 2 t.hour ++ ':' :: padded 2 t.minute ++ ':' :: padded 2 t.second

/-- The fraction of the second in three, six or nine digits, as many as it takes. -/
def writeFraction (nano : Nat) : List Char :=
  if nano = 0 then []
  else if nano % 1000000 = 0 then '.' :: padded 3 (nano / 1000000)
  else if nano % 1000 = 0 then '.' :: padded 6 (nano / 1000)
  else '.' :: padded 9 nano

/-- Date and time with a space between them; the fraction of the second is left out. -/
def spaced (t : Instant) : String := String.ofList (t.date.write ++ ' ' :: t.writeTime)

/-- Date and time with a `T` between them. -/
def iso (t : Instant) : String :=
  String.ofList (t.date.write ++ 'T' :: t.writeTime ++ writeFraction t.nano)

end Instant

end ScopedQuery.Calendar
