/-!
# Bytes as text

`ofBytes` reads bytes as UTF-8. Where they are no UTF-8, one replacement character stands for as
many bytes as could have begun a character.
-/

namespace ScopedQuery.Text

/-- The bounds of a byte that continues a character. -/
def continuation : Nat × Nat := (0x80, 0xBF)

/-- The bounds of the bytes that follow the first byte of a character; `none` if no character
starts with the byte. -/
def followers (first : Nat) : Option (List (Nat × Nat)) :=
  if first < 0x80 then some []
  else if first < 0xC2 then none
  else if first < 0xE0 then some [continuation]
  else if first = 0xE0 then some [(0xA0, 0xBF), continuation]
  else if first = 0xED then some [(0x80, 0x9F), continuation]
  else if first < 0xF0 then some [continuation, continuation]
  else if first = 0xF0 then some [(0x90, 0xBF), continuation, continuation]
  else if first < 0xF4 then some [continuation, continuation, continuation]
  else if first = 0xF4 then some [(0x80, 0x8F), continuation, continuation]
  else none

/-- The bytes at the front that lie within the bounds, one by one. -/
def within : List (Nat × Nat) → List UInt8 → List UInt8
  | (low, high) :: bounds, b :: bytes =>
    if low ≤ b.toNat ∧ b.toNat ≤ high then b :: within bounds bytes else []
  | _, _ => []

/-- The bits that the first byte of a character gives, when `count` bytes follow. -/
def leadingBits (first count : Nat) : Nat :=
  match count with
  | 0 => first
  | 1 => first % 0x20
  | 2 => first % 0x10
  | _ => first % 0x08

/-- The character with these bytes. -/
def charOfBytes (first : Nat) (rest : List UInt8) : Char :=
  Char.ofNat (rest.foldl (fun n b => 64 * n + b.toNat % 64) (leadingBits first rest.length))

def replacement : Char := '\uFFFD'

/-- The character at the front of some bytes, and the number of bytes of it behind the first. -/
def decodeChar (first : UInt8) (rest : List UInt8) : Char × Nat :=
  match followers first.toNat with
  | none => (replacement, 0)
  | some bounds =>
    let taken := within bounds rest
    if taken.length = bounds.length then (charOfBytes first.toNat taken, taken.length)
    else (replacement, taken.length)

/-- The characters of some bytes. -/
def decode : List UInt8 → List Char
  | [] => []
  | first :: rest => (decodeChar first rest).1 :: decode (rest.drop (decodeChar first rest).2)
termination_by bytes => bytes.length
decreasing_by simp only [List.length_drop, List.length_cons]; omega

/-- The text of some bytes. -/
def ofBytes (bytes : List UInt8) : String := String.ofList (decode bytes)

end ScopedQuery.Text
