import ScopedQuery.Json.Writer
import ScopedQuery.Proofs.Json.Steps
/-!
# Texts read back

* `textBody_escape`: each character of a text is read from its escape.
* `textRest_escaped`: a written text is read as the text it was written from, whatever follows it.
* `write_string` and its like: what is written for each kind of value.
-/

namespace ScopedQuery.Json

/-- The control characters that are written by their numbers are read by them. -/
theorem hex4?_hexDigit :
    ∀ n < 0x20, hex4? '0' '0' (hexDigit (n / 16)) (hexDigit (n % 16)) = some n := by decide

/-- Characters that are written by a number that is no surrogate. -/
theorem textBody_number {a b c d : Char} {n : Nat} (hn : hex4? a b c d = some n)
    (hlow : isLowSurrogate n = false) (hhigh : isHighSurrogate n = false) (rest : List Char) :
    textBody ('\\' :: 'u' :: a :: b :: c :: d :: rest) = prepend (Char.ofNat n) (textBody rest) := by
  simp [textBody, hn, hlow, hhigh]

theorem textBody_letter {letter c : Char} (hletter : letter ≠ 'u') (h : escaped? letter = some c)
    (rest : List Char) : textBody ('\\' :: letter :: rest) = prepend c (textBody rest) := by
  simp [textBody, hletter, h]

theorem textBody_control {c : Char} (h : c.toNat < 0x20) (rest : List Char) :
    textBody ('\\' :: 'u' :: '0' :: '0' :: hexDigit (c.toNat / 16) :: hexDigit (c.toNat % 16) :: rest) =
      prepend c (textBody rest) := by
  have hlow : isLowSurrogate c.toNat = false := by
    simp only [isLowSurrogate, Bool.and_eq_false_iff, decide_eq_false_iff_not]
    omega
  have hhigh : isHighSurrogate c.toNat = false := by
    simp only [isHighSurrogate, Bool.and_eq_false_iff, decide_eq_false_iff_not]
    omega
  rw [textBody_number (hex4?_hexDigit c.toNat h) hlow hhigh, Char.ofNat_toNat]

/-- A character is read from its escape. -/
theorem textBody_escape (c : Char) (rest : List Char) :
    textBody (escape c ++ rest) = prepend c (textBody rest) := by
  have hnumber : ∀ n, c.toNat = n → Char.ofNat n = c := by
    rintro _ rfl
    exact Char.ofNat_toNat c
  unfold escape
  split
  · next h => exact textBody_letter (by decide) (by rw [h]; rfl) rest
  split
  · next h => exact textBody_letter (by decide) (by rw [h]; rfl) rest
  split
  · next h => exact textBody_letter (by decide) (by rw [← hnumber _ h]; rfl) rest
  split
  · next h => exact textBody_letter (by decide) (by rw [h]; rfl) rest
  split
  · next h => exact textBody_letter (by decide) (by rw [h]; rfl) rest
  split
  · next h => exact textBody_letter (by decide) (by rw [← hnumber _ h]; rfl) rest
  split
  · next h => exact textBody_letter (by decide) (by rw [h]; rfl) rest
  split
  · next h => exact textBody_control h rest
  · next hquote hslash _ _ _ _ _ hcontrol => exact textBody_plain hquote hslash hcontrol rest

/-- A text is read up to the mark that closes it. -/
theorem textBody_flatMap_escape (cs rest : List Char) :
    textBody (cs.flatMap escape ++ '"' :: rest) = .ok (cs, rest) := by
  induction cs with
  | nil => rfl
  | cons c cs ih =>
    rw [List.flatMap_cons, List.append_assoc, textBody_escape, ih]
    rfl

/-- A text is written between quotation marks, of which the first is passed over before it is read. -/
theorem writeText_append (s : String) (rest : List Char) :
    writeText s ++ rest = '"' :: (s.toList.flatMap escape ++ '"' :: rest) := by
  simp [writeText]

theorem textRest_escaped (s : String) (rest : List Char) :
    textRest (s.toList.flatMap escape ++ '"' :: rest) = .ok (s, rest) := by
  simp [textRest, textBody_flatMap_escape]

/-! ### Written values -/

theorem write_int (n : Int) : write (.int n) = (toString n).toList := rfl

theorem write_float (x : Float) : write (.float x) = (writeFloat x).toList := rfl

theorem write_string (s : String) : write (.string s) = writeText s := rfl

theorem write_array (items : List Value) :
    write (.array items) = '[' :: joined [','] (writeItems items) ++ [']'] := rfl

theorem write_object (members : List (String × Value)) :
    write (.object members) = '\x7b' :: joined [','] (writeMembers members) ++ ['\x7d'] := rfl

end ScopedQuery.Json
