/-!
# Upper and lower case of ASCII letters

* `upper` and `lower` change ASCII letters and nothing else.
* `sameFold` compares two texts without regard to the case of ASCII letters.
-/

namespace ScopedQuery.Text

/-- A text with its ASCII letters in upper case. -/
def upper (s : String) : String := String.ofList (s.toList.map Char.toUpper)

/-- A text with its ASCII letters in lower case. -/
def lower (s : String) : String := String.ofList (s.toList.map Char.toLower)

/-- Equality of texts up to the case of ASCII letters. -/
def sameFold (s t : String) : Bool := lower s == lower t

theorem sameFold_self (s : String) : sameFold s s = true := by simp [sameFold]

end ScopedQuery.Text
