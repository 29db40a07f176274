import ScopedQuery.Text.Blank
/-!
# Display names

A display name consists of ASCII letters and digits, underscores and the common Chinese
ideographs. `displayName` makes one of any text, character by character.
-/

namespace ScopedQuery.Text

/-- The characters of a display name. -/
def isNameChar (c : Char) : Bool :=
  c.isAlphanum || c == '_' || (decide (0x4E00 ≤ c.toNat) && decide (c.toNat ≤ 0x9FA5))

/-- Keeps the characters of a display name and writes `_` for every other one. -/
def cleanName (s : String) : String :=
  String.ofList (s.toList.map fun c => if isNameChar c then c else '_')

/-- The display name made of `raw`, or of `fallback` if `raw` is absent or blank. -/
def displayName (raw : Option String) (fallback : String) : String :=
  cleanName ((filled? raw).getD fallback)

end ScopedQuery.Text
