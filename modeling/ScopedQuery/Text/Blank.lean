/-!
# White space

* `isBlank` is the Unicode property `White_Space`; `isSpace` are the blanks of ASCII.
* `trim` removes blanks from both ends of a text; `nonBlank?` also drops a text of blanks only.
* `words` splits a text at its runs of blanks.
-/

namespace ScopedQuery.Text

/-- Whether a number lies in one of some closed ranges. -/
def inRanges (ranges : List (Nat × Nat)) (n : Nat) : Bool :=
  ranges.any fun r => decide (r.1 ≤ n) && decide (n ≤ r.2)

/-- The ranges of the Unicode property `White_Space`. -/
def blankRanges : List (Nat × Nat) :=
  [(0x9, 0xD), (0x20, 0x20), (0x85, 0x85), (0xA0, 0xA0), (0x1680, 0x1680), (0x2000, 0x200A),
   (0x2028, 0x2029), (0x202F, 0x202F), (0x205F, 0x205F), (0x3000, 0x3000)]

def isBlank (c : Char) : Bool := inRanges blankRanges c.toNat

/-- The blanks of ASCII. -/
def isSpace (c : Char) : Bool := c == ' ' || (c.toNat ≥ 9 && c.toNat ≤ 13)

/-! ### Trimming -/

def trimStart (cs : List Char) : List Char := cs.dropWhile isBlank

def trimEnd (cs : List Char) : List Char := (cs.reverse.dropWhile isBlank).reverse

/-- A text without the blanks at its two ends. -/
def trim (s : String) : String := String.ofList (trimEnd (trimStart s.toList))

/-- The trimmed text, unless it is empty. -/
def nonBlank? (s : String) : Option String :=
  if trim s = "" then none else some (trim s)

/-- The trimmed text of an optional one, unless it is absent or empty. -/
def filled? (s : Option String) : Option String := s.bind nonBlank?

/-! ### Words -/

/-- The pieces between blanks, of which `word` holds the current one, backwards. -/
def wordsFrom (word : List Char) : List Char → List (List Char)
  | [] => if word.isEmpty then [] else [word.reverse]
  | c :: cs =>
    if isBlank c then
      if word.isEmpty then wordsFrom [] cs else word.reverse :: wordsFrom [] cs
    else wordsFrom (c :: word) cs

/-- The pieces of a text between its runs of blanks. -/
def words (s : String) : List String := (wordsFrom [] s.toList).map String.ofList

/-- A text with each run of blanks replaced by one space, and none at its ends. -/
def collapse (s : String) : String := String.intercalate " " (words s)

end ScopedQuery.Text
