import ScopedQuery.Json.Scan
/-!
# The grammar of JSON

A `Doc` is what a JSON text says as far as its form goes: numbers and texts stand in it as they are written.
`Spells d t` says that `t` is a text of the document `d`, with white space wherever it may stand inside.
-/

namespace ScopedQuery.Json

/-! ### White space and marks -/

/-- White space only. -/
def Gap (w : List Char) : Prop := ∀ c ∈ w, isSpace c = true

/-- What stands in front of an item or a member: a comma, unless it is the first one, and white space. -/
def Lead (first : Bool) (m : List Char) : Prop :=
  match first with
  | true => Gap m
  | false => ∃ w w', Gap w ∧ Gap w' ∧ m = w ++ ',' :: w'

/-- The text is at its end, or goes on with a character that ends a value. -/
def Stops (rest : List Char) : Prop :=
  ∀ c, rest.head? = some c → isSpace c = true ∨ c = ',' ∨ c = ']' ∨ c = '\x7d'

/-! ### Numbers -/

def Digits (ds : List Char) : Prop := ds ≠ [] ∧ ∀ c ∈ ds, c.isDigit = true

/-- Digits with no needless zero in front. -/
inductive Whole : List Char → Prop
  | zero : Whole ['0']
  | digits {ds : List Char} : Digits ds → ds.head? ≠ some '0' → Whole ds

inductive Fraction : List Char → Prop
  | absent : Fraction []
  | digits {ds : List Char} : Digits ds → Fraction ('.' :: ds)

inductive Exponent : List Char → Prop
  | absent : Exponent []
  | digits {e : Char} {sign ds : List Char} : e = 'e' ∨ e = 'E' → sign = [] ∨ sign = ['+'] ∨ sign = ['-'] →
      Digits ds → Exponent (e :: (sign ++ ds))

inductive Unsigned : List Char → Prop
  | parts {w f e : List Char} : Whole w → Fraction f → Exponent e → Unsigned (w ++ (f ++ e))

inductive Number : List Char → Prop
  | plain {t : List Char} : Unsigned t → Number t
  | minus {t : List Char} : Unsigned t → Number ('-' :: t)

/-! ### Texts -/

/-- What may stand between quotation marks. -/
inductive Body : List Char → Prop
  | done : Body []
  | plain {c : Char} {cs : List Char} : c ≠ '"' → c ≠ '\\' → 0x20 ≤ c.toNat → Body cs → Body (c :: cs)
  | letter {c : Char} {cs : List Char} : (escaped? c).isSome = true → Body cs → Body ('\\' :: c :: cs)
  | number {a b c d : Char} {cs : List Char} : (hex4? a b c d).isSome = true → Body cs →
      Body ('\\' :: 'u' :: a :: b :: c :: d :: cs)

/-! ### Documents -/

/-- A JSON document. -/
inductive Doc
  | null
  | bool (b : Bool)
  /-- A number by its characters. -/
  | number (text : List Char)
  /-- A text by the characters between its quotation marks. -/
  | string (body : List Char)
  | array (items : List Doc)
  | object (members : List (List Char × Doc))

mutual

/-- The texts of a document. -/
inductive Spells : Doc → List Char → Prop
  | null : Spells .null ['n', 'u', 'l', 'l']
  | isTrue : Spells (.bool true) ['t', 'r', 'u', 'e']
  | isFalse : Spells (.bool false) ['f', 'a', 'l', 's', 'e']
  | number {t : List Char} : Number t → Spells (.number t) t
  | string {body : List Char} : Body body → Spells (.string body) ('"' :: (body ++ ['"']))
  | array {ds : List Doc} {t : List Char} : SpellsItems true ds t → Spells (.array ds) ('[' :: t)
  | object {ms : List (List Char × Doc)} {t : List Char} : SpellsMembers true ms t →
      Spells (.object ms) ('\x7b' :: t)

/-- The texts of the items that are still to come, up to the end of the list. -/
inductive SpellsItems : Bool → List Doc → List Char → Prop
  | close {first : Bool} {w : List Char} : Gap w → SpellsItems first [] (w ++ [']'])
  | item {first : Bool} {d : Doc} {ds : List Doc} {m t ts : List Char} : Lead first m → Spells d t →
      SpellsItems false ds ts → SpellsItems first (d :: ds) (m ++ (t ++ ts))

/-- The texts of the members that are still to come, up to the end of the object. -/
inductive SpellsMembers : Bool → List (List Char × Doc) → List Char → Prop
  | close {first : Bool} {w : List Char} : Gap w → SpellsMembers first [] (w ++ ['\x7d'])
  | member {first : Bool} {name : List Char} {d : Doc} {ms : List (List Char × Doc)}
      {m w w' t ts : List Char} : Lead first m → Body name → Gap w → Gap w' → Spells d t →
      SpellsMembers false ms ts →
      SpellsMembers first ((name, d) :: ms)
        (m ++ '"' :: (name ++ '"' :: (w ++ ':' :: (w' ++ (t ++ ts)))))

end

/-- A whole text of a document, which may have white space around it. -/
def Doc.IsText (d : Doc) (text : String) : Prop :=
  ∃ w t w', Gap w ∧ Gap w' ∧ Spells d t ∧ text.toList = w ++ (t ++ w')

end ScopedQuery.Json
