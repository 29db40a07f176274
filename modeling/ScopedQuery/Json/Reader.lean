import ScopedQuery.Json.Scan
import ScopedQuery.Json.Value
/-!
# Reading JSON

A `Reader` reads one value from the front of a text, knowing how many more levels of lists and
objects may be entered. A reader expects a kind of value and says so in its fault; the first fault
in the text is the one reported.

* `value` reads any value, `text`, `boolean`, `integer` and `float` a scalar.
* `list` reads a list, `optional` a value that may be null.
* `record` reads an object by its `Field`s, or a list of their values in order.
* `Reader.run` reads a whole text.
-/

namespace ScopedQuery.Json

/-- Reads a value; the number is that of the levels that may still be entered, plus one. -/
abbrev Reader (α : Type) := Nat → Step α

/-- Passes over a bracket and reads what it opens, one level further in. -/
def enter (body : Reader α) : Reader α := fun levels => do
  if levels ≤ 1 then fail .tooDeep
  advance
  body (levels - 1)

/-- The numeral at the front of the text. -/
def signedNumeral (c : Char) : Step Numeral := do
  if c = '-' then
    advance
    numeral true
  else numeral false

def Numeral.found : Numeral → Found
  | .int n => .int n
  | .float x => .float x

/-- Fails because a value of another kind starts with `c`; a scalar is read first. -/
def mismatch (c : Char) (expected : String) : Step α := do
  if c = 'n' then
    advance
    ident "ull".toList
    fail (.wrongType .null expected)
  else if c = 't' then
    advance
    ident "rue".toList
    fail (.wrongType (.bool true) expected)
  else if c = 'f' then
    advance
    ident "alse".toList
    fail (.wrongType (.bool false) expected)
  else if c = '-' ∨ c.isDigit then fail (.wrongType (← signedNumeral c).found expected)
  else if c = '"' then
    advance
    fail (.wrongType (.string (← textRest)) expected)
  else if c = '[' then fail (.wrongType .sequence expected)
  else if c = '\x7b' then fail (.wrongType .map expected)
  else fail .expectedValue

/-- The first character of the next value. -/
def start : Step Char := do
  match ← peek with
  | none => fail .endInValue
  | some c => return c

/-! ### Scalars -/

def textOf (expected : String) : Reader String := fun _ => do
  let c ← start
  if c = '"' then
    advance
    textRest
  else mismatch c expected

def text : Reader String := textOf "a string"

def boolean : Reader Bool := fun _ => do
  let c ← start
  if c = 't' then
    advance
    ident "rue".toList
    return true
  else if c = 'f' then
    advance
    ident "alse".toList
    return false
  else mismatch c "a boolean"

/-- An integer that is at least `low` and below `high`. -/
def integer (low high : Int) (expected : String) : Reader Int := fun _ => do
  let c ← start
  if c = '-' ∨ c.isDigit then
    match ← signedNumeral c with
    | .int n =>
      if low ≤ n ∧ n < high then return n else fail (.wrongValue (.int n) expected)
    | .float x => fail (.wrongType (.float x) expected)
  else mismatch c expected

/-- An unsigned number below a bound. -/
def natural (bound : Nat) (expected : String) : Reader Nat := fun levels => do
  return (← integer 0 bound expected levels).toNat

/-- A signed word of 64 bits. -/
def word : Reader Int64 := fun levels => do
  return Int64.ofInt (← integer Int64.minValue.toInt (Int64.maxValue.toInt + 1) "i64" levels)

/-- A value, or none for null. -/
def optional (item : Reader α) : Reader (Option α) := fun levels => do
  match ← peek with
  | some 'n' =>
    advance
    ident "ull".toList
    return none
  | _ => return some (← item levels)

/-! ### Lists and objects -/

/-- Whether another item follows; the comma before it is passed over. -/
def nextItem (first : Bool) : Step Bool := do
  match ← peek with
  | none => fail .endInList
  | some c =>
    if c = ']' then return false
    else if first then return true
    else if c = ',' then
      advance
      match ← peek with
      | none => fail .endInValue
      | some ']' => fail .trailingComma
      | some _ => return true
    else fail .expectedItemEnd

/-- The end of a list of which no more items are wanted. -/
def closeList : Step Unit := do
  match ← peek with
  | none => fail .endInList
  | some ']' => advance
  | some ',' =>
    advance
    match ← peek with
    | some ']' => fail .trailingComma
    | _ => fail .trailingCharacters
  | some _ => fail .trailingCharacters

/-- Whether another member follows; the comma before it is passed over. -/
def nextMember (first : Bool) : Step Bool := do
  match ← peek with
  | none => fail .endInObject
  | some c =>
    if c = '\x7d' then return false
    else if first then
      if c = '"' then return true else fail .keyNotText
    else if c = ',' then
      advance
      match ← peek with
      | none => fail .endInValue
      | some '"' => return true
      | some '\x7d' => fail .trailingComma
      | some _ => fail .keyNotText
    else fail .expectedMemberEnd

def closeObject : Step Unit := do
  match ← peek with
  | none => fail .endInObject
  | some '\x7d' => advance
  | some ',' => fail .trailingComma
  | some _ => fail .trailingCharacters

def colon : Step Unit := do
  match ← peek with
  | none => fail .endInObject
  | some ':' => advance
  | some _ => fail .expectedColon

/-- The items up to the end of a list; `fuel` bounds their number. -/
def many (item : Step α) : Nat → Bool → Step (List α)
  | 0, _ => return []
  | fuel + 1, first => do
    if ← nextItem first then
      let x ← item
      return x :: (← many item fuel false)
    else return []

/-- The items of a list that has been entered. -/
def itemsOf (item : Reader α) : Reader (List α) := fun levels => do
  let items ← many (item levels) ((← get).length + 1) true
  closeList
  return items

/-- The members up to the end of an object, folded from the left. -/
def members (member : String → σ → Step σ) : Nat → Bool → σ → Step σ
  | 0, _, state => return state
  | fuel + 1, first, state => do
    if ← nextMember first then
      advance
      let name ← textRest
      members member fuel false (← member name state)
    else return state

def list (item : Reader α) : Reader (List α) := fun levels => do
  let c ← start
  if c = '[' then enter (itemsOf item) levels else mismatch c "a sequence"

/-! ### Any value -/

/-- A member of an object, put among those read before it. -/
def anyMember (value : Step Value) (name : String) (sorted : List (String × Value)) :
    Step (List (String × Value)) := do
  colon
  return insert name (← value) sorted

/-- A value within the levels given. Objects are sorted, the last of equal names winning. -/
def value : Reader Value
  | 0 => fail .tooDeep
  | levels + 1 => do
    let c ← start
    if c = 'n' then
      advance
      ident "ull".toList
      return .null
    else if c = 't' then
      advance
      ident "rue".toList
      return .bool true
    else if c = 'f' then
      advance
      ident "alse".toList
      return .bool false
    else if c = '-' ∨ c.isDigit then
      match ← signedNumeral c with
      | .int n => return .int n
      | .float x => return .float x
    else if c = '"' then
      advance
      return .string (← textRest)
    else if c = '[' then
      if levels = 0 then fail .tooDeep
      advance
      let items ← many (value levels) ((← get).length + 1) true
      closeList
      return .array items
    else if c = '\x7b' then
      if levels = 0 then fail .tooDeep
      advance
      let sorted ← members (anyMember (value levels)) ((← get).length + 1) true []
      closeObject
      return .object sorted
    else fail .expectedValue

/-! ### Records -/

/-- A field of a record: how its value is read and put into the record. A field that is not
required keeps the value that the record has at first. -/
structure Field (σ : Type) where
  name : String
  required : Bool
  read : Reader (σ → σ)

/-- A field whose value is read by `item`. -/
def optionalField (name : String) (item : Reader α) (put : α → σ → σ) : Field σ :=
  ⟨name, false, fun levels => do return put (← item levels)⟩

/-- A field that has to be present. -/
def requiredField (name : String) (item : Reader α) (put : α → σ → σ) : Field σ :=
  { optionalField name item put with required := true }

/-- A record under construction, with the names of the fields read so far. -/
structure Partial (σ : Type) where
  record : σ
  seen : List String

/-- A member of a record. Members that are no fields are passed over. -/
def recordMember (fields : List (Field σ)) (levels : Nat) (name : String) (state : Partial σ) :
    Step (Partial σ) := do
  match fields.find? (·.name == name) with
  | none =>
    colon
    skip
    return state
  | some f =>
    if state.seen.contains name then fail (.duplicateField name)
    colon
    let put ← f.read levels
    return ⟨put state.record, name :: state.seen⟩

/-- The fields of a record from the items of a list; `index` counts those read. -/
def recordItems (expected : String) (levels : Nat) : List (Field σ) → Nat → σ → Step σ
  | [], _, record => return record
  | f :: fields, index, record => do
    if ← nextItem (index == 0) then
      let put ← f.read levels
      recordItems expected levels fields (index + 1) (put record)
    else
      match (f :: fields).find? (·.required) with
      | some g =>
        fail (.wrongLength (index + (f :: fields).findIdx (·.name == g.name)) expected)
      | none => return record

/-- A record of that name, starting from `initial`. -/
def record (name : String) (fields : List (Field σ)) (initial : σ) : Reader σ := fun levels => do
  let c ← start
  let plural := if fields.length = 1 then " element" else " elements"
  if c = '[' then
    enter (fun levels => do
      let expected := "struct " ++ name ++ " with " ++ toString fields.length ++ plural
      let record ← recordItems expected levels fields 0 initial
      closeList
      return record) levels
  else if c = '\x7b' then
    enter (fun levels => do
      let state ← members (recordMember fields levels) ((← get).length + 1) true ⟨initial, []⟩
      match fields.find? fun f => f.required && !state.seen.contains f.name with
      | some f => fail (.missingField f.name)
      | none =>
        closeObject
        return state.record) levels
  else mismatch c ("struct " ++ name)

/-! ### Whole texts -/

/-- The levels of lists and objects that a text may have, plus one. -/
def depthLimit : Nat := 128

/-- Reads a whole text. -/
def Reader.run (reader : Reader α) (s : String) : Except Fault α := do
  let (result, rest) ← (reader depthLimit).run s.toList
  if (rest.dropWhile isSpace).isEmpty then return result else throw .trailingCharacters

/-- Reads a text that holds any value. -/
def Value.parse (s : String) : Except Fault Value := value.run s

end ScopedQuery.Json
