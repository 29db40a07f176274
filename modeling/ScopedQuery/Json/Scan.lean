import ScopedQuery.Json.Fault
/-!
# The tokens of a JSON text

* `Step` reads from the front of a text and leaves the rest.
* `numeral` reads a number: an integer of 64 bits as such, any other number as a float.
* `textBody` reads the rest of a string, `skipText` passes over it with fewer checks.
* `skipValue` passes over a value of any depth, checking its form only.
-/

namespace ScopedQuery.Json

abbrev Step := StateT (List Char) (Except Fault)

def fail (fault : Fault) : Step α := throw fault

def isSpace (c : Char) : Bool := c == ' ' || c == '\n' || c == '\t' || c == '\r'

/-- The next character that is no white space, which stays in the text. -/
def peek : Step (Option Char) := do
  modify (·.dropWhile isSpace)
  return (← get).head?

/-- Passes over one character. -/
def advance : Step Unit := modify List.tail

/-- The rest of a word of which the first letter has been read. -/
def ident : List Char → Step Unit
  | [] => pure ()
  | c :: cs => do
    match ← get with
    | [] => fail .endInValue
    | d :: rest =>
      set rest
      if c = d then ident cs else fail .expectedIdent

/-! ### Numbers -/

inductive Numeral
  | int (value : Int)
  | float (value : Float)

/-- The largest number that the digits of a numeral are collected in. -/
def significandBound : Nat := UInt64.size - 1

/-- Collects digits as long as their number stays within the bound, and counts them. -/
def collect (n count : Nat) : List Char → Nat × Nat × List Char
  | [] => (n, count, [])
  | c :: cs =>
    let next := 10 * n + (c.toNat - 48)
    if c.isDigit && decide (next ≤ significandBound) then collect next (count + 1) cs
    else (n, count, c :: cs)

def powerOfTen (e : Nat) : Float := Float.ofScientific 1 false e

/-- `n · 10 ^ e`, computed in floats by one multiplication or by divisions. -/
def scaled (n : Nat) (e : Int) : Except Fault Float :=
  let x := n.toUInt64.toFloat
  if 0 ≤ e then
    if e ≤ 308 then
      let y := x * powerOfTen e.toNat
      if y.isInf then .error .numberOutOfRange else .ok y
    else if n = 0 then .ok x else .error .numberOutOfRange
  else
    let down := e.natAbs
    .ok (if down ≤ 308 then x / powerOfTen down
      else if down ≤ 616 then x / powerOfTen 308 / powerOfTen (down - 308)
      else 0.0)

def signed (negative : Bool) (x : Float) : Float := if negative then -x else x

/-- The exponent of a numeral, after its letter. -/
def exponentPart (negative : Bool) (n : Nat) (e : Int) : Step Numeral := do
  let down ← (do
    match ← get with
    | '+' :: rest => set rest; return false
    | '-' :: rest => set rest; return true
    | _ => return false : Step Bool)
  match ← get with
  | [] => fail .endInValue
  | c :: _ =>
    if !c.isDigit then fail .invalidNumber
    let digits := (← get).takeWhile Char.isDigit
    modify (·.dropWhile Char.isDigit)
    let size : Int := digits.foldl (fun v d => 10 * v + (d.toNat - 48)) 0
    match scaled n (if down then e - size else e + size) with
    | .ok x => return .float (signed negative x)
    | .error fault => fail fault

/-- The end of a numeral with a fraction or with more digits than are collected. -/
def numeralEnd (negative : Bool) (n : Nat) (e : Int) : Step Numeral := do
  match ← get with
  | 'e' :: rest => set rest; exponentPart negative n e
  | 'E' :: rest => set rest; exponentPart negative n e
  | _ =>
    match scaled n e with
    | .ok x => return .float (signed negative x)
    | .error fault => fail fault

/-- The fraction of a numeral, after its point. Digits that are not collected do not count. -/
def fractionPart (negative : Bool) (n : Nat) (e : Int) : Step Numeral := do
  let (n', count, rest) := collect n 0 (← get)
  set rest
  match rest with
  | c :: _ =>
    if c.isDigit then
      set (rest.dropWhile Char.isDigit)
      numeralEnd negative n' (e - count)
    else if count = 0 then fail .invalidNumber
    else numeralEnd negative n' (e - count)
  | [] => if count = 0 then fail .endInValue else numeralEnd negative n' (e - count)

/-- An integer without fraction and exponent. One that fits no word becomes a float. -/
def wholeNumeral (negative : Bool) (n : Nat) : Numeral :=
  if !negative then .int n
  else if n = 0 ∨ (n : Int) > -Int64.minValue.toInt then .float (-n.toUInt64.toFloat)
  else .int (-n)

/-- A number, after its sign. -/
def numeral (negative : Bool) : Step Numeral := do
  match ← get with
  | [] => fail .endInValue
  | c :: rest =>
    if !c.isDigit then
      fail .invalidNumber
    else if c = '0' && (rest.head?.map Char.isDigit).getD false then
      fail .invalidNumber
    else
      let (n, _, rest) := collect 0 0 (← get)
      let dropped := rest.takeWhile Char.isDigit
      let rest := rest.dropWhile Char.isDigit
      match rest with
      | '.' :: rest => set rest; fractionPart negative n dropped.length
      | _ =>
        set rest
        if dropped.isEmpty && rest.head? != some 'e' && rest.head? != some 'E' then
          return wholeNumeral negative n
        else numeralEnd negative n dropped.length

/-! ### Texts -/

def hexValue? (c : Char) : Option Nat :=
  if c.isDigit then some (c.toNat - 48)
  else if 'a' ≤ c ∧ c ≤ 'f' then some (c.toNat - 87)
  else if 'A' ≤ c ∧ c ≤ 'F' then some (c.toNat - 55)
  else none

/-- The number written by four hexadecimal digits. -/
def hex4? (a b c d : Char) : Option Nat := do
  return (← hexValue? a) * 4096 + (← hexValue? b) * 256 + (← hexValue? c) * 16 + (← hexValue? d)

/-- What is wrong with a hexadecimal escape that has fewer than four characters: four bytes are
looked at before the digits are. -/
def shortEscape (rest : List Char) : Fault :=
  if (String.ofList rest).utf8ByteSize < 4 then .endInString else .invalidEscape

/-- The character meant by a letter after a backslash. -/
def escaped? : Char → Option Char
  | '"' => some '"'
  | '\\' => some '\\'
  | '/' => some '/'
  | 'b' => some (Char.ofNat 0x8)
  | 'f' => some (Char.ofNat 0xC)
  | 'n' => some '\n'
  | 'r' => some '\r'
  | 't' => some '\t'
  | _ => none

def isHighSurrogate (n : Nat) : Bool := decide (0xD800 ≤ n) && decide (n ≤ 0xDBFF)

def isLowSurrogate (n : Nat) : Bool := decide (0xDC00 ≤ n) && decide (n ≤ 0xDFFF)

/-- The character written by a pair of surrogates. -/
def joinSurrogates (high low : Nat) : Char :=
  Char.ofNat ((high - 0xD800) * 0x400 + (low - 0xDC00) + 0x10000)

/-- What is wrong with a text that has no hexadecimal escape after a high surrogate. -/
def afterHigh : List Char → Fault
  | [] => .endInString
  | ['\\'] => .endInString
  | '\\' :: 'u' :: rest => shortEscape rest
  | _ => .unfinishedSurrogate

/-- Puts a character before a text that has been read. -/
def prepend (c : Char) :
    Except Fault (List Char × List Char) → Except Fault (List Char × List Char)
  | .ok (text, rest) => .ok (c :: text, rest)
  | .error fault => .error fault

/-- The rest of a text, after its opening quotation mark. -/
def textBody : List Char → Except Fault (List Char × List Char)
  | [] => .error .endInString
  | ['\\'] => .error .endInString
  | '"' :: rest => .ok ([], rest)
  | '\\' :: 'u' :: a :: b :: c :: d :: rest =>
    match hex4? a b c d with
    | none => .error .invalidEscape
    | some n =>
      if isLowSurrogate n then .error .loneSurrogate
      else if isHighSurrogate n then
        match rest with
        | '\\' :: 'u' :: e :: f :: g :: h :: rest =>
          match hex4? e f g h with
          | none => .error .invalidEscape
          | some m =>
            if isLowSurrogate m then prepend (joinSurrogates n m) (textBody rest)
            else .error .loneSurrogate
        | other => .error (afterHigh other)
      else prepend (Char.ofNat n) (textBody rest)
  | '\\' :: 'u' :: rest => .error (shortEscape rest)
  | '\\' :: c :: rest =>
    match escaped? c with
    | some d => prepend d (textBody rest)
    | none => .error .invalidEscape
  | c :: rest => if c.toNat < 0x20 then .error .controlCharacter else prepend c (textBody rest)

/-- The rest of a text that is not kept: surrogates need no partner. -/
def skipText : List Char → Except Fault (List Char)
  | [] => .error .endInString
  | ['\\'] => .error .endInString
  | '"' :: rest => .ok rest
  | '\\' :: 'u' :: a :: b :: c :: d :: rest =>
    if (hex4? a b c d).isSome then skipText rest else .error .invalidEscape
  | '\\' :: 'u' :: rest => .error (shortEscape rest)
  | '\\' :: c :: rest => if (escaped? c).isSome then skipText rest else .error .invalidEscape
  | c :: rest => if c.toNat < 0x20 then .error .controlCharacter else skipText rest

/-- The rest of a text, after its opening quotation mark. -/
def textRest : Step String := do
  match textBody (← get) with
  | .ok (text, rest) => set rest; return String.ofList text
  | .error fault => fail fault

def skipTextRest : Step Unit := do
  match skipText (← get) with
  | .ok rest => set rest
  | .error fault => fail fault

/-! ### Passing over a value -/

/-- Passes over digits, of which there has to be one. -/
def skipDigits : Step Unit := do
  match ← get with
  | c :: _ => if c.isDigit then modify (·.dropWhile Char.isDigit) else fail .invalidNumber
  | [] => fail .invalidNumber

def skipExponent : Step Unit := do
  match ← get with
  | e :: rest =>
    if e = 'e' ∨ e = 'E' then
      match rest with
      | '+' :: more => set more
      | '-' :: more => set more
      | more => set more
      skipDigits
  | [] => pure ()

/-- Passes over a number, after its sign. -/
def skipNumeral : Step Unit := do
  match ← get with
  | '0' :: rest =>
    set rest
    if (rest.head?.map Char.isDigit).getD false then fail .invalidNumber
  | _ => skipDigits
  match ← get with
  | '.' :: rest => set rest; skipDigits; skipExponent
  | _ => skipExponent

mutual

/-- Passes over a value; `fuel` bounds twice the characters left. -/
def skipValue : Nat → Step Unit
  | 0 => fail .endInValue
  | fuel + 1 => do
    match ← peek with
    | none => fail .endInValue
    | some c =>
      if c = 'n' then advance; ident "ull".toList
      else if c = 't' then advance; ident "rue".toList
      else if c = 'f' then advance; ident "alse".toList
      else if c = '-' then advance; skipNumeral
      else if c.isDigit then skipNumeral
      else if c = '"' then advance; skipTextRest
      else if c = '[' then
        advance
        match ← peek with
        | none => fail .endInList
        | some ']' => advance
        | some _ => skipItems fuel
      else if c = '\x7b' then
        advance
        match ← peek with
        | none => fail .endInObject
        | some '\x7d' => advance
        | some _ => skipMembers fuel
      else fail .expectedValue

/-- Passes over the items of a list and its end. -/
def skipItems : Nat → Step Unit
  | 0 => fail .endInValue
  | fuel + 1 => do
    skipValue fuel
    match ← peek with
    | none => fail .endInList
    | some ']' => advance
    | some ',' => advance; skipItems fuel
    | some _ => fail .expectedItemEnd

/-- Passes over the members of an object and its end. -/
def skipMembers : Nat → Step Unit
  | 0 => fail .endInValue
  | fuel + 1 => do
    match ← peek with
    | none => fail .endInObject
    | some '"' => advance; skipTextRest
    | some _ => fail .keyNotText
    match ← peek with
    | none => fail .endInObject
    | some ':' => advance
    | some _ => fail .expectedColon
    skipValue fuel
    match ← peek with
    | none => fail .endInObject
    | some '\x7d' => advance
    | some ',' => advance; skipMembers fuel
    | some _ => fail .expectedMemberEnd

end

/-- Passes over one value. -/
def skip : Step Unit := do skipValue (2 * (← get).length + 2)

end ScopedQuery.Json
