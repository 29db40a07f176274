import ScopedQuery.Sql.Keyword
import ScopedQuery.Sql.Syntax
import ScopedQuery.Text.Blank
import ScopedQuery.Text.Letter
/-!
# Tokens of SQL

* `Token` is a lexical unit; `Token.step` reads the first one of a text.
* `Token.ofText?` reads all tokens of a text. There are none for blanks and comments, and the
  result is `none` if a quotation or a comment does not end.
-/

namespace ScopedQuery.Sql

inductive Token
  /-- A name or keyword; `quote` is the quotation mark around it, and a quoted word is none. -/
  | word (text : String) (quote : Option Char) (keyword : Option String)
  | number (digits : String) (long : Bool)
  | quotation (form : TextForm) (value : String)
  /-- An operator or a mark, by its spelling; `!=` is spelt `<>`. -/
  | symbol (text : String)
  | placeholder (name : String)
deriving DecidableEq, Repr

namespace Token

/-- An unquoted word. -/
def ofWord (text : String) : Token := .word text none (Keyword.ofWord? text)

/-! ### Characters -/

/-- Whether a word can start with a character. -/
def startsWord (c : Char) : Bool :=
  c = '_' || c = '$' || c = '@' || Text.inRanges [(0x80, 0xFFFF)] c.toNat || Text.isAlphabetic c

/-- Whether a word can go on with a character. -/
def continuesWord (c : Char) : Bool := startsWord c || c.isDigit

def isHexDigit (c : Char) : Bool :=
  c.isDigit || (decide ('a' ≤ c) && decide (c ≤ 'f')) || (decide ('A' ≤ c) && decide (c ≤ 'F'))

/-- The character that a backslash and a character stand for. -/
def unescape (c : Char) : Char :=
  match c with
  | '0' => '\x00'
  | 'b' => '\x08'
  | 'n' => '\n'
  | 'r' => '\r'
  | 't' => '\t'
  | 'Z' => '\x1a'
  | _ => c

/-! ### Quotations and comments -/

/-- The text up to a closing mark and what follows it. A doubled mark stands for one mark, and a
backslash takes the next character with it. -/
def quoted (mark : Char) : List Char → Option (List Char × List Char)
  | [] => none
  | c :: cs =>
    if c = mark then
      match cs with
      | [] => some ([], [])
      | d :: ds =>
        if d = mark then (quoted mark ds).map fun (text, rest) => (mark :: text, rest)
        else some ([], d :: ds)
    else if c = '\\' then
      match cs with
      | [] => none
      | d :: ds => (quoted mark ds).map fun (text, rest) => (unescape d :: text, rest)
    else (quoted mark cs).map fun (text, rest) => (c :: text, rest)

/-- The name up to a closing mark and what follows it; a doubled mark stands for one mark. -/
def quotedName (mark : Char) : List Char → Option (List Char × List Char)
  | [] => none
  | c :: cs =>
    if c = mark then
      match cs with
      | [] => some ([], [])
      | d :: ds =>
        if d = mark then (quotedName mark ds).map fun (text, rest) => (mark :: text, rest)
        else some ([], d :: ds)
    else (quotedName mark cs).map fun (text, rest) => (c :: text, rest)

/-- The text of an `E` quotation and what follows it. Here a backslash gives a meaning of their
own only to `n`, `r` and `t`, and it is lost before other characters. -/
def escaped (afterBackslash : Bool) : List Char → Option (List Char × List Char)
  | [] => none
  | c :: cs =>
    if afterBackslash then
      let meant := if c = 'n' || c = 'r' || c = 't' then unescape c else c
      (escaped false cs).map fun (text, rest) => (meant :: text, rest)
    else if c = '\'' then
      match cs with
      | [] => some ([], [])
      | d :: ds =>
        if d = '\'' then (escaped false ds).map fun (text, rest) => ('\'' :: text, rest)
        else some ([], d :: ds)
    else if c = '\\' then escaped true cs
    else (escaped false cs).map fun (text, rest) => (c :: text, rest)

/-- What follows a comment to the end of the line. -/
def afterLine (cs : List Char) : List Char := (cs.dropWhile (· ≠ '\n')).drop 1

/-- What follows a bracketed comment, inside of which comments can nest; `last` is the character
read before. -/
def afterComment (depth : Nat) (last : Char) : List Char → Option (List Char)
  | [] => none
  | c :: cs =>
    if last = '/' && c = '*' then afterComment (depth + 1) c cs
    else if last = '*' && c = '/' then
      match depth with
      | 0 => some cs
      | d + 1 => afterComment d c cs
    else afterComment depth c cs

/-! ### Numbers -/

/-- The exponent at the start of a text and what follows it, if a digit is in it. -/
def exponent? : List Char → Option (List Char × List Char)
  | [] => none
  | c :: cs =>
    if c = 'e' || c = 'E' then
      match cs with
      | [] => none
      | d :: ds =>
        if d = '+' || d = '-' then
          if (ds.takeWhile Char.isDigit).isEmpty then none
          else some (c :: d :: ds.takeWhile Char.isDigit, ds.dropWhile Char.isDigit)
        else if d.isDigit then
          some (c :: cs.takeWhile Char.isDigit, cs.dropWhile Char.isDigit)
        else none
    else none

/-- A text that starts with one of some characters. -/
def startsWithAny (marks : List Char) : List Char → Bool
  | [] => false
  | c :: _ => marks.contains c

/-- A number that ends before `rest`, with an `L` behind it if it is a long one. -/
def numberEnding (digits : List Char) : List Char → Token × List Char
  | 'L' :: rest => (.number (String.ofList digits) true, rest)
  | rest => (.number (String.ofList digits) false, rest)

/-- The token that follows digits and a point: a number with its exponent, or a word that
starts with them. -/
def afterDigits (digits rest : List Char) : Token × List Char :=
  if digits = ['.'] then (.symbol ".", rest)
  else
    match exponent? rest with
    | some (exponent, rest) => numberEnding (digits ++ exponent) rest
    | none =>
      if startsWithAny ['e', 'E'] rest then numberEnding digits rest
      else
        match rest.takeWhile continuesWord with
        | [] => numberEnding digits rest
        | more =>
          (ofWord (String.ofList (digits ++ more)), rest.dropWhile continuesWord)

/-- The token that starts with a digit or a point. -/
def startingWithDigit (cs : List Char) : Token × List Char :=
  let whole := cs.takeWhile Char.isDigit
  match whole, cs.dropWhile Char.isDigit with
  | ['0'], 'x' :: rest =>
    (.quotation .hex (String.ofList (rest.takeWhile isHexDigit)), rest.dropWhile isHexDigit)
  | _, '.' :: rest =>
    afterDigits (whole ++ '.' :: rest.takeWhile Char.isDigit) (rest.dropWhile Char.isDigit)
  | _, rest => afterDigits whole rest

/-! ### All tokens -/

/-- The operators of more than one character, a longer one before any that it starts with. -/
def operators : List String :=
  ["->>", "->", "||/", "||", "|/", "=>", "==", "!=", "!!", "!~*", "!~", "<=>", "<=", "<>", "<<",
   "<@", ">=", ">>", "::", ":=", "&&", "~*", "#-", "#>>", "#>", "@>", "@?"]

/-- The longest operator at the start of a text and what follows it. -/
def operator? (cs : List Char) : Option (Token × List Char) :=
  (operators.find? fun operator => operator.toList.isPrefixOf cs).map fun operator =>
    (.symbol (if operator = "!=" then "<>" else operator), cs.drop operator.length)

/-- The word that starts with some characters and goes on in a text. -/
def wordFrom (start cs : List Char) : Token × List Char :=
  (ofWord (String.ofList (start ++ cs.takeWhile continuesWord)), cs.dropWhile continuesWord)

/-- The token that starts with `@`: a word, unless a space or the end follows. -/
def startingWithAt : List Char → Token × List Char
  | [] => (.symbol "@", [])
  | '@' :: [] => (.symbol "@@", [])
  | '@' :: c :: cs => if c = ' ' then (.symbol "@@", c :: cs) else wordFrom ['@', '@', c] cs
  | c :: cs => if c = ' ' then (.symbol "@", c :: cs) else wordFrom ['@', c] cs

/-- A text literal from what is read of it. -/
def quotationOf (form : TextForm) (read : Option (List Char × List Char)) :
    Option (Option Token × List Char) :=
  read.map fun (text, rest) => (some (.quotation form (String.ofList text)), rest)

/-- What `c`, followed by `cs`, starts with: a token, or something that is skipped, and then the
rest. -/
def step (c : Char) (cs : List Char) : Option (Option Token × List Char) :=
  let token (read : Token × List Char) : Option (Option Token × List Char) :=
    some (some read.1, read.2)
  match c, cs with
  | 'N', '\'' :: rest => quotationOf .national (quoted '\'' rest)
  | 'n', '\'' :: rest => quotationOf .national (quoted '\'' rest)
  | 'E', '\'' :: rest => quotationOf .escaped (escaped false rest)
  | 'e', '\'' :: rest => quotationOf .escaped (escaped false rest)
  | 'X', '\'' :: rest => quotationOf .hex (quoted '\'' rest)
  | 'x', '\'' :: rest => quotationOf .hex (quoted '\'' rest)
  | '\'', rest => quotationOf .single (quoted '\'' rest)
  | '"', rest => quotationOf .double (quoted '"' rest)
  | '\x60', rest =>
    (quotedName '\x60' rest).map fun (name, rest) =>
      (some (.word (String.ofList name) (some '\x60') none), rest)
  | '-', '-' :: rest => some (none, afterLine rest)
  | '/', '*' :: rest => (afterComment 0 ' ' rest).map fun rest => (none, rest)
  | '?', rest =>
    token (.placeholder (String.ofList ('?' :: rest.takeWhile Text.isNumeric)),
      rest.dropWhile Text.isNumeric)
  | c, rest =>
    if c.isDigit || c = '.' then token (startingWithDigit (c :: rest))
    else
      match operator? (c :: rest) with
      | some read => token read
      | none =>
        if c = '@' then token (startingWithAt rest)
        else if startsWord c then token (wordFrom [c] rest)
        else if Text.isBlank c then some (none, rest)
        else token (.symbol (String.ofList [c]), rest)

/-- The tokens of a text of at most `fuel` characters. -/
def scan : Nat → List Char → Option (List Token)
  | _, [] => some []
  | 0, _ :: _ => none
  | fuel + 1, c :: cs =>
    (step c cs).bind fun (token, rest) => (scan fuel rest).map (token.toList ++ ·)

/-- The tokens of a text. -/
def ofText? (text : String) : Option (List Token) := scan text.length text.toList

end Token

end ScopedQuery.Sql
