import ScopedQuery.Attempt
import ScopedQuery.Sql.Token
/-!
# Parsing

* `Parsing α` reads some tokens and gives an `α`; or it fails and reads nothing; or it crashes, and
  nothing is read any more.
* `symbol?`, `keyword?` and their kin try single tokens; those without a question mark fail where
  these answer `false` or `none`.
* `maybe` goes back to where it started when its reader fails; nothing goes back behind a crash.
* `separated` reads lists.
* `Grammar` holds the readers of one level of nesting, which those of the level above call.
-/

namespace ScopedQuery.Sql

/-- A reader of tokens. -/
abbrev Parsing := StateT (List Token) (Attempt Unit)

namespace Parsing

variable {α : Type}

/-- The next token, which stays in place. -/
def peek : Parsing (Option Token) := do return (← get).head?

/-- The token behind the next one. -/
def peekSecond : Parsing (Option Token) := do return (← get)[1]?

/-- Takes a token. -/
def next : Parsing Token := fun tokens =>
  match tokens with
  | [] => .error ()
  | token :: rest => .ok (token, rest)

/-- Takes a symbol if it comes next. -/
def symbol? (text : String) : Parsing Bool := fun tokens =>
  match tokens with
  | .symbol found :: rest => if found = text then .ok (true, rest) else .ok (false, tokens)
  | _ => .ok (false, tokens)

def symbol (text : String) : Parsing Unit := do guard (← symbol? text)

/-- The keyword that a token is. -/
def keywordOf : Token → Option String
  | .word _ _ keyword => keyword
  | _ => none

/-- The keyword that comes next. -/
def peekKeyword : Parsing (Option String) := do return (← peek).bind keywordOf

/-- Whether one of some keywords comes next. -/
def atKeyword (words : List String) : Parsing Bool := do return (← peekKeyword).any words.contains

/-- Whether a symbol comes next. -/
def atSymbol (text : String) : Parsing Bool := do return (← peek) == some (.symbol text)

/-- Takes one of some keywords if it comes next. -/
def anyKeyword? (words : List String) : Parsing (Option String) := fun tokens =>
  match tokens with
  | .word _ _ (some keyword) :: rest =>
    if words.contains keyword then .ok (some keyword, rest) else .ok (none, tokens)
  | _ => .ok (none, tokens)

def anyKeyword (words : List String) : Parsing String := do
  match ← anyKeyword? words with
  | some keyword => return keyword
  | none => failure

def keyword? (word : String) : Parsing Bool := do return (← anyKeyword? [word]).isSome

def keyword (word : String) : Parsing Unit := do guard (← keyword? word)

/-- What remains behind some keywords. -/
def afterKeywords? : List String → List Token → Option (List Token)
  | [], tokens => some tokens
  | word :: words, .word _ _ (some keyword) :: rest =>
    if keyword = word then afterKeywords? words rest else none
  | _ :: _, _ => none

/-- Takes some keywords if they all come next, one after the other. -/
def keywords? (words : List String) : Parsing Bool := fun tokens =>
  match afterKeywords? words tokens with
  | some rest => .ok (true, rest)
  | none => .ok (false, tokens)

def keywords (words : List String) : Parsing Unit := do guard (← keywords? words)

/-- Takes the first of some phrases that comes next. -/
def anyPhrase? : List (List String) → Parsing (Option String)
  | [] => return none
  | words :: phrases => do
    if ← keywords? words then return some (String.intercalate " " words) else anyPhrase? phrases

/-- What a reader reads, or nothing if it fails. -/
def maybe (read : Parsing α) : Parsing (Option α) := fun tokens =>
  match read tokens with
  | .ok (value, rest) => .ok (some value, rest)
  | .error _ => .ok (none, tokens)
  | .crashed => .crashed

/-- Reads nothing any more. -/
def crash : Parsing α := fun _ => .crashed

/-- What a reader reads that must not fail: if it does, this is a crash. -/
def unwrap (read : Parsing α) : Parsing α := fun tokens => (read tokens).unwrap

/-- What follows a keyword, if that comes next. -/
def behind? (word : String) (read : Parsing α) : Parsing (Option α) := do
  if ← keyword? word then return some (← read) else return none

/-- What a reader reads between parentheses. -/
def parenthesised (read : Parsing α) : Parsing α := do
  symbol "("
  let value ← read
  symbol ")"
  return value

/-- At most `fuel` items with a mark between them. -/
def separatedUpTo (mark : String) (read : Parsing α) : Nat → Parsing (List α)
  | 0 => failure
  | fuel + 1 => do
    let item ← read
    if ← symbol? mark then return item :: (← separatedUpTo mark read fuel) else return [item]

/-- Items with a mark between them, at least one. -/
def separated (mark : String) (read : Parsing α) : Parsing (List α) := do
  separatedUpTo mark read ((← get).length + 1)

/-- Items with commas between them, at least one. -/
def commaList (read : Parsing α) : Parsing (List α) := separated "," read

/-- At most `fuel` items with commas between them up to the closing parenthesis, before which there
can be one more comma. -/
def listToEndUpTo (read : Parsing α) : Nat → Parsing (List α)
  | 0 => failure
  | fuel + 1 => do
    let item ← read
    let comma ← symbol? ","
    if ← symbol? ")" then return [item]
    else if comma then return item :: (← listToEndUpTo read fuel)
    else failure

/-- Items behind an opening parenthesis, up to the closing one. -/
def listToEnd (read : Parsing α) : Parsing (List α) := do
  if ← symbol? ")" then return [] else listToEndUpTo read ((← get).length + 1)

/-- Items behind some keywords, none if these do not come next. -/
def listBehind (words : List String) (read : Parsing α) : Parsing (List α) := do
  if ← keywords? words then commaList read else return []

/-- At most `fuel` items, up to where a reader finds none. -/
def repeatedUpTo (read : Parsing (Option α)) : Nat → Parsing (List α)
  | 0 => failure
  | fuel + 1 => do
    match ← read with
    | some item => return item :: (← repeatedUpTo read fuel)
    | none => return []

/-- All items up to where a reader finds none; each of them takes a token. -/
def repeated (read : Parsing (Option α)) : Parsing (List α) := do
  repeatedUpTo read ((← get).length + 1)

end Parsing

/-- The readers of one level of nesting. `tight` reads an expression on the level itself: whether
`AND`, `OR` and `XOR` can go on with it, and how tightly its operators have to bind. -/
structure Grammar where
  expr : Parsing Expr
  query : Parsing Query
  statement : Parsing Statement
  tight : Bool → Nat → Parsing Expr

/-- The level at which nothing more can be nested. -/
def Grammar.exhausted : Grammar where
  expr := failure
  query := failure
  statement := failure
  tight := fun _ _ => failure

end ScopedQuery.Sql
