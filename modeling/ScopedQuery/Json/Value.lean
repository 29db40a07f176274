/-!
# JSON values

* `Value` is a JSON value; the members of an object stand in the order in which they are written.
* `Value.insert` keeps members sorted by name and lets the last of equal names win.
* `Value.get?` and its kin look into a value without failing.
-/

namespace ScopedQuery.Json

inductive Value
  | null
  | bool (value : Bool)
  | int (value : Int)
  | float (value : Float)
  | string (value : String)
  | array (items : List Value)
  | object (members : List (String × Value))
deriving Inhabited

/-- Adds a member to members that are sorted by name; an equal name gives way. -/
def insert (name : String) (value : Value) : List (String × Value) → List (String × Value)
  | [] => [(name, value)]
  | (n, v) :: rest =>
    if name < n then (name, value) :: (n, v) :: rest
    else if name = n then (name, value) :: rest
    else (n, v) :: insert name value rest

/-- The object of some members, sorted by name, the last of equal names winning. -/
def Value.ofMembers (members : List (String × Value)) : Value :=
  .object (members.foldl (fun sorted m => insert m.1 m.2 sorted) [])

/-- The member of that name. -/
def Value.get? (name : String) : Value → Option Value
  | .object members => (members.find? (·.1 == name)).map (·.2)
  | _ => none

def Value.string? : Value → Option String
  | .string s => some s
  | _ => none

def Value.int? : Value → Option Int
  | .int n => some n
  | _ => none

def Value.bool? : Value → Option Bool
  | .bool b => some b
  | _ => none

def Value.items : Value → List Value
  | .array items => items
  | _ => []

/-- A string, or null if there is none. -/
def Value.ofOption : Option String → Value
  | some s => .string s
  | none => .null

end ScopedQuery.Json
