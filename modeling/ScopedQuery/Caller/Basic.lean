import ScopedQuery.Text.Blank
import ScopedQuery.Text.Case
/-!
# Callers

A `Caller` asks a question. Administrators see everything, plain users only what concerns them.
-/

namespace ScopedQuery

inductive Role
  | admin | user
deriving DecidableEq, Repr

namespace Role

def code : Role → String
  | admin => "ADMIN"
  | user => "USER"

/-- The word `admin`, whatever its case and the blanks around it, means an administrator; every
other text means a plain user. -/
def read (raw : String) : Role :=
  if Text.sameFold (Text.trim raw) "admin" then admin else user

/-- Whether the role is free of row scoping. -/
def isPrivileged : Role → Bool
  | admin => true
  | user => false

end Role

structure Caller where
  id : Int64
  name : String
  role : Role
deriving DecidableEq, Repr

namespace Caller

def isAdmin (c : Caller) : Bool := c.role.isPrivileged

/-- The decimal text of the caller's id. -/
def idText (c : Caller) : String := toString c.id.toInt

end Caller

end ScopedQuery
