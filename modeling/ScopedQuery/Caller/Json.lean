import ScopedQuery.Caller.Basic
import ScopedQuery.Json.Reader
/-!
# Callers as JSON

`Caller.ofJson` reads a caller. A role is written as its code, or as an object whose only member is
the code with the value null.
-/

namespace ScopedQuery

open Json (Reader Step Fault requiredField)

namespace Role

/-- The role with exactly this code. -/
def ofCode (code : String) : Step Role :=
  if code = "ADMIN" then return admin
  else if code = "USER" then return user
  else Json.fail (.unknownVariant code "ADMIN" "USER")

/-- Passes over null. -/
def readUnit : Reader Unit := fun _ => do
  let c ← Json.start
  if c = 'n' then
    Json.advance
    Json.ident "ull".toList
  else Json.mismatch c "unit"

/-- The code of a role, in text that names one of several variants. -/
def readCode : Reader Role := fun levels => do
  ofCode (← Json.textOf "variant identifier" levels)

def reader : Reader Role := fun levels => do
  let c ← Json.start
  if c = '"' then readCode levels
  else if c = '\x7b' then
    Json.enter (fun levels => do
      let role ← readCode levels
      Json.colon
      readUnit levels
      match ← Json.peek with
      | none => Json.fail .endInObject
      | some '\x7d' => Json.advance
      | some _ => Json.fail .expectedValue
      return role) levels
  else Json.fail .expectedValue

end Role

namespace Caller

def reader : Reader Caller :=
  Json.record "UserContext"
    [requiredField "user_id" Json.word fun x c => { c with id := x },
     requiredField "username" Json.text fun x c => { c with name := x },
     requiredField "role" Role.reader fun x c => { c with role := x }] ⟨0, "", .user⟩

/-- Reads the JSON text of a caller. -/
def ofJson (text : String) : Except Fault Caller := reader.run text

end Caller

end ScopedQuery
