import ScopedQuery.Decimal.Numeral
import ScopedQuery.Failure
import ScopedQuery.Json.Reader
import ScopedQuery.Query.Limits
import ScopedQuery.Text.Blank
import ScopedQuery.Text.Case
/-!
# Settings

`Settings` holds what can be configured. `Settings.ofLookup` takes values from an environment and
accepts them only if they agree with each other; `Settings.ofJson` reads them from JSON and leaves
that check to `Settings.validate`.
-/

namespace ScopedQuery

structure Settings where
  /-- The limit of a plan that has none. -/
  defaultLimit : UInt32 := 50
  /-- The highest limit of a plan. -/
  maxLimit : UInt32 := 200
  /-- Whether administrators are shown the SQL and the plan. -/
  showDebug : Bool := true
  /-- The number of rows kept in an answer. -/
  maxRows : UInt64 := 1000
deriving DecidableEq, Repr

namespace Settings

def limits (s : Settings) : Limits := ⟨s.defaultLimit, s.maxLimit⟩

def validate (s : Settings) : Except SettingsFault Unit :=
  if s.maxLimit = 0 then .error .noCap
  else if s.defaultLimit = 0 ∨ s.maxLimit < s.defaultLimit then
    .error (.badDefault s.maxLimit s.defaultLimit)
  else .ok ()

/-! ### From an environment -/

/-- An unsigned number below a bound, if the key is present. -/
def number (bound : Nat) (key : String) (raw : Option String) :
    Except SettingsFault (Option Nat) :=
  match raw with
  | none => .ok none
  | some text =>
    match Decimal.natural? bound (Text.trim text) with
    | some n => .ok (some n)
    | none => .error (.notNumber key text)

/-- The words for true and false. -/
def bool? (raw : String) : Option Bool :=
  let word := Text.lower (Text.trim raw)
  if ["1", "true", "yes", "on"].contains word then some true
  else if ["0", "false", "no", "off"].contains word then some false
  else none

/-- A boolean, if the key is present. -/
def bool (key : String) (raw : Option String) : Except SettingsFault (Option Bool) :=
  match raw with
  | none => .ok none
  | some text =>
    match bool? text with
    | some b => .ok (some b)
    | none => .error (.notBool key text)

/-- The names of the variables that hold settings. -/
def keys : List String :=
  ["CHATBI_DEFAULT_LIMIT", "CHATBI_MAX_LIMIT", "CHATBI_EXPOSE_DEBUG", "CHATBI_MAX_ROWS"]

/-- The settings of an environment; what is absent has its default. -/
def ofLookup (lookup : String → Option String) : Except SettingsFault Settings := do
  let standard : Settings := {}
  let value (bound : Nat) (key : String) := number bound key (lookup key)
  let defaultLimit ← value UInt32.size "CHATBI_DEFAULT_LIMIT"
  let maxLimit ← value UInt32.size "CHATBI_MAX_LIMIT"
  let showDebug ← bool "CHATBI_EXPOSE_DEBUG" (lookup "CHATBI_EXPOSE_DEBUG")
  let maxRows ← value UInt64.size "CHATBI_MAX_ROWS"
  let settings : Settings := {
    defaultLimit := (defaultLimit.map UInt32.ofNat).getD standard.defaultLimit
    maxLimit := (maxLimit.map UInt32.ofNat).getD standard.maxLimit
    showDebug := showDebug.getD standard.showDebug
    maxRows := (maxRows.map UInt64.ofNat).getD standard.maxRows }
  settings.validate
  return settings

/-! ### From JSON -/

open Json (Reader optionalField)

def reader : Reader Settings :=
  Json.record "ChatBiConfig"
    [optionalField "default_limit" (Json.natural UInt32.size "u32") fun n s =>
       { s with defaultLimit := .ofNat n },
     optionalField "max_limit" (Json.natural UInt32.size "u32") fun n s =>
       { s with maxLimit := .ofNat n },
     optionalField "expose_debug_to_admin" Json.boolean fun b s => { s with showDebug := b },
     optionalField "max_rows_rendered" (Json.natural UInt64.size "usize") fun n s =>
       { s with maxRows := .ofNat n }] {}

/-- Reads the JSON text of settings, without checking that they agree. -/
def ofJson (text : String) : Except Json.Fault Settings := reader.run text

end Settings

end ScopedQuery
