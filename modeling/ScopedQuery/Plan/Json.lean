import ScopedQuery.Json.Reader
import ScopedQuery.Json.Writer
import ScopedQuery.Plan.Basic
import ScopedQuery.Text.Blank
/-!
# Plans as JSON

`Plan.json` writes a plan; what is not set is left out, except where its absence is written as null.
`Plan.ofJson` reads a plan leniently: every part may be missing or null, unknown members do not
count, and operands may be numbers or booleans. `Plan.ofModelOutput` also takes off the fence that
models put around JSON.
-/

namespace ScopedQuery

open Json (Value Reader Fault optionalField)

namespace Plan

/-! ### Writing -/

/-- A member that is left out if there is no text. -/
def present (name : String) (text : Option String) : List (String × Value) :=
  (text.map fun s => (name, Value.string s)).toList

def Measure.toJson (m : Measure) : Value :=
  .object ([("agg", .ofOption m.agg), ("field", .ofOption m.field)] ++ present "alias" m.label)

def Dimension.toJson (d : Dimension) : Value :=
  .object ([("field", .ofOption d.field)] ++ present "alias" d.label)

/-- The operands of `IN`, left out if there are none. -/
def presentList (name : String) (texts : List String) : List (String × Value) :=
  if texts.isEmpty then [] else [(name, .array (texts.map .string))]

def Filter.toJson (f : Filter) : Value :=
  .object ([("field", .ofOption f.field), ("op", .ofOption f.op)] ++ present "value" f.value ++
    presentList "values" f.values ++ present "from" f.low ++ present "to" f.high)

def Order.toJson (o : Order) : Value :=
  .object [("field", .ofOption o.field), ("direction", .ofOption o.direction)]

def toJson (p : Plan) : Value :=
  .object ([("dataset", .ofOption p.dataset)] ++
    (p.needClarification.map fun b => ("needClarification", Value.bool b)).toList ++
    present "clarifyingQuestion" p.clarifyingQuestion ++
    [("measures", .array (p.measures.map Measure.toJson)),
     ("dimensions", .array (p.dimensions.map Dimension.toJson)),
     ("filters", .array (p.filters.map Filter.toJson)),
     ("orderBy", .array (p.orderBy.map Order.toJson))] ++
    (p.limit.map fun n => ("limit", Value.int n.toInt)).toList)

/-- The JSON text of a plan. -/
def json (p : Plan) : String := p.toJson.compact

/-! ### Reading -/

/-- An operand is a text; numbers and booleans are operands by their JSON text. -/
def operandOf : Value → Except Fault (Option String)
  | .null => .ok none
  | .string s => .ok (some s)
  | .int n => .ok (some (Value.int n).compact)
  | .float x => .ok (some (Value.float x).compact)
  | .bool b => .ok (some (Value.bool b).compact)
  | v => .error (.stated ("expected a scalar operand, found " ++ v.compact))

/-- The operands of a list, without the absent ones. -/
def operandsOf : Value → Except Fault (List String)
  | .null => .ok []
  | .array items => do return (← items.mapM operandOf).filterMap id
  | v => .error (.stated ("expected a list of operands, found " ++ v.compact))

def operand : Reader (Option String) := fun levels => do
  operandOf (← Json.value levels)

def operands : Reader (List String) := fun levels => do
  operandsOf (← Json.value levels)

def optionalText : Reader (Option String) := Json.optional Json.text

/-- A list, for which null stands if it is empty. -/
def listOrNull (item : Reader α) : Reader (List α) := fun levels => do
  return (← Json.optional (Json.list item) levels).getD []

def Measure.reader : Reader Measure :=
  Json.record "Measure"
    [optionalField "agg" optionalText fun x m => { m with agg := x },
     optionalField "field" optionalText fun x m => { m with field := x },
     optionalField "alias" optionalText fun x m => { m with label := x }] {}

def Dimension.reader : Reader Dimension :=
  Json.record "Dimension"
    [optionalField "field" optionalText fun x d => { d with field := x },
     optionalField "alias" optionalText fun x d => { d with label := x }] {}

def Filter.reader : Reader Filter :=
  Json.record "Filter"
    [optionalField "field" optionalText fun x f => { f with field := x },
     optionalField "op" optionalText fun x f => { f with op := x },
     optionalField "value" operand fun x f => { f with value := x },
     optionalField "values" operands fun x f => { f with values := x },
     optionalField "from" operand fun x f => { f with low := x },
     optionalField "to" operand fun x f => { f with high := x }] {}

def Order.reader : Reader Order :=
  Json.record "OrderBy"
    [optionalField "field" optionalText fun x o => { o with field := x },
     optionalField "direction" optionalText fun x o => { o with direction := x }] {}

def reader : Reader Plan :=
  Json.record "QueryPlan"
    [optionalField "dataset" optionalText fun x p => { p with dataset := x },
     optionalField "needClarification" (Json.optional Json.boolean) fun x p =>
       { p with needClarification := x },
     optionalField "clarifyingQuestion" optionalText fun x p => { p with clarifyingQuestion := x },
     optionalField "measures" (listOrNull Measure.reader) fun x p => { p with measures := x },
     optionalField "dimensions" (listOrNull Dimension.reader) fun x p => { p with dimensions := x },
     optionalField "filters" (listOrNull Filter.reader) fun x p => { p with filters := x },
     optionalField "orderBy" (listOrNull Order.reader) fun x p => { p with orderBy := x },
     optionalField "limit" (Json.optional Json.word) fun x p => { p with limit := x }] {}

/-- Reads the JSON text of a plan. -/
def ofJson (text : String) : Except Fault Plan := reader.run text

/-! ### The output of a model -/

/-- What follows a given beginning of a text. -/
def after? : List Char → List Char → Option (List Char)
  | [], cs => some cs
  | _ :: _, [] => none
  | b :: bs, c :: cs => if b = c then after? bs cs else none

/-- Three back quotes. -/
def fence : List Char := "\x60\x60\x60".toList

/-- What follows the mark that opens a fence. -/
def afterOpener? (cs : List Char) : Option (List Char) :=
  (after? (fence ++ "json".toList) cs).orElse fun _ =>
    (after? (fence ++ "JSON".toList) cs).orElse fun _ => after? fence cs

/-- A text without the mark that closes a fence at its end, if it has one. -/
def beforeCloser (cs : List Char) : List Char :=
  match after? fence (Text.trimEnd cs).reverse with
  | some rest => rest.reverse
  | none => cs

/-- A text without blanks at its ends and without a fence around it. -/
def unfenced (text : String) : String :=
  let cs := Text.trimEnd (Text.trimStart text.toList)
  match afterOpener? cs with
  | none => String.ofList cs
  | some inner => String.ofList (Text.trimEnd (Text.trimStart (beforeCloser inner)))

/-- Reads the plan that a model gave out. -/
def ofModelOutput (text : String) : Except Fault Plan := ofJson (unfenced text)

end Plan

end ScopedQuery
