import ScopedQuery.Caller.Basic
import ScopedQuery.Failure
import ScopedQuery.Plan.Basic
import ScopedQuery.Schema.Dataset
/-!
# Row scoping

`Caller.scope` makes a plan fit what its caller may see. A plan of an administrator is left as it
is. For a plain user, a plan that names the caller in its first equation on the scoped field is left
as it is too; a plan or question about several persons is turned into a question back; and from
every other plan the filters on the scoped field are taken out, and the equation with the caller's
id is put in their place.
-/

namespace ScopedQuery

/-- A plan after scoping, and whether it may be run. -/
structure ScopedPlan where
  mayRun : Bool
  plan : Plan
deriving DecidableEq, Repr

namespace Scope

/-- The question back to a plain user who asked about several persons. -/
def clarification : String :=
  "As a regular user I can only query your own tasks. " ++
    "Would you like the same statistics for your own tasks instead?"

/-- The phrases that hint at several persons, in lower case. -/
def cues : List String :=
  ["多少人", "每个人", "所有人", "全员", "大家", "人员", "everyone", "everybody", "each person",
   "every person", "how many people", "all users", "per person", "whole team", "team members"]

/-- Whether a text occurs within another one. -/
def occursIn (piece : List Char) : List Char → Bool
  | [] => piece.isEmpty
  | c :: cs => piece.isPrefixOf (c :: cs) || occursIn piece cs

def hasCue (question : String) : Bool :=
  let text := (Text.toLower (Text.trim question)).toList
  cues.any fun cue => occursIn cue.toList text

/-- Whether a filter is about the scoped field. -/
def isScoped (d : Dataset) (f : Plan.Filter) : Bool :=
  Text.filled? f.field == some d.scopedField

def isEquation (f : Plan.Filter) : Bool := f.op.bind FilterOp.read? == some .eq

/-- Whether the first equation on the scoped field names the caller. -/
def isPinned (d : Dataset) (p : Plan) (id : String) : Bool :=
  match (p.filters.filter (isScoped d)).find? isEquation with
  | some f => Text.filled? f.value == some id
  | none => false

/-- Whether the plan tells persons apart. -/
def groupsByPerson (d : Dataset) (p : Plan) : Bool :=
  p.dimensions.any fun dim => dim.field.any d.isCrossPerson

/-- Whether the plan counts persons. -/
def countsPersons (d : Dataset) (p : Plan) : Bool :=
  p.measures.any fun m =>
    m.agg.bind Aggregation.read? == some .countDistinct &&
      Text.filled? m.field == some d.scopedField

/-- Whether several persons are asked about. -/
def isCrossPerson (d : Dataset) (question : String) (p : Plan) : Bool :=
  groupsByPerson d p || countsPersons d p || hasCue question

/-- The plan with the scoped field pinned to one id. -/
def pin (d : Dataset) (p : Plan) (id : String) : Plan :=
  { p with
    filters := p.filters.filter (fun f => !isScoped d f) ++ [.eq d.scopedField id] }

end Scope

/-- What a caller may run of a plan. -/
def Caller.scope (caller : Caller) (registry : Registry) (question : String) (p : Plan) :
    Except CallerFault ScopedPlan :=
  if caller.isAdmin then .ok ⟨true, p⟩
  else if caller.id ≤ 0 then .error (.invalidId caller.id)
  else
    let d := registry.findOrDefault p.dataset
    if Scope.isPinned d p caller.idText then .ok ⟨true, p⟩
    else if Scope.isCrossPerson d question p then
      .ok ⟨false, .clarification p.dataset Scope.clarification⟩
    else .ok ⟨true, Scope.pin d p caller.idText⟩

end ScopedQuery
