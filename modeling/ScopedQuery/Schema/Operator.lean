import ScopedQuery.Text.Blank
import ScopedQuery.Text.Case
/-!
# Filter operators and sort directions

* `FilterOp` lists the operators of a plan's filters; `CompareOp` those that take one operand.
* `SortDirection` is the direction of an order entry.
-/

namespace ScopedQuery

inductive FilterOp
  | eq | ne | isIn | gt | gte | lt | lte | between
deriving DecidableEq, Repr

namespace FilterOp

def all : List FilterOp := [eq, ne, isIn, gt, gte, lt, lte, between]

/-- The word for the operator in a plan. -/
def code : FilterOp → String
  | eq => "EQ"
  | ne => "NE"
  | isIn => "IN"
  | gt => "GT"
  | gte => "GTE"
  | lt => "LT"
  | lte => "LTE"
  | between => "BETWEEN"

/-- The operator with exactly this code. -/
def ofCode? (code : String) : Option FilterOp := all.find? (·.code == code)

/-- Reads a code, whatever its case and the blanks around it. -/
def read? (raw : String) : Option FilterOp := ofCode? (Text.upper (Text.trim raw))

@[simp] theorem ofCode?_code (op : FilterOp) : ofCode? op.code = some op := by
  cases op <;> decide

end FilterOp

/-- An operator between a field and one operand. -/
inductive CompareOp
  | eq | ne | gt | gte | lt | lte
deriving DecidableEq, Repr

namespace CompareOp

/-- The comparison that a filter operator is, unless it takes other operands. -/
def ofFilterOp? : FilterOp → Option CompareOp
  | .eq => some eq
  | .ne => some ne
  | .gt => some gt
  | .gte => some gte
  | .lt => some lt
  | .lte => some lte
  | .isIn => none
  | .between => none

def filterOp : CompareOp → FilterOp
  | eq => .eq
  | ne => .ne
  | gt => .gt
  | gte => .gte
  | lt => .lt
  | lte => .lte

def sql : CompareOp → String
  | eq => "="
  | ne => "<>"
  | gt => ">"
  | gte => ">="
  | lt => "<"
  | lte => "<="

@[simp] theorem ofFilterOp?_filterOp (op : CompareOp) : ofFilterOp? op.filterOp = some op := by
  cases op <;> rfl

end CompareOp

inductive SortDirection
  | asc | desc
deriving DecidableEq, Repr

namespace SortDirection

def sql : SortDirection → String
  | asc => "ASC"
  | desc => "DESC"

/-- Reads a direction, whatever its case and the blanks around it. -/
def read? (raw : String) : Option SortDirection :=
  [asc, desc].find? (·.sql == Text.upper (Text.trim raw))

end SortDirection

end ScopedQuery
