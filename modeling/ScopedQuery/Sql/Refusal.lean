/-!
# Refusals of SQL

A `Refusal` is the reason why a text of SQL is not run, and `Refusal.message` its wording.
-/

namespace ScopedQuery.Sql

inductive Refusal
  | blank
  | unreadable
  /-- There is not one statement but `count` of them. -/
  | statementCount (count : Nat)
  | notQuery
  | locking
  | into
  | setOperation
  | notSelect
  /-- Rows come from something other than a named table or a query. -/
  | foreignSource (text : String)
  | foreignTable (name : String)
  /-- A reason in words of its own. -/
  | stated (text : String)
deriving DecidableEq, Repr

def Refusal.message : Refusal → String
  | blank => "SQL is empty"
  | unreadable => "SQL failed to parse"
  | statementCount count => "expected exactly one statement, found " ++ toString count
  | notQuery => "only a single SELECT query is allowed"
  | locking => "locking clauses are not allowed"
  | into => "SELECT ... INTO is not allowed"
  | setOperation => "UNION/INTERSECT/EXCEPT is not allowed"
  | notSelect => "only plain SELECT bodies are allowed"
  | foreignSource text => "table source not allowed: " ++ text
  | foreignTable name => "table not allowed: " ++ name
  | stated text => text

end ScopedQuery.Sql
