import ScopedQuery.Proofs.Sql.Reading.Select
import ScopedQuery.Proofs.Steps
import ScopedQuery.Store.Execution
/-!
# Engines that answer texts

* `SqlEngine`: an engine answers texts with parameters, and `SqlEngine.execute` runs a bound query with it.
* `Store.engine`: the engine that a store is at a moment. It runs bound queries as the store does
  (`Store.execute_eq`).
-/

namespace ScopedQuery

open Steps Sql Store

/-- An engine answers a text and its parameters with the names of the columns of the text, and with rows. -/
def SqlEngine (ε : Type) : Type := String → List Param → Except ε (List String × List Row)

namespace SqlEngine

variable {ε : Type}

/-- The result of a bound query. It has the display names of the query, unless their number is not that of
the columns of its text. -/
def execute (e : SqlEngine ε) (b : BoundQuery) : Except ε ResultSet := do
  let (names, rows) ← e b.sql b.params
  return .ofRows engineName (if b.columns.length = names.length then b.columns else names)
    (rows.map fun row => row.map Cell.toJson) 0

end SqlEngine

namespace Store

/-- The engine that a store is at a moment. -/
def engine (s : Store) (now : Calendar.Moment) : SqlEngine StoreFault := fun text params => do
  let (selection, needed) ← s.prepare text
  let cells ← bindParams params needed
  match selection with
  | none => throw .noStatement
  | some selection =>
    let rows ← selection.run ⟨cells, now⟩
    return (selection.items.map (·.name), rows)

/-- A store runs a bound query as an engine does. -/
theorem execute_eq (s : Store) (now : Calendar.Moment) (b : BoundQuery) :
    s.execute now b = (s.engine now).execute b := by
  simp only [execute, answer, SqlEngine.execute, engine, bind_assoc]
  refine bind_congr fun prepared => bind_congr fun cells => ?_
  cases prepared.1 with
  | none => rfl
  | some selection => simp [columnNames]

/-- What a store answers to a text that is read as one selection is what this selection comes to. -/
theorem engine_eq_ok {s : Store} {now : Calendar.Moment} {text : String} {x : SelectText}
    {params : List Param} {names : List String} {rows : List Row}
    (hsql : Sql.statements? text = some [.query x.query]) (h : s.engine now text params = .ok (names, rows)) :
    ∃ a n cells, Selection.ofQuery s x.query = .ok (a, n) ∧ Selection.run a ⟨cells, now⟩ = .ok rows ∧
      names = a.items.map (·.name) := by
  simp only [engine, prepare, hsql, bind_assoc, pure_bind, Steps.bind_eq_ok, pure_eq_ok] at h
  obtain ⟨⟨a, n⟩, hquery, cells, -, rows', hrows, heq⟩ := h
  obtain ⟨rfl, rfl⟩ := Prod.mk.inj heq
  exact ⟨a, n, cells, hquery, hrows, rfl⟩

end Store

end ScopedQuery
