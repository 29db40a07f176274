import ScopedQuery.Bound.Json
import ScopedQuery.Proofs.Bound.Clauses
import ScopedQuery.Proofs.Calendar.Written
import ScopedQuery.Proofs.Json.Record
import ScopedQuery.Schema.Tasks
/-!
# Bound queries survive JSON, but for texts that look like instants

JSON does not tell a text from an instant.

* `Param.reread` is what a parameter becomes when it is written and read back: a text that reads as an
  instant becomes that instant, and any other parameter stays as it is.
* `reread_map_eq_self`: all parameters stay as they are just if no text among them reads as an instant.
* `BoundQuery.ofJson_json_of_bind`: this is all that happens to a bound query without decimal parameters.
-/

namespace ScopedQuery

open Json (Value Reads Fills)

namespace Param

/-- What is read back of a parameter. -/
def reread : Param → Param
  | .text s =>
    match Calendar.Instant.ofIso? s with
    | some t => .timestamp t
    | none => .text s
  | p => p

theorem reread_eq_self {p : Param} :
    p.reread = p ↔ ∀ s, p = .text s → Calendar.Instant.ofIso? s = none := by
  cases p with
  | text s =>
    cases hiso : Calendar.Instant.ofIso? s with
    | none => simp [reread, hiso]
    | some t => simp [reread, hiso]
  | _ => simp [reread]

theorem reread_map_eq_self {params : List Param} :
    params.map reread = params ↔ ∀ s, .text s ∈ params → Calendar.Instant.ofIso? s = none := by
  have hall : params.map reread = params ↔ ∀ p ∈ params, p.reread = p := by
    rw [← List.forall₂_eq_eq_eq, List.forall₂_map_left_iff, List.forall₂_same]
  rw [hall]
  constructor
  · intro h s hs
    exact reread_eq_self.mp (h _ hs) s rfl
  · intro h p hp
    rw [reread_eq_self]
    rintro s rfl
    exact h s hp

/-- A parameter that JSON can hold: no decimal, and no instant that does not exist. -/
inductive Holdable : Param → Prop
  | integer (n : Int64) : Holdable (.integer n)
  | timestamp (t : Calendar.Instant) (valid : t.Valid) : Holdable (.timestamp t)
  | text (s : String) : Holdable (.text s)

variable {p : Param} (h : p.Holdable)

include h

theorem ofJson?_toJson : ofJson? p.toJson = some p.reread := by
  cases h with
  | integer n =>
    rw [toJson, ofJson?, if_pos (Decimal.fitsWord_toInt n), Int64.ofInt_toInt]
    rfl
  | timestamp t valid =>
    rw [toJson, ofJson?, Calendar.ofIso?_iso valid]
    rfl
  | text s =>
    rw [toJson, ofJson?, reread]
    cases Calendar.Instant.ofIso? s <;> rfl

theorem reads_value : Reads Json.value 0 p.toJson p.toJson := by
  cases h with
  | integer n => exact Json.reads_value_int (Json.isWord_toInt n)
  | timestamp t valid => exact Json.reads_value_string t.iso
  | text s => exact Json.reads_value_string s

theorem reads_reread : Reads reader 0 p.toJson p.reread := by
  intro levels rest hlevels hrest
  rw [reader, Json.bind_apply, reads_value h levels rest hlevels hrest, Json.andThen_ok]
  simp only [ofJson?_toJson h]
  rfl

end Param

namespace BoundQuery

/-- A bound query is read back with its text and its columns, and with what is read back of its
parameters. -/
theorem ofJson_json_of_holdable {b : BoundQuery} (h : ∀ p ∈ b.params, p.Holdable) :
    ofJson b.json = .ok { b with params := b.params.map Param.reread } := by
  have hparams : List.Forall₂ (Reads Param.reader 0) (b.params.map Param.toJson)
      (b.params.map Param.reread) := by
    rw [List.forall₂_map_left_iff, List.forall₂_map_right_iff, List.forall₂_same]
    exact fun p hp => Param.reads_reread (h p hp)
  have hcolumns : List.Forall₂ (Reads Json.text 0) (b.columns.map .string) b.columns := by
    rw [List.forall₂_map_left_iff, List.forall₂_same]
    exact fun s _ => Json.reads_text s
  have hread : Reads reader 2 b.toJson { b with params := b.params.map Param.reread } := by
    refine Fills.record ?_ "BuiltQuery" (by decide)
    refine .required_field ((Json.reads_text b.sql).mono (Nat.zero_le 1)) "sql" ?_
    refine .required_field (Reads.list hparams) "params" ?_
    exact .required_field (Reads.list hcolumns) "columns" (.nil _)
  exact hread.run (by decide)

end BoundQuery

/-- An operand is read as a parameter that JSON can hold, unless it is a decimal. -/
theorem Param.holdable_of_ofOperand {f : Field} {raw : String} {p : Param} (h : ofOperand f raw = .ok p)
    (hdecimal : p.type ≠ .decimal) : p.Holdable := by
  cases p with
  | integer n => exact .integer n
  | decimal x => exact absurd rfl hdecimal
  | text s => exact .text s
  | timestamp t =>
    simp only [ofOperand] at h
    split at h
    · split at h <;> cases h
    · split at h <;> cases h
    · split at h
      · next t' hread =>
        obtain rfl := Param.timestamp.inj (Except.ok.inj h)
        exact .timestamp t' (Calendar.valid_of_ofText? hread)
      · cases h
    · cases h

/-- The parameters of a query that has been bound come from operands. -/
theorem Query.holdable_of_bind {q : Query} {registry : Registry} {dialect : Dialect} {b : BoundQuery}
    (h : q.bind registry dialect = .ok b) (hdecimal : ∀ p ∈ b.params, p.type ≠ .decimal) :
    ∀ p ∈ b.params, p.Holdable := by
  obtain ⟨-, c, hc, rfl⟩ := bind_eq_ok.mp h
  intro p hp
  obtain ⟨cond, hcond, hmem⟩ := List.mem_flatMap.mp hp
  obtain ⟨f, -, hf⟩ := Steps.exists_origin hc.conditions hcond
  obtain ⟨field, -, -, -, hparams⟩ := Filter.condition_eq_ok.mp hf
  obtain ⟨raw, -, hread⟩ := Steps.exists_origin hparams hmem
  exact Param.holdable_of_ofOperand hread (hdecimal p hp)

/-- A bound query without decimal parameters is read back with its text, its columns and its parameters,
of which only a text that reads as an instant changes: it becomes that instant. -/
theorem BoundQuery.ofJson_json_of_bind {q : Query} {registry : Registry} {dialect : Dialect}
    {b : BoundQuery} (h : q.bind registry dialect = .ok b)
    (hdecimal : ∀ p ∈ b.params, p.type ≠ .decimal) :
    ofJson b.json = .ok { b with params := b.params.map Param.reread } ∧
      (ofJson b.json = .ok b ↔
        ∀ s, Param.text s ∈ b.params → Calendar.Instant.ofIso? s = none) := by
  have hread := ofJson_json_of_holdable (Query.holdable_of_bind h hdecimal)
  refine ⟨hread, ?_⟩
  rw [hread, ← Param.reread_map_eq_self, Except.ok.injEq]
  constructor
  · intro heq
    exact congrArg BoundQuery.params heq
  · intro heq
    rw [heq]

/-- Tasks above a number, from a moment on, in one of two states of which one is a date: all of this
stays. -/
theorem BoundQuery.ofJson_json_of_bind_of_states :
    let q : Query := {
      dataset := "TASK"
      dimensions := [⟨"STATUS", "State"⟩]
      measures := [⟨.count, "TASK_ID", "Tasks"⟩]
      filters := [⟨"TASK_ID", .compare .gt "-7"⟩, ⟨"PUBLISHED_TIME", .compare .gte "2024-01-05 09:15"⟩,
        ⟨"STATUS", .oneOf ["OPEN", "2024-01-05"]⟩]
      orderBy := [⟨"STATUS", .desc⟩]
      limit := 10
      usedFields := ["PUBLISHED_TIME", "STATUS", "TASK_ID"] }
    ∃ b, q.bind .builtin .sqlite = .ok b ∧ (∀ p ∈ b.params, p.type ≠ .decimal) ∧
      b.params.map Param.type = [.integer, .timestamp, .text, .text] ∧ ofJson b.json = .ok b := by
  intro q
  have hchecks : (q.bind .builtin .sqlite).toOption.any (fun b =>
      b.params.map Param.type == [.integer, .timestamp, .text, .text] &&
        b.params.all fun p => match p with
          | .text s => (Calendar.Instant.ofIso? s).isNone
          | _ => true) = true := by
    decide
  cases hbind : q.bind .builtin .sqlite with
  | error e =>
    rw [hbind] at hchecks
    cases hchecks
  | ok b =>
    rw [hbind] at hchecks
    simp only [Except.toOption, Option.any_some, Bool.and_eq_true, beq_iff_eq, List.all_eq_true] at hchecks
    obtain ⟨htypes, hall⟩ := hchecks
    have hdecimal : ∀ p ∈ b.params, p.type ≠ .decimal := by
      intro p hp heq
      have hmem := List.mem_map_of_mem (f := Param.type) hp
      rw [htypes, heq] at hmem
      revert hmem
      decide
    refine ⟨b, rfl, hdecimal, htypes, (ofJson_json_of_bind hbind hdecimal).2.mpr fun s hs => ?_⟩
    exact Option.isNone_iff_eq_none.mp (hall (.text s) hs)

/-- Counts the tasks in a state. -/
def Query.countInState (state : String) : Query where
  dataset := "TASK"
  dimensions := []
  measures := [⟨.count, "TASK_ID", "COUNT_TASK_ID"⟩]
  filters := [⟨"STATUS", .compare .eq state⟩]
  orderBy := []
  limit := 50
  usedFields := ["STATUS", "TASK_ID"]

/-- The state of tasks is a text, but comes back as an instant if it is written like one. -/
theorem BoundQuery.ofJson_json_state_like_instant :
    let sql := "SELECT COUNT(t.id) AS c0 FROM project_task t WHERE t.deleted = 0 AND t.status = ? LIMIT 50"
    let b : BoundQuery := ⟨sql, [.text "2024-01-05T00:00:00"], ["COUNT_TASK_ID"]⟩
    (Query.countInState "2024-01-05T00:00:00").bind .builtin .mysql = .ok b ∧
      (∀ p ∈ b.params, p.type ≠ .decimal) ∧
      ofJson b.json = .ok { b with params := [.timestamp ⟨⟨2024, 1, 5⟩, 0, 0, 0, 0⟩] } ∧
      ofJson b.json ≠ .ok b := by
  intro sql b
  have hholdable : ∀ p ∈ b.params, p.Holdable := by
    intro p hp
    obtain rfl := List.mem_singleton.mp hp
    exact .text _
  have hiso : Calendar.Instant.ofIso? "2024-01-05T00:00:00" = some ⟨⟨2024, 1, 5⟩, 0, 0, 0, 0⟩ := by
    decide
  have hread : ofJson b.json = .ok { b with params := [.timestamp ⟨⟨2024, 1, 5⟩, 0, 0, 0, 0⟩] } := by
    rw [ofJson_json_of_holdable hholdable]
    simp only [b, List.map_cons, List.map_nil, Param.reread, hiso]
  refine ⟨rfl, ?_, hread, ?_⟩
  · intro p hp
    obtain rfl := List.mem_singleton.mp hp
    rintro ⟨⟩
  · rw [hread]
    intro heq
    cases congrArg BoundQuery.params (Except.ok.inj heq)

end ScopedQuery
