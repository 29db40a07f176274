import ScopedQuery.Proofs.Bound.Parts
import ScopedQuery.Schema.Tasks
/-!
# The dataset of project tasks as tokens

How the texts of `Dataset.tasks` are read: each field is a column or the age of a task, each join joins a
table under a short name, and the condition on rows compares a column with zero. The dialects differ in
the age alone, which is a cast difference in SQLite's dialect and a call in MySQL's.
-/

namespace ScopedQuery

open Sql

namespace Sql.ExprText

open Parsing

/-- A column of a source. -/
def column (source column : String) : ExprText :=
  ⟨[.name source, .symbol ".", .name column], .column source column⟩

/-- Zero. -/
def zero : ExprText := ⟨[.number "0" false], .literal (.number "0" false)⟩

/-- The moment of the query, as arguments of a call. -/
def momentArgs : List ExprText :=
  [⟨[.quotation .single "now"], .literal (.text .single "now")⟩,
    ⟨[.quotation .single "localtime"], .literal (.text .single "localtime")⟩]

/-- A Julian day. -/
def julianDay (args : List ExprText) : ExprText :=
  ⟨callTokens (.name "julianday") false (args.map (·.tokens)),
    .call [⟨"julianday", none⟩] false (args.map fun x => .expr none x.tree) "" none []⟩

/-- The days since a task was published. -/
def age : ExprText :=
  let published := julianDay [column "t" "published_time"]
  ⟨castTokens ((julianDay momentArgs).tokens ++ .symbol "-" :: published.tokens),
    .cast .cast (.binary .minus (julianDay momentArgs).tree published.tree) (.standard "INTEGER")⟩

theorem operand_column (source name : String) (depth : Nat) :
    Operand depth (column source name).tokens (column source name).tree :=
  (Sql.operand_column source name).mono (Nat.zero_le depth)

theorem operand_zero (depth : Nat) : Operand depth zero.tokens zero.tree :=
  (operand_number "0" false).mono (Nat.zero_le depth)

/-- The text of a column is read as the column. -/
theorem read_column {source name text : String} (depth : Nat)
    (htext : text = Lexeme.spelled [.word source, .mark ".", .word name])
    (hfit : ∀ next ∈ [none, some ' ', some ',', some ')'],
      Lexeme.fit next [.word source, .mark ".", .word name] = true)
    (hknown : Lexeme.known? [.word source, .mark ".", .word name] =
      some [.name source, .symbol ".", .name name]) : (column source name).Read depth text :=
  ⟨Writes.phrase _ htext hfit hknown, operand_column source name depth, rfl⟩

/-! ### The age of a task -/

theorem operand_published :
    Operand 1 (julianDay [column "t" "published_time"]).tokens
      (julianDay [column "t" "published_time"]).tree :=
  operand_call_of_untyped (.cons (operand_column _ _ 0) .nil) (by simp) rfl false rfl

/-- A call with quotations may be taken for a type, which then ends with the call. -/
theorem customType_moment (rest : List Token) : ∃ name,
    customType ((julianDay momentArgs).tokens ++ rest) = .ok (name, rest) := by
  have htokens : (julianDay momentArgs).tokens ++ rest =
      .name "julianday" :: .symbol "(" :: .quotation .single "now" :: .symbol "," ::
        .quotation .single "localtime" :: .symbol ")" :: rest := rfl
  have hname : ∀ ts, objectName (.name "julianday" :: .symbol "(" :: ts) =
      .ok ([⟨"julianday", none⟩], .symbol "(" :: ts) := by
    intro ts
    simp [objectName, separated, separatedUpTo, ident, Token.name]
  have hlist : ∀ fuel, repeatedUpTo typeModifier? (fuel + 4)
      (.quotation .single "now" :: .symbol "," :: .quotation .single "localtime" :: .symbol ")" ::
        rest) = .ok ([some "now", none, some "localtime"], rest) := by
    intro fuel
    simp [repeatedUpTo, typeModifier?]
  rw [htokens]
  simp [customType, hname, repeated, hlist]

theorem operand_moment : Operand 1 (julianDay momentArgs).tokens (julianDay momentArgs).tree := by
  have hargs : List.Forall₂ (Operand 0) (momentArgs.map (·.tokens)) (momentArgs.map (·.tree)) :=
    .cons (operand_quotation "now") (.cons (operand_quotation "localtime") .nil)
  apply operand_call hargs (by simp [momentArgs]) rfl false
  intro rest hrest
  obtain ⟨name, htype⟩ := customType_moment rest
  exact .inr ⟨name, rest, htype, hrest.symbol? "[" (by decide)⟩

theorem operand_age : Operand 2 age.tokens age.tree :=
  operand_cast (by omega) (operation_minus operand_moment operand_published) rfl

theorem read_age : age.Read 2
    "CAST(julianday('now', 'localtime') - julianday(t.published_time) AS INTEGER)" := by
  refine ⟨?_, operand_age, ?_⟩
  · exact Writes.phrase
      [.word "CAST", .mark "(", .word "julianday", .mark "(", .quotation "now", .mark ",", .space,
       .quotation "localtime", .mark ")", .space, .mark "-", .space, .word "julianday", .mark "(",
       .word "t", .mark ".", .word "published_time", .mark ")", .space, .word "AS", .space,
       .word "INTEGER", .mark ")"] (by decide) (by decide) rfl
  · rfl

/-- The days since a task was published, as MySQL counts them. -/
def ageInDays : ExprText :=
  let args := [⟨[.reserved "DAY"], .name [⟨"DAY", none⟩]⟩, column "t" "published_time",
    ⟨callTokens (.name "NOW") false [], .call [⟨"NOW", none⟩] false [] "" none []⟩]
  ⟨callTokens (.name "TIMESTAMPDIFF") false (args.map ExprText.tokens),
    .call [⟨"TIMESTAMPDIFF", none⟩] false (args.map fun x => .expr none (ExprText.tree x)) "" none []⟩

theorem read_ageInDays : ageInDays.Read 2 "TIMESTAMPDIFF(DAY, t.published_time, NOW())" := by
  refine ⟨?_, ?_, ?_⟩
  · exact Writes.phrase
      [.word "TIMESTAMPDIFF", .mark "(", .word "DAY", .mark ",", .space, .word "t", .mark ".",
       .word "published_time", .mark ",", .space, .word "NOW", .mark "(", .mark ")", .mark ")"]
      (by decide) (by decide) rfl
  · have hnow : Operand 0 (callTokens (.name "NOW") false [])
        (.call [⟨"NOW", none⟩] false [] "" none []) := operand_call_nil rfl
    have hcall : Operand 1 ageInDays.tokens ageInDays.tree :=
      operand_call_of_untyped
        (.cons operand_day (.cons (operand_column "t" "published_time" 0) (.cons hnow .nil)))
        (by simp) rfl false rfl
    exact hcall.mono (by omega)
  · rfl

/-! ### Equations -/

def equation (x y : ExprText) : ExprText :=
  ⟨x.tokens ++ .symbol "=" :: y.tokens, .binary .eq x.tree y.tree⟩

theorem operation_equation {depth : Nat} {x y : ExprText} (hx : Operand depth x.tokens x.tree)
    (hy : Operand depth y.tokens y.tree) :
    Operation 20 depth (equation x y).tokens (equation x y).tree :=
  operation_compare .eq hx hy

end Sql.ExprText

/-! ### Datasets -/

/-- A dataset as it is read. -/
structure DatasetText where
  fields : List ExprText
  table : String
  name : String
  joins : List LeftJoin
  /-- The condition that holds of rows that are not deleted. -/
  condition : ExprText

/-- The texts of a dataset are read as they are meant. -/
structure Dataset.Read (d : Dataset) (dialect : Dialect) (r : DatasetText) : Prop where
  fields : List.Forall₂ (fun f x => x.Read 2 (Field.expressionIn f dialect)) d.fields r.fields
  source : Writes d.source [.name r.table, .name r.name]
  joins : List.Forall₂ (fun j k => Writes (JoinClause.sql j) (LeftJoin.tokens k)) d.joins r.joins
  softDelete : Writes d.softDelete r.condition.tokens
  sound : ∀ j ∈ r.joins, j.condition.Sound 3
  condition : Operation 20 3 r.condition.tokens r.condition.tree

namespace Dataset

open Sql.ExprText

/-- What the fields of `Dataset.tasks` are read as in SQLite's dialect. -/
def taskTexts : List ExprText :=
  [column "t" "id", column "t" "batch_id", column "b" "title", column "t" "title", column "t" "status",
   column "t" "assignee_id", column "u" "username", column "t" "created_by",
   column "t" "published_time", column "t" "workload_man_day", age]

/-- The age of a task, which is the last field and the only one that depends on the dialect. -/
def ageField : Field := Dataset.tasks.fields.getLast (List.cons_ne_nil _ _)

/-- What the fields of `Dataset.tasks` are read as in a dialect. -/
def taskTextsIn : Dialect → List ExprText
  | .sqlite => taskTexts
  | .mysql => taskTexts.dropLast ++ [ageInDays]

/-- A field with one expression for all dialects is read as the column that this is the text of. -/
theorem read_plain {f : Field} (dialect : Dialect) (hplain : f.sqliteExpression = none)
    {source name : String}
    (htext : f.expression = Lexeme.spelled [.word source, .mark ".", .word name])
    (hfit : ∀ next ∈ [none, some ' ', some ',', some ')'],
      Lexeme.fit next [.word source, .mark ".", .word name] = true)
    (hknown : Lexeme.known? [.word source, .mark ".", .word name] =
      some [.name source, .symbol ".", .name name]) :
    (column source name).Read 2 (f.expressionIn dialect) := by
  have hsame : f.expressionIn dialect = f.expression := by
    cases dialect with
    | mysql => rfl
    | sqlite => rw [Field.expressionIn, hplain, Option.getD_none]
  rw [hsame]
  exact read_column 2 htext hfit hknown

theorem tasks_fields (dialect : Dialect) :
    List.Forall₂ (fun f x => x.Read 2 (Field.expressionIn f dialect)) Dataset.tasks.fields
      (taskTextsIn dialect) := by
  have hage : ∀ {x : ExprText}, x.Read 2 (Field.expressionIn ageField dialect) →
      List.Forall₂ (fun f x => x.Read 2 (Field.expressionIn f dialect)) Dataset.tasks.fields
        (taskTexts.dropLast ++ [x]) := by
    intro x hx
    refine .cons ?_ <| .cons ?_ <| .cons ?_ <| .cons ?_ <| .cons ?_ <| .cons ?_ <| .cons ?_ <|
      .cons ?_ <| .cons ?_ <| .cons ?_ <| .cons hx .nil
    · exact read_plain dialect rfl (by decide) (by decide) rfl
    · exact read_plain dialect rfl (by decide) (by decide) rfl
    · exact read_plain dialect rfl (by decide) (by decide) rfl
    · exact read_plain dialect rfl (by decide) (by decide) rfl
    · exact read_plain dialect rfl (by decide) (by decide) rfl
    · exact read_plain dialect rfl (by decide) (by decide) rfl
    · exact read_plain dialect rfl (by decide) (by decide) rfl
    · exact read_plain dialect rfl (by decide) (by decide) rfl
    · exact read_plain dialect rfl (by decide) (by decide) rfl
    · exact read_plain dialect rfl (by decide) (by decide) rfl
  cases dialect with
  | mysql => exact hage read_ageInDays
  | sqlite => exact hage read_age

/-- A join of rows that are not deleted. -/
def taskJoin (table name reference : String) : LeftJoin where
  table
  name
  condition := {
    first := equation (column name "id") (column "t" reference)
    further := [equation (column name "deleted") zero] }

/-- What the joins of `Dataset.tasks` are read as. -/
def taskJoins : List LeftJoin :=
  [taskJoin "sys_user" "u" "assignee_id", taskJoin "project_task_batch" "b" "batch_id"]

theorem tasks_joins : List.Forall₂ (fun j k => Writes (JoinClause.sql j) (LeftJoin.tokens k))
    Dataset.tasks.joins taskJoins := by
  refine .cons ?_ <| .cons ?_ .nil
  · exact Writes.phrase
      [.word "LEFT", .space, .word "JOIN", .space, .word "sys_user", .space, .word "u", .space,
       .word "ON", .space, .word "u", .mark ".", .word "id", .space, .mark "=", .space, .word "t",
       .mark ".", .word "assignee_id", .space, .word "AND", .space, .word "u", .mark ".",
       .word "deleted", .space, .mark "=", .space, .number "0"] (by decide) (by decide) rfl
  · exact Writes.phrase
      [.word "LEFT", .space, .word "JOIN", .space, .word "project_task_batch", .space, .word "b",
       .space, .word "ON", .space, .word "b", .mark ".", .word "id", .space, .mark "=", .space,
       .word "t", .mark ".", .word "batch_id", .space, .word "AND", .space, .word "b", .mark ".",
       .word "deleted", .space, .mark "=", .space, .number "0"] (by decide) (by decide) rfl

theorem sound_taskJoin (table name reference : String) (depth : Nat) :
    (taskJoin table name reference).condition.Sound depth := by
  refine ⟨operation_equation (operand_column _ _ _) (operand_column _ _ _), ?_⟩
  intro x hx
  rw [List.mem_singleton.mp hx]
  exact operation_equation (operand_column _ _ _) (operand_zero _)

/-- What `Dataset.tasks` is read as in SQLite's dialect. -/
def taskText : DatasetText where
  fields := taskTexts
  table := "project_task"
  name := "t"
  joins := taskJoins
  condition := equation (column "t" "deleted") zero

/-- What `Dataset.tasks` is read as in a dialect. -/
def taskTextIn (dialect : Dialect) : DatasetText := { taskText with fields := taskTextsIn dialect }

theorem tasks_readIn (dialect : Dialect) : Dataset.tasks.Read dialect (taskTextIn dialect) where
  fields := tasks_fields dialect
  source := Writes.phrase [.word "project_task", .space, .word "t"] (by decide) (by decide) rfl
  joins := tasks_joins
  softDelete :=
    Writes.phrase [.word "t", .mark ".", .word "deleted", .space, .mark "=", .space, .number "0"]
      (by decide) (by decide) rfl
  sound := by
    intro j hj
    simp only [taskTextIn, taskText, taskJoins, List.mem_cons, List.not_mem_nil, or_false] at hj
    rcases hj with rfl | rfl
    · exact sound_taskJoin _ _ _ _
    · exact sound_taskJoin _ _ _ _
  condition := operation_equation (operand_column _ _ _) (operand_zero _)

theorem tasks_read : Dataset.tasks.Read .sqlite taskText := tasks_readIn .sqlite

end Dataset

end ScopedQuery
