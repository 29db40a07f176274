import ScopedQuery.Schema.Dataset
/-!
# The dataset of project tasks

`Dataset.tasks` describes tasks with their assignees and batches, and `Registry.builtin` knows this
dataset alone.
-/

namespace ScopedQuery

namespace Field

/-- A field of the base table. -/
def plain (name expression : String) (type : ValueType) : Field :=
  ⟨name, expression, none, type, false, false⟩

/-- A field of a joined table. -/
def joined (name expression : String) (type : ValueType) : Field :=
  { plain name expression type with needsJoin := true }

end Field

def Dataset.tasks : Dataset where
  code := "TASK"
  table := "project_task"
  shortName := "t"
  softDelete := "t.deleted = 0"
  fields := [
    .plain "TASK_ID" "t.id" .integer,
    .plain "BATCH_ID" "t.batch_id" .integer,
    .joined "BATCH_TITLE" "b.title" .text,
    .plain "TITLE" "t.title" .text,
    .plain "STATUS" "t.status" .text,
    .plain "ASSIGNEE_ID" "t.assignee_id" .integer,
    .joined "ASSIGNEE_NAME" "u.username" .text,
    .plain "CREATED_BY" "t.created_by" .integer,
    .plain "PUBLISHED_TIME" "t.published_time" .timestamp,
    { Field.plain "WORKLOAD_MAN_DAY" "t.workload_man_day" .decimal with numeric := true },
    { Field.plain "PUBLISHED_AGE_DAYS" "TIMESTAMPDIFF(DAY, t.published_time, NOW())" .integer with
      sqliteExpression :=
        some "CAST(julianday('now', 'localtime') - julianday(t.published_time) AS INTEGER)"
      numeric := true }]
  joins := [
    ⟨"sys_user", "LEFT JOIN sys_user u ON u.id = t.assignee_id AND u.deleted = 0"⟩,
    ⟨"project_task_batch", "LEFT JOIN project_task_batch b ON b.id = t.batch_id AND b.deleted = 0"⟩]
  scopedField := "ASSIGNEE_ID"
  crossPersonFields := ["ASSIGNEE_ID", "ASSIGNEE_NAME"]
  filterOps := FilterOp.all

def Registry.builtin : Registry := ⟨Dataset.tasks⟩

end ScopedQuery
