import ScopedQuery.Proofs.Compiled.Pinned
import ScopedQuery.Proofs.Store.Visible
/-!
# Stores that agree for a caller

* `Store.visibleTasks`: the tasks of a store that a caller may learn of.
* `Store.AgreeFor`: two stores differ at most in other tasks.
* `Caller.execute_eq`: a query that is ready for a caller has the same result in both, for each engine that
  selects rows first.
-/

namespace ScopedQuery

open Steps Sql Store

namespace Store

/-! ### Visible tasks -/

/-- Whether a caller may learn of a task: one that is not deleted, and that the caller is assigned to unless
the caller is an administrator. -/
def Table.isVisible (t : Table) (caller : Caller) (row : Row) : Bool :=
  t.hasCell "deleted" (.integer 0) row &&
    (caller.isAdmin || t.hasCell "assignee_id" (.integer caller.id) row)

/-- The tasks that a caller may learn of, in their order. -/
def visibleTasks (s : Store) (caller : Caller) : Except StoreFault (List Row) :=
  (s.table? "project_task").map fun t => t.rows.filter (t.isVisible caller)

/-- Two stores have the same tables and columns, the same users and batches, and the same tasks that a caller
may learn of. -/
structure AgreeFor (caller : Caller) (s u : Store) : Prop where
  headers : ∀ name, (s.table? name).map (·.header) = (u.table? name).map (·.header)
  users : (s.table? "sys_user").map (·.rows) = (u.table? "sys_user").map (·.rows)
  batches : (s.table? "project_task_batch").map (·.rows) =
    (u.table? "project_task_batch").map (·.rows)
  tasks : s.visibleTasks caller = u.visibleTasks caller

theorem Table.isVisible_header (t : Table) (caller : Caller) : t.header.isVisible caller = t.isVisible caller :=
  rfl

namespace AgreeFor

variable {caller : Caller} {s u : Store} (h : AgreeFor caller s u)

include h

theorem both_headers (name : String) :
    Both (fun t t' => t.header = t'.header) (s.table? name) (u.table? name) :=
  .of_map_eq (h.headers name)

/-- The tables that tasks are joined to are the same. -/
theorem joined_eq {j : LeftJoin} (hj : j ∈ Dataset.taskJoins) : s.table? j.table = u.table? j.table := by
  have hrows : Both (fun t t' => t.rows = t'.rows) (s.table? j.table) (u.table? j.table) := by
    simp only [Dataset.taskJoins, List.mem_cons, List.not_mem_nil, or_false] at hj
    rcases hj with rfl | rfl
    · exact .of_map_eq h.users
    · exact .of_map_eq h.batches
  exact (((h.both_headers j.table).and hrows).imp fun t t' ht => Table.eq_of_header_eq ht.1 ht.2).eq

/-- The visible rows of both tables of tasks are the same. -/
theorem filter_visible {t t' : Table} (ht : s.table? "project_task" = .ok t)
    (ht' : u.table? "project_task" = .ok t') :
    t.rows.filter (t.isVisible caller) = t'.rows.filter (t.isVisible caller) := by
  have hheaders := h.headers "project_task"
  have htasks := h.tasks
  rw [ht, ht'] at hheaders
  have hheader : t.header = t'.header := Except.ok.inj hheaders
  rw [visibleTasks, visibleTasks, ht, ht'] at htasks
  have hrows : t.rows.filter (t.isVisible caller) = t'.rows.filter (t'.isVisible caller) :=
    Except.ok.inj htasks
  rw [hrows, ← t.isVisible_header, ← t'.isVisible_header, hheader]

end AgreeFor

end Store

/-! ### Bound queries -/

/-- A query of tasks asks for those of a caller only, or the caller is an administrator. -/
def Query.IsVisible (q : Query) (caller : Caller) (params : List Param) : Prop :=
  caller.isAdmin = true ∨ ∃ k, q.filters[k]? = some ⟨"ASSIGNEE_ID", .compare .eq caller.idText⟩ ∧
    params[((q.filters.take k).map (·.predicate.operands.length)).sum]? = some (.integer caller.id)

section

variable {ε : Type} {engine : Store → Calendar.Moment → SqlEngine ε} {truth : Truth}
  (hengine : SelectsFirst engine truth) {caller : Caller} {q : Query} {params : List Param} {x : SelectText}
  (hq : q.Selects .tasks .sqlite Dataset.taskText .hole x) (hscope : q.IsVisible caller params)
  {now : Calendar.Moment}

include hengine hq hscope

/-- The condition of such a query is true of visible tasks only. -/
theorem Query.Selects.isVisible {t : Table} {others : Sources} {row : Joined} {r : Row}
    (htrue : truth ((x.name, t) :: others) x.condition.tree 0 ⟨params.map Cell.ofParam, now⟩ (r :: row) =
      true) : t.isVisible caller r = true := by
  have hdeleted := hq.hasCell_deleted hengine htrue
  rw [Table.isVisible, hdeleted, Bool.true_and]
  rcases hscope with hadmin | ⟨k, hfilter, hparam⟩
  · rw [hadmin, Bool.true_or]
  · have hcell : (params.map Cell.ofParam)[((q.filters.take k).map
        (·.predicate.operands.length)).sum]? = some (.integer caller.id) := by
      rw [List.getElem?_map, hparam]
      rfl
    rw [hq.hasCell_assignee hengine htrue hfilter hcell, Bool.or_true]

/-- Such a query selects the same rows in stores that agree for the caller. -/
theorem Query.Selects.selected_eq {s u : Store} (hagree : AgreeFor caller s u) :
    x.selected truth ⟨params.map Cell.ofParam, now⟩ s =
      x.selected truth ⟨params.map Cell.ofParam, now⟩ u := by
  have hothers : (x.joins.mapM fun j => do return (j.name, ← s.table? j.table)) =
      x.joins.mapM fun j => do return (j.name, ← u.table? j.table) := by
    refine mapM_congr (List.forall₂_same.mpr fun j hj => ?_)
    rw [hq.joins] at hj
    split at hj
    · rw [hagree.joined_eq hj]
    · cases hj
  rw [SelectText.selected, SelectText.selected, SelectText.sources, SelectText.sources, hothers]
  obtain ⟨fault, ht, ht'⟩ | ⟨t, t', ht, ht', hheader⟩ := (hagree.both_headers x.table).cases
  · rw [ht, ht']
  · rw [ht, ht']
    cases x.joins.mapM fun j => do return (j.name, ← u.table? j.table) with
    | error fault => rfl
    | ok others =>
      rw [hq.table] at ht ht'
      refine congrArg Except.ok (SelectText.selectedFrom_eq hheader (fun r row htrue => ?_)
        (hagree.filter_visible ht ht'))
      -- the condition was asked of the sources without their rows
      rw [← t.isVisible_header]
      exact hq.isVisible hengine hscope htrue

end

/-- A query that is ready for a caller has the same result in stores that agree for the caller, whichever
engine runs it that selects rows first. -/
theorem Caller.execute_eq {ε : Type} {engine : Store → Calendar.Moment → SqlEngine ε} {truth : Truth}
    (hengine : SelectsFirst engine truth) {caller : Caller} {s u : Store} {limits : Limits}
    {question : String} {p plan : Plan} {b : BoundQuery} (hagree : AgreeFor caller s u)
    (h : caller.compile .builtin limits .sqlite question p = .ok (.ready plan b))
    (now : Calendar.Moment) : (engine s now).execute b = (engine u now).execute b := by
  obtain ⟨q, c, -, hwritten, hb, hpinned⟩ := Caller.compile_written h
  obtain ⟨x, hselects, hsql⟩ := hwritten.statements? Dataset.tasks_read
  have hscope : q.IsVisible caller b.params := by
    cases hrole : caller.role with
    | admin =>
      left
      rw [Caller.isAdmin, hrole]
      rfl
    | user =>
      right
      obtain ⟨-, field, k, hpin⟩ := hpinned (by rw [hrole]; decide)
      exact ⟨k, hpin.filter, hpin.param_tasks⟩
  have hanswer : engine s now b.sql b.params = engine u now b.sql b.params := by
    refine hengine.answer s u now b.sql x b.params ?_ (hselects.bindsInCondition Dataset.tasks_unnumbered)
      hagree.headers (hselects.selected_eq hengine hscope hagree)
    rw [hb]
    exact hsql
  rw [SqlEngine.execute, SqlEngine.execute, hanswer]

end ScopedQuery
