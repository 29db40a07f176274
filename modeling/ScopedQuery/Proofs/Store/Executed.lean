import ScopedQuery.Proofs.Compiled.Limited
import ScopedQuery.Proofs.ResultSet.Rectangular
import ScopedQuery.Proofs.Store.Engines
import ScopedQuery.Proofs.Store.Shape
/-!
# Results of bound queries

* `SqlEngine.Conforms`: what is relied on of an engine. Its rows are as wide as the select list, and no more
  than the limit.
* `Store.conforms`: a store is such an engine.
* `Caller.execute_rectangular`: the result of a query that is ready has the columns of the query, a cell for
  each of them in each row, and no more rows than its limit. So it can be written out, before and after rows
  are dropped, and what is said of it names the columns of the query.
-/

namespace ScopedQuery

open Steps Sql Store

/-! ### Engines -/

namespace SqlEngine

variable {ε : Type}

/-- An answer has a column for each item of a select list, cells for them in each row, and no more rows than
the limit. -/
structure Fits (x : SelectText) (names : List String) (rows : List Row) : Prop where
  columns : names.length = x.items.length
  width : ∀ row ∈ rows, row.length = x.items.length
  limit : ∀ n : Nat, x.limit = toString n → rows.length ≤ n

/-- What an engine answers to a text that is read as one selection fits it. -/
def Conforms (e : SqlEngine ε) : Prop :=
  ∀ (text : String) (x : SelectText) (params : List Param) (names : List String) (rows : List Row),
    Sql.statements? text = some [.query x.query] → e text params = .ok (names, rows) → Fits x names rows

end SqlEngine

namespace Store

theorem conforms (s : Store) (now : Calendar.Moment) : (s.engine now).Conforms := by
  intro text x params names rows hsql h
  obtain ⟨a, n, cells, hquery, hrows, rfl⟩ := engine_eq_ok hsql h
  obtain ⟨hitems, hlimit⟩ := shape_of_ofQuery hquery
  refine ⟨?_, fun row hrow => ?_, fun bound hbound => ?_⟩
  · rw [List.length_map, hitems]
  · rw [Selection.width_run hrows row hrow, hitems]
  · rw [hbound, limitOf_toString, Except.ok.injEq] at hlimit
    exact Selection.length_run hrows hlimit.symm

end Store

/-! ### Results -/

section

variable {caller : Caller} {limits : Limits} {question : String} {p plan : Plan} {b : BoundQuery}
  (h : caller.compile .builtin limits .sqlite question p = .ok (.ready plan b))

include h

/-- A query that is ready is read as a selection with an item for each of its columns, of which there is
one at least, and with the limit that is granted. -/
theorem Caller.exists_selects : ∃ x : SelectText, Sql.statements? b.sql = some [.query x.query] ∧
    x.items.length = b.columns.length ∧ b.columns ≠ [] ∧
      x.limit = toString (limits.normalize p.limit).toNat := by
  obtain ⟨q, c, hcheck, hwritten, rfl, -⟩ := Caller.compile_written h
  obtain ⟨hscope, -⟩ := Caller.compile_eq_ready.mp h
  obtain ⟨-, -, hchecked⟩ := Plan.check_eq_query.mp hcheck
  obtain ⟨x, hselects, hsql⟩ := hwritten.statements? Dataset.tasks_read
  have hitems := hselects.length_items
  refine ⟨x, hsql, hitems, fun hnone => hselects.selected ?_, ?_⟩
  · rw [← List.length_eq_zero_iff, hitems]
    exact List.length_eq_zero_iff.mpr hnone
  · rw [hselects.limit, hchecked.limit, Caller.scope_limit hscope]
    rfl

/-- The result of an engine has the columns of the query, a cell for each of them in each row, and no more
rows than the limit that is granted. -/
theorem Caller.execute_shape {ε : Type} {e : SqlEngine ε} (hconforms : e.Conforms) {result : ResultSet}
    (hrun : e.execute b = .ok result) :
    result.columns = b.columns ∧ b.columns ≠ [] ∧ result.Rectangular ∧
      result.rowCount = result.rows.length ∧ result.rowCount ≤ (limits.normalize p.limit).toNat := by
  obtain ⟨x, hsql, hitems, hne, hlimit⟩ := Caller.exists_selects h
  simp only [SqlEngine.execute, Steps.bind_eq_ok, pure_eq_ok] at hrun
  obtain ⟨⟨names, rows⟩, hanswer, rfl⟩ := hrun
  have hfits := hconforms _ _ _ _ _ hsql hanswer
  have hcolumns : (if b.columns.length = names.length then b.columns else names) = b.columns := by
    rw [if_pos]
    rw [hfits.columns, hitems]
  refine ⟨hcolumns, hne, fun row hrow => ?_, rfl, ?_⟩
  · obtain ⟨cells, hcells, rfl⟩ := List.mem_map.mp hrow
    show (cells.map Cell.toJson).length =
      (if b.columns.length = names.length then b.columns else names).length
    rw [hcolumns, List.length_map, hfits.width cells hcells, hitems]
  · show (rows.map fun row => row.map Cell.toJson).length ≤ (limits.normalize p.limit).toNat
    rw [List.length_map]
    exact hfits.limit _ hlimit

/-- Each store is an engine that conforms, and the result of such an engine has the columns of the query, a
cell for each of them in each row, and no more rows than the query is limited to. It can be written out, with
rows dropped any number of times or with none, and what is said of it names each cell by the column of the
query. -/
theorem Caller.execute_rectangular :
    (∀ (s : Store) (now : Calendar.Moment),
      (s.engine now).Conforms ∧ s.execute now b = (s.engine now).execute b) ∧
    ∀ {ε : Type} (e : SqlEngine ε), e.Conforms → ∀ result, e.execute b = .ok result →
      result.columns = b.columns ∧ (∀ row ∈ result.rows, row.length = b.columns.length) ∧
        result.rowCount = result.rows.length ∧ (∃ n, b.EndsInLimit n ∧ result.rowCount ≤ n) ∧
        ∀ (counts : List Nat) (kept : ResultSet), counts.foldl ResultSet.truncate result = kept →
          kept.rows <+: result.rows ∧
            kept.csv? = .ok (String.join (Csv.record b.columns ::
              kept.rows.map fun row => Csv.record (row.map cellText))) ∧
            kept.answer = ResultSet.lineAbout b.columns kept.rows := by
  refine ⟨fun s now => ⟨s.conforms now, s.execute_eq now b⟩, fun e hconforms result hrun => ?_⟩
  obtain ⟨hcolumns, hne, hrectangular, hcount, hlimit⟩ := Caller.execute_shape h hconforms hrun
  refine ⟨hcolumns, fun row hrow => ?_, hcount, ⟨_, Caller.endsInLimit_of_compile h, hlimit⟩, ?_⟩
  · rw [← hcolumns]
    exact hrectangular row hrow
  · rintro counts kept rfl
    have hcut := result.cutOf_foldl_truncate counts
    have hkept := hrectangular.cut hcut
    have hnames := hcut.columns.trans hcolumns
    refine ⟨hcut.rows, ResultSet.csv?_eq_ok.mpr ⟨hkept, ?_⟩, ?_⟩
    · rw [ResultSet.csvText, hnames]
    · rw [ResultSet.answer_eq hkept (hnames ▸ hne), hnames]

end

/-- Two of three tasks are counted, under the name that the plan has for their number. -/
theorem Caller.execute_rectangular_for_root :
    let root : Caller := ⟨1, "root", .admin⟩
    let p : Plan := {
      dataset := some "TASK", measures := [{ agg := some "count", field := some "TASK_ID", label := some "n" }]
      limit := some 5 }
    let row (id deleted : Int64) : Row :=
      [.integer id, .null, .text "Report", .text "DONE", .integer 42, .null, .null, .null, .integer deleted]
    let s : Store := ⟨[.users, .batches, { Table.tasks with rows := [row 1 0, row 2 1, row 3 0] }]⟩
    let now : Calendar.Moment := .of ⟨⟨2024, 5, 1⟩, 12, 0, 0, 0⟩
    ∃ b result, root.compile .builtin .standard .sqlite "How many?" p = .ok (.ready p b) ∧
      s.execute now b = .ok result ∧ b.columns = ["n"] ∧ result.columns = ["n"] ∧ result.rowCount = 1 ∧
        (∃ n, b.EndsInLimit n ∧ 1 ≤ n) ∧
          (result.truncate 0).csv? = .ok (String.join [Csv.record ["n"]]) ∧
            (result.truncate 0).answer = "No matching data." := by
  intro root p row s now
  have hrun : ((p.bound? .builtin .standard .sqlite).bind fun b =>
      (s.execute now b).toOption.map fun result => (b.columns, result.rowCount)) = some (["n"], 1) := by
    decide +kernel
  obtain ⟨b, hb, hrun⟩ := Option.bind_eq_some_iff.mp hrun
  obtain ⟨result, hresult, hshape⟩ := Option.map_eq_some_iff.mp hrun
  obtain ⟨hnames, hone⟩ := Prod.mk.inj hshape
  have hexecute : s.execute now b = .ok result := by
    cases hstore : s.execute now b with
    | error fault =>
      rw [hstore] at hresult
      cases hresult
    | ok result' =>
      rw [hstore] at hresult
      exact congrArg Except.ok (Option.some.inj hresult)
  have hready := Caller.compile_builtin_eq_ready.mpr
    ⟨(rfl : root.scope .builtin "How many?" p = .ok ⟨true, p⟩), hb⟩
  obtain ⟨hstores, hresults⟩ := Caller.execute_rectangular hready
  obtain ⟨hconforms, heq⟩ := hstores s now
  obtain ⟨hcolumns, -, -, ⟨n, hends, hle⟩, hkept⟩ := hresults _ hconforms result (heq ▸ hexecute)
  obtain ⟨-, hcsv, hanswer⟩ := hkept [0] (result.truncate 0) rfl
  have hnone : (result.truncate 0).rows = [] := by
    rw [ResultSet.truncate_eq]
    rfl
  rw [hnames] at hcolumns hcsv
  rw [hone] at hle
  rw [hnone] at hcsv hanswer
  exact ⟨b, result, hready, hexecute, hnames, hcolumns, hone, ⟨n, hends, hle⟩, hcsv, hanswer⟩

end ScopedQuery
