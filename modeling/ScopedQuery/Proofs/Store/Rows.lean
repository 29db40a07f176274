import ScopedQuery.Proofs.Store.Alongside
/-!
# Stores select rows first

* `Selection.Alike.run_eq`: alike selections that select the same rows have the same records.
* `Store.truth`: the conditions that a store finds true.
* `Store.selectsFirst`: what is relied on of engines that select rows first holds of stores.
-/

namespace ScopedQuery.Store

open Steps
open Sql (Expr ExprText SelectText LeftJoin)

/-! ### Alike selections -/

theorem JoinedTable.Alike.isLookup_eq {j k : JoinedTable} (h : j.Alike k) : j.isLookup = k.isLookup := by
  funext place
  simp only [JoinedTable.isLookup, JoinedTable.isLookup.isKey, h.test, Table.key_eq_of_header_eq h.header]

namespace Selection.Alike

variable {a b : Selection} (h : Selection.Alike a b)

include h

theorem isFound_eq : comesGrouped.isFound a = comesGrouped.isFound b := by
  funext place
  cases place with
  | zero => rfl
  | succ n =>
    simp only [comesGrouped.isFound]
    obtain ⟨ha, hb⟩ | ⟨j, k, ha, hb, hjk⟩ := partners_cases h.joins n
    · rw [ha, hb]
    · rw [ha, hb, Option.any_some, Option.any_some, hjk.isLookup_eq]

theorem groupsOf_eq : a.groupsOf = b.groupsOf := by
  have hkey : comesGrouped.isKey a = comesGrouped.isKey b := by
    funext t
    simp only [comesGrouped.isKey, Table.key_eq_of_header_eq h.base]
  have hcomes : a.comesGrouped = b.comesGrouped := by
    rw [comesGrouped, comesGrouped, hkey, h.isFound_eq, h.groupBy]
  have hdirections : a.groupDirections = b.groupDirections := by
    rw [groupDirections, groupDirections, h.orderBy, h.groupBy]
  funext occasion rows
  simp only [groupsOf, hcomes, hdirections, h.groupBy]

/-- Alike selections have the same records if they select the same rows. -/
theorem run_eq {occasion : Occasion} (hselected : a.selected occasion = b.selected occasion) :
    a.run occasion = b.run occasion := by
  have hgrouped : a.isGrouped = b.isGrouped := by
    simp only [isGrouped, h.items, h.groupBy, h.orderBy]
  have hgroups : a.groups occasion = b.groups occasion := by
    funext rows
    rw [groups, groups, hgrouped, h.groupBy, h.groupsOf_eq]
  have hrecord : a.record occasion = b.record occasion := by
    funext rows
    simp only [record, shownRow, extremes, h.items, h.orderBy]
  have hlimited : a.limited = b.limited := by
    funext rows
    simp only [limited, h.limit]
  simp only [run, records, hselected, hgroups, hrecord, hlimited, h.orderBy]

end Selection.Alike

/-! ### Conditions -/

/-- The conditions that a store finds true. What means nothing is not true. -/
def truth : Truth := fun sources e count occasion row =>
  match Test.ofExpr sources e count with
  | .ok (test, _) => test.holds occasion row
  | .error _ => false

theorem truth_eq_true {sources : Sources} {e : Expr} {n : Nat} {occasion : Occasion} {row : Joined} :
    truth sources e n occasion row = true ↔
      ∃ test m, Test.ofExpr sources e n = .ok (test, m) ∧ test.holds occasion row = true := by
  unfold truth
  split
  · next test m htest => simp [htest]
  · next fault hfault => simp [hfault]

theorem truth_of_ofExpr {sources : Sources} {e : Expr} {n m : Nat} {test : Test}
    (h : Test.ofExpr sources e n = .ok (test, m)) : truth sources e n = test.holds := by
  funext occasion row
  simp only [truth, h]

theorem Test.holds_and {a b : Test} {occasion : Occasion} {row : Joined}
    (h : (Test.and a b).holds occasion row = true) :
    a.holds occasion row = true ∧ b.holds occasion row = true := by
  simp only [Test.holds, Test.eval, beq_iff_eq] at h ⊢
  unfold Test.both at h
  split at h
  · cases h
  · cases h
  · exact ⟨by assumption, by assumption⟩
  · cases h

theorem truth_and {sources : Sources} {left right : Expr} {n k : Nat} {occasion : Occasion} {row : Joined}
    (hk : left.holes? = some k) (h : truth sources (.binary .and left right) n occasion row = true) :
    truth sources left n occasion row = true ∧ truth sources right (n + k) occasion row = true := by
  obtain ⟨test, m, htest, hholds⟩ := truth_eq_true.mp h
  simp only [Test.ofExpr, resolving_bind, bind_eq_ok] at htest
  obtain ⟨⟨a, l⟩, ha, ⟨b, l'⟩, hb, heq⟩ := htest
  cases heq
  obtain rfl : l = n + k := Test.takes hk _ _ _ ha
  obtain ⟨hleft, hright⟩ := Test.holds_and hholds
  exact ⟨truth_eq_true.mpr ⟨a, _, ha, hleft⟩, truth_eq_true.mpr ⟨b, _, hb, hright⟩⟩

/-! ### Equations -/

/-- The column of a table that is the first source under its name. -/
theorem columnNamed_first {name column : String} {t : Table} {others : Sources} {term : Term}
    (h : columnNamed ((name, t) :: others) [⟨name, none⟩, ⟨column, none⟩] = .ok term) :
    ∃ place, t.place? column = some place ∧ term = columnTerm 0 t place := by
  have hfirst : ((name, t) :: others).findIdx? (fun s => Text.sameFold s.1 name) = some 0 := by
    rw [List.findIdx?_cons, Text.sameFold_self, if_pos rfl]
  simp only [columnNamed, columnOf?, hfirst, Option.bind_eq_bind, Option.bind_some,
    List.getElem?_cons_zero, Option.map_some] at h
  cases hplace : t.place? column with
  | none =>
    rw [hplace] at h
    cases h
  | some place =>
    rw [hplace] at h
    cases h
    exact ⟨place, rfl, rfl⟩

/-- An equation of a column of the first table is resolved as one. -/
theorem ofExpr_equation {name column : String} {t : Table} {others : Sources} {e : Expr} {n m : Nat}
    {test : Test}
    (h : Test.ofExpr ((name, t) :: others) (.binary .eq (.column name column) e) n = .ok (test, m)) :
    ∃ place term, t.place? column = some place ∧
      test = .compare .eq (columnTerm 0 t place) term ∧
      Term.ofExpr ((name, t) :: others) e n = .ok (term, m) := by
  have hterms : Test.ofTerms ((name, t) :: others) (.binary .eq (.column name column) e) n =
      .ok (test, m) := h
  simp only [Test.ofTerms, compareOp?, resolving_bind, bind_eq_ok, Expr.column, Term.ofExpr] at hterms
  obtain ⟨⟨left, k⟩, hleft, ⟨right, l⟩, hright, heq⟩ := hterms
  cases hcolumn : columnNamed ((name, t) :: others) [⟨name, none⟩, ⟨column, none⟩] with
  | error fault =>
    rw [hcolumn] at hleft
    cases hleft
  | ok term =>
    rw [hcolumn] at hleft
    cases hleft
    cases heq
    obtain ⟨place, hplace, rfl⟩ := columnNamed_first hcolumn
    exact ⟨place, right, hplace, rfl, hright⟩

/-- A literal and a placeholder are resolved as what they stand for, which has no affinity. -/
theorem ofExpr_operand {sources : Sources} {e : Expr} {n m : Nat} {term : Term} {occasion : Occasion}
    {cell : Cell} (hcell : operandCell? occasion n e = some cell)
    (h : Term.ofExpr sources e n = .ok (term, m)) :
    term.affinity = .any ∧ ∀ row, term.eval occasion row = cell := by
  unfold operandCell? at hcell
  split at hcell
  · rw [Option.ite_none_right_eq_some] at hcell
    cases h
    refine ⟨rfl, fun row => ?_⟩
    rw [Term.eval, hcell.2, Option.getD_some]
  · next value hvalue =>
    cases hconstant : constantOf value with
    | error fault =>
      rw [hconstant] at hcell
      cases hcell
    | ok kept =>
      rw [hconstant] at hcell
      cases hcell
      rw [Term.ofExpr, hconstant] at h
      · cases h
        exact ⟨rfl, fun row => rfl⟩
      · exact hvalue
  · cases hcell

/-- An equation of a column of the first table only holds of rows that have the cell. -/
theorem truth_equation {name column : String} {t : Table} {others : Sources} {operand : Expr} {cell : Cell}
    {n : Nat} {occasion : Occasion} {r : Row} {row : Joined}
    (hcell : operandCell? occasion n operand = some cell)
    (h : truth ((name, t) :: others) (.binary .eq (.column name column) operand) n occasion (r :: row) =
      true) : t.hasCell column cell r = true := by
  obtain ⟨test, m, htest, hholds⟩ := truth_eq_true.mp h
  obtain ⟨place, term, hplace, rfl, hterm⟩ := ofExpr_equation htest
  obtain ⟨haffinity, heval⟩ := ofExpr_operand hcell hterm
  have hleft : (columnTerm 0 t place).eval occasion (r :: row) = Table.cellAt r place := rfl
  simp only [Test.holds, Test.eval, Test.compareTerms, hleft, haffinity, heval] at hholds
  simp only [Table.hasCell, hplace]
  exact hholds

/-! ### Rows -/

theorem takes_joinedTable {j : LeftJoin} (h : j.condition.tree.holes? = some 0) (sources : Sources)
    (index : Nat) : Takes (joinedTable sources (j.join, index)) 0 := by
  rw [LeftJoin.join, joinedTable]
  split
  · exact (Test.takes h).map _
  · exact .refuse _

/-- A joined table extends rows by what its condition is found true for. -/
theorem extend_of_joinedTable {sources : Sources} {j : LeftJoin} {index m : Nat} {joined : JoinedTable}
    (h : joinedTable sources (j.join, index) 0 = .ok (joined, m)) (occasion : Occasion) :
    joined.extend occasion = extendBy (SelectText.tableAt sources (index + 1)) true
      (truth (sources.headers.take (index + 2)) j.condition.tree 0 occasion) := by
  have hheaders := Test.ofExpr_alike (sources.alike_headers.take (index + 2))
  simp only [LeftJoin.join, joinedTable, isOuter?, Test.ofOption, hheaders] at h
  cases hsource : sources[index + 1]? with
  | none =>
    rw [hsource] at h
    cases h
  | some source =>
    simp only [hsource, resolving_bind, bind_eq_ok] at h
    obtain ⟨⟨test, l⟩, htest, heq⟩ := h
    cases heq
    rw [JoinedTable.extend, SelectText.tableAt, hsource, truth_of_ofExpr htest]
    rfl

/-- The rows that a selection selects are those for which its condition is found true. -/
theorem selected_of_resolve {x : SelectText} (hx : x.BindsInCondition) {sources : Sources} {a : Selection}
    {n : Nat} (h : SelectText.resolve x sources 0 = .ok (a, n)) (occasion : Occasion) :
    a.selected occasion = x.selectedFrom truth occasion sources := by
  simp only [SelectText.resolve, Selection.ofParts, resolving_bind, bind_eq_ok] at h
  obtain ⟨⟨outputs, k⟩, houtputs, ⟨joined, l⟩, hjoined, ⟨test, m⟩, htest, ⟨groups, _⟩, -,
    ⟨keys, _⟩, -, h⟩ := h
  have hk : k = 0 + 0 := by
    refine Takes.mapM_zero (fun item hitem => ?_) _ _ _ houtputs
    obtain ⟨y, hy, rfl⟩ := List.mem_map.mp hitem
    exact NamedOutput.takes (hx.items y.1 (List.fst_mem_of_mem_zipIdx hy)) _
  have hjoins : ∀ j ∈ (x.joins.map LeftJoin.join).zipIdx, Takes (joinedTable sources j) 0 := by
    rw [List.zipIdx_map]
    intro j hj
    obtain ⟨y, hy, rfl⟩ := List.mem_map.mp hj
    exact takes_joinedTable (hx.joins y.1 (List.fst_mem_of_mem_zipIdx hy)) sources y.2
  have hl : l = k + 0 := Takes.mapM_zero hjoins _ _ _ hjoined
  have heach := Takes.mapM_zero_eq_ok hjoins hjoined
  rw [List.zipIdx_map, List.forall₂_map_left_iff, hk] at heach
  rw [hl, hk] at htest
  have hsteps : joined.map (fun j => j.extend occasion) = x.joins.zipIdx.map fun j : LeftJoin × Nat =>
      extendBy (SelectText.tableAt sources (j.2 + 1)) true
        (truth (sources.headers.take (j.2 + 2)) j.1.condition.tree 0 occasion) := by
    rw [eq_comm, ← List.forall₂_eq_eq_eq, List.forall₂_map_left_iff, List.forall₂_map_right_iff]
    exact heach.imp fun j joined hj => (extend_of_joinedTable hj occasion).symm
  rw [Test.ofOption, Test.ofExpr_alike sources.alike_headers] at htest
  cases hlimit : limitOf (some (.literal (.number x.limit false))) with
  | error fault =>
    rw [hlimit] at h
    cases h
  | ok bound =>
    rw [hlimit] at h
    cases h
    simp only [Selection.selected, Selection.joined, SelectText.selectedFrom, hsteps,
      truth_of_ofExpr htest]
    rw [SelectText.tableAt, List.head?_eq_getElem?]

/-! ### Engines -/

theorem bindParams_eq_ok {params : List Param} {needed : Nat} {cells : List Cell}
    (h : bindParams params needed = .ok cells) : cells = params.map Cell.ofParam := by
  unfold bindParams at h
  split at h
  · exact (Except.ok.inj h).symm
  · cases h

/-- What a query means selects what it selects. -/
theorem selected_of_ofQuery {s : Store} {x : SelectText} (hx : x.BindsInCondition) {a : Selection} {n : Nat}
    (h : Selection.ofQuery s x.query = .ok (a, n)) (occasion : Occasion) :
    x.selected truth occasion s = .ok (a.selected occasion) := by
  rw [Selection.ofQuery_eq, bind_eq_ok] at h
  obtain ⟨sources, hsources, hresolve⟩ := h
  rw [SelectText.selected, hsources, selected_of_resolve hx hresolve]
  rfl

/-- The answer to a text that is one query. -/
theorem engine_eq {s : Store} {now : Calendar.Moment} {text : String} {only : Sql.Query}
    {params : List Param} (h : Sql.statements? text = some [.query only]) :
    s.engine now text params = (do
      let r ← Selection.ofQuery s only
      let cells ← bindParams params r.2
      let rows ← r.1.run ⟨cells, now⟩
      return (r.1.items.map (·.name), rows)) := by
  simp only [engine, prepare, h, bind_assoc, pure_bind]

/-- Stores join and test rows first. -/
theorem selectsFirst : SelectsFirst engine truth where
  answer := by
    intro s u now text x params hsql hx hheaders hselected
    have hboth := (Selection.ofQuery_both hheaders x).attach
    rw [engine_eq hsql, engine_eq hsql]
    refine (hboth.bind fun p q hpq => ?_).eq
    obtain ⟨⟨halike, hneeded⟩, hp, hq⟩ := hpq
    rw [hneeded]
    refine Both.bind_same fun cells hcells => ?_
    obtain rfl := bindParams_eq_ok hcells
    rw [selected_of_ofQuery hx hp, selected_of_ofQuery hx hq] at hselected
    rw [halike.run_eq (Except.ok.inj hselected), halike.items]
    exact Both.bind_same fun rows _ => rfl
  and := fun _ _ _ _ _ _ _ hk h => truth_and hk h
  equation := fun _ _ _ _ _ _ _ _ _ _ hcell h => truth_equation hcell h

end ScopedQuery.Store
