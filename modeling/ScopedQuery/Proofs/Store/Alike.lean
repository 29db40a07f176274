import ScopedQuery.Proofs.Steps
import ScopedQuery.Store.Resolution
/-!
# Resolution looks at columns only

What an expression means in a store depends on the names and the columns of the sources, never on their
rows.

* `Table.header` and `Sources.headers`: tables and sources without their rows.
* `Sources.Alike`: sources with the same names and columns.
* `Term.ofExpr_alike`, `Test.ofExpr_alike` and their kin: an expression means the same in alike sources.
-/

namespace ScopedQuery.Store

open Sql (Expr Item OrderKey)

/-! ### Columns -/

section

variable {t u : Table} (h : t.columns = u.columns)

include h

theorem Table.place?_congr (column : String) : t.place? column = u.place? column := by
  rw [Table.place?, Table.place?, h]

theorem columnTerm_congr (source : Nat) : columnTerm source t = columnTerm source u := by
  funext place
  rw [columnTerm, columnTerm, h]

end

/-- A table without its rows. -/
def Table.header (t : Table) : Table := { t with rows := [] }

theorem Table.columns_eq_of_header_eq {t u : Table} (h : t.header = u.header) : t.columns = u.columns := by
  have hcolumns := congrArg Table.columns h
  exact hcolumns

theorem Table.key_eq_of_header_eq {t u : Table} (h : t.header = u.header) : t.key = u.key := by
  have hkey := congrArg Table.key h
  exact hkey

/-- Tables with the same header and the same rows are the same. -/
theorem Table.eq_of_header_eq {t u : Table} (hheader : t.header = u.header) (hrows : t.rows = u.rows) :
    t = u := by
  cases t
  cases u
  simp_all [Table.header]

/-- Sources without their rows. -/
def Sources.headers (ss : Sources) : Sources := ss.map fun s => (s.1, s.2.header)

/-- Sources with the same names and columns. -/
def Sources.Alike (ss ts : Sources) : Prop :=
  List.Forall₂ (fun s t => s.1 = t.1 ∧ s.2.columns = t.2.columns) ss ts

namespace Sources.Alike

variable {ss ts : Sources} (h : Sources.Alike ss ts)

include h

theorem take (n : Nat) : Sources.Alike (ss.take n) (ts.take n) := List.forall₂_take n h

theorem findIdx?_eq (name : String) :
    ss.findIdx? (fun s => Text.sameFold s.1 name) = ts.findIdx? fun t => Text.sameFold t.1 name := by
  induction h with
  | nil => rfl
  | cons hfirst _ ih => rw [List.findIdx?_cons, List.findIdx?_cons, hfirst.1, ih]

theorem columnsNamed_eq (column : String) : columnsNamed column ss = columnsNamed column ts := by
  have hall : ∀ n, (ss.zipIdx n).filterMap (fun s =>
        (s.1.2.place? column).map (columnTerm s.2 s.1.2)) =
      (ts.zipIdx n).filterMap fun t => (t.1.2.place? column).map (columnTerm t.2 t.1.2) := by
    induction h with
    | nil => exact fun n => rfl
    | cons hfirst _ ih =>
      intro n
      rw [List.zipIdx_cons, List.zipIdx_cons, List.filterMap_cons, List.filterMap_cons, ih (n + 1),
        Table.place?_congr hfirst.2, columnTerm_congr hfirst.2]
  exact hall 0

theorem columnOf?_eq (source column : String) :
    columnOf? ss source column = columnOf? ts source column := by
  simp only [columnOf?, h.findIdx?_eq source]
  cases ts.findIdx? fun t => Text.sameFold t.1 source with
  | none => rfl
  | some k =>
    obtain ⟨hs, ht⟩ | ⟨s, t, hs, ht, -, hcolumns⟩ := Steps.partners_cases h k
    · simp [hs, ht]
    · simp [hs, ht, Table.place?_congr hcolumns, columnTerm_congr hcolumns]

theorem columnNamed_eq : columnNamed ss = columnNamed ts := by
  funext name
  unfold columnNamed
  simp only [h.columnsNamed_eq, h.columnOf?_eq]

theorem starItems_eq : starItems ss = starItems ts := by
  have hcolumns : ∀ (k : Nat) (t u : Table), t.columns = u.columns →
      starItems.columns k t = starItems.columns k u := by
    intro k t u htu
    rw [starItems.columns, starItems.columns, columnTerm_congr htu, htu]
  have hall : ∀ n, (ss.zipIdx n).map (fun s => starItems.columns s.2 s.1.2) =
      (ts.zipIdx n).map fun t => starItems.columns t.2 t.1.2 := by
    induction h with
    | nil => exact fun n => rfl
    | cons hfirst _ ih =>
      intro n
      rw [List.zipIdx_cons, List.zipIdx_cons, List.map_cons, List.map_cons, ih (n + 1),
        hcolumns n _ _ hfirst.2]
  funext name
  unfold starItems
  split
  · rw [hall 0]
  · next source =>
    rw [h.findIdx?_eq]
    cases ts.findIdx? fun t => Text.sameFold t.1 source.text with
    | none => rfl
    | some k =>
      obtain ⟨hs, ht⟩ | ⟨s, t, hs, ht, -, hst⟩ := Steps.partners_cases h k
      · simp [hs, ht]
      · simp [hs, ht, hcolumns k _ _ hst]
  · rfl

end Sources.Alike

theorem Sources.alike_headers (ss : Sources) : Sources.Alike ss ss.headers := by
  rw [Sources.headers, Sources.Alike, List.forall₂_map_right_iff]
  exact List.forall₂_same.mpr fun _ _ => ⟨rfl, rfl⟩

/-! ### Expressions -/

section

variable {ss ts : Sources}

theorem Term.ofExpr_congr (h : columnNamed ss = columnNamed ts) :
    (∀ e, Term.ofExpr ss e = Term.ofExpr ts e) ∧
      (∀ items, Term.ofArgs ss items = Term.ofArgs ts items) ∧
        ∀ item, Term.ofItem ss item = Term.ofItem ts item := by
  apply Term.ofExpr.mutual_induct ss
  case case1 => intro parts term hterm; simp [Term.ofExpr, ← h, hterm]
  case case2 => intro parts fault hfault; simp [Term.ofExpr, ← h, hfault]
  case case3 => intro name; simp [Term.ofExpr]
  case case4 => intro value hvalue cell hcell; simp [Term.ofExpr, hcell]
  case case5 => intro value hvalue fault hfault; simp [Term.ofExpr, hfault]
  case case6 => intro inner ih; simp [Term.ofExpr, ih]
  case case7 => intro left right hl hr; simp [Term.ofExpr, hl, hr]
  case case8 => intro value ih; simp [Term.ofExpr, ih]
  case case9 => intro name args hname hnow; simp [Term.ofExpr, hname, hnow]
  case case10 => intro name args hname hnow ih; simp [Term.ofExpr, hname, hnow, ih]
  case case11 => intro name args hname; simp [Term.ofExpr, hname]
  case case12 => intro e _ _ _ _ _ _ _; simp [Term.ofExpr, *]
  case case13 => intro label value ih; simp [Term.ofItem, ih]
  case case14 => intro label qualifier; simp [Term.ofItem]
  case case15 => simp [Term.ofArgs]
  case case16 => intro item items hitem hitems; simp [Term.ofArgs, hitem, hitems]

variable (h : Sources.Alike ss ts)

include h

theorem Term.ofExpr_alike : Term.ofExpr ss = Term.ofExpr ts :=
  funext (Term.ofExpr_congr h.columnNamed_eq).1

theorem Test.ofTerms_alike : Test.ofTerms ss = Test.ofTerms ts := by
  funext e
  unfold Test.ofTerms
  rw [Term.ofExpr_alike h]

theorem Test.ofExpr_alike : Test.ofExpr ss = Test.ofExpr ts := by
  funext e
  induction e using Test.ofExpr.induct with
  | case1 inner ih => simp [Test.ofExpr, ih]
  | case2 operand ih => simp [Test.ofExpr, ih]
  | case3 left right hl hr => simp [Test.ofExpr, hl, hr]
  | case4 left right hl hr => simp [Test.ofExpr, hl, hr]
  | case5 e _ _ _ _ => simp [Test.ofExpr, Test.ofTerms_alike h, *]

theorem Test.ofOption_alike : Test.ofOption ss = Test.ofOption ts := by
  funext e
  cases e with
  | none => rfl
  | some e => rw [Test.ofOption, Test.ofOption, Test.ofExpr_alike h]

theorem Output.ofExpr_alike : Output.ofExpr ss = Output.ofExpr ts := by
  funext e
  unfold Output.ofExpr
  rw [Term.ofExpr_alike h]

theorem NamedOutput.ofItem_alike : NamedOutput.ofItem ss = NamedOutput.ofItem ts := by
  funext item
  unfold NamedOutput.ofItem
  rw [Output.ofExpr_alike h, h.starItems_eq]

theorem SortKey.ofKey_alike : SortKey.ofKey ss = SortKey.ofKey ts := by
  funext items key
  unfold SortKey.ofKey
  rw [Output.ofExpr_alike h]

end

end ScopedQuery.Store
