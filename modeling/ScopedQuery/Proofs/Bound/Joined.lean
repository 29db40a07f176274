import ScopedQuery.Proofs.Bound.Everywhere
import ScopedQuery.Proofs.Query.Denoted
/-!
# Joins of a bound query

When the tables of a dataset are joined, and that no column is left without its table.

* `Plan.NeedsJoins` says of a plan that a part of it has a field that needs the joins.
* `Sql.Node.qualifiers` lists the names that a column is qualified by, and `Sql.Query.sourceNames` those
  that are introduced behind FROM.
* `Dataset.Scoped` asks of a dataset that a field which does not need the joins is qualified by the base
  table alone; `Query.Selects.qualified` says that its queries are qualified by the tables that they
  introduce then.
* `Plan.bind_joins` puts both together.
-/

namespace ScopedQuery

open Sql Sql.Node Sql.ExprText Text

/-! ### Fields that need the joins -/

/-- A part of the plan has a field that needs the joins. -/
def Plan.NeedsJoins (d : Dataset) (p : Plan) : Prop :=
  ∃ raw ∈ p.rawFields, ∃ name ∈ raw, ∃ field ∈ d.field? name, field.needsJoin = true

/-- A text that is told of a field finds the field that the raw text finds. -/
theorem Text.Tells.field? {d : Dataset} {raw name : String} (h : Tells (some raw) name) :
    d.field? name = d.field? raw := by
  rw [← Option.some.inj h.1, Dataset.field?_trim]

/-- Whether the joins are made depends on the fields of the plan only, in whatever part they are. -/
theorem Plan.Denotes.needsJoin_iff {d : Dataset} {limits : Limits} {p : Plan} {q : Query}
    (h : p.Denotes d limits q) : d.needsJoin q.usedFields = true ↔ p.NeedsJoins d := by
  obtain ⟨htold, hused⟩ := h.tells_usedFields
  simp only [Dataset.needsJoin, List.any_eq_true, Option.any_eq_true]
  constructor
  · rintro ⟨name, hname, field, hfield, hneeds⟩
    obtain ⟨raw, hraw, htells⟩ := hused name hname
    obtain ⟨text, rfl, -⟩ := Option.map_eq_some_iff.mp htells.1
    exact ⟨some text, hraw, text, rfl, field, htells.field? ▸ hfield, hneeds⟩
  · rintro ⟨_, hraw, text, rfl, field, hfield, hneeds⟩
    obtain ⟨name, hname, htells⟩ := htold _ hraw
    exact ⟨name, hname, field, htells.field?.trans hfield, hneeds⟩

/-! ### Names of sources -/

namespace Sql

/-- The names by which a column is qualified, of itself or of all columns. -/
def Node.qualifiers : Node → List String
  | .expr (.name parts) => parts.dropLast.map (·.text)
  | .item (.star _ qualifier) => qualifier.map (·.text)
  | _ => []

/-- The name under which the columns of a source are known, if there is one for all of them. -/
def Source.name? : Source → Option String
  | .table name _ _ _ _ none => name.getLast?.map (·.text)
  | .table _ _ _ _ _ (some asName) => some asName.name.text
  | .derived _ _ asName => asName.map (·.name.text)
  | .nestedJoin _ asName => asName.map (·.name.text)
  | .foreign _ => none

def Join.name? : Join → Option String
  | .mk _ _ source _ _ => source.name?

/-- The names of a source and of the sources joined to it. -/
def FromItem.names : FromItem → List String
  | .mk source joins => source.name?.toList ++ joins.filterMap Join.name?

/-- The names that a query introduces behind FROM. -/
def Query.sourceNames : Query → List String
  | .mk _ _ (.select (.mk _ _ _ _ _ sources _ _ _ _ _ _ _ _ _ _)) _ _ _ _ _ _ =>
    sources.flatMap FromItem.names
  | _ => []

theorem SelectText.sourceNames_query (s : SelectText) :
    s.query.sourceNames = s.name :: s.joins.map (·.name) := by
  have hjoins : (s.joins.map LeftJoin.join).filterMap Join.name? = s.joins.map (·.name) := by
    rw [List.filterMap_map]
    exact congrFun List.filterMap_eq_map s.joins
  show s.name :: (s.joins.map LeftJoin.join).filterMap Join.name? ++ [] = s.name :: s.joins.map (·.name)
  rw [hjoins, List.append_nil]

/-- A column is qualified by some of these names only. -/
def Node.QualifiedBy (names : List String) (n : Node) : Prop := ∀ name ∈ n.qualifiers, name ∈ names

section

variable {names : List String}

/-- Only columns are looked at by themselves. -/
theorem lenient_qualifiedBy (names : List String) : Lenient (QualifiedBy names) where
  expr e he := by
    cases e with
    | name parts => cases he
    | _ => exact List.forall_mem_nil _
  item _ _ := List.forall_mem_nil _
  key _ := List.forall_mem_nil _
  body _ := List.forall_mem_nil _
  select _ := List.forall_mem_nil _
  fromItem _ := List.forall_mem_nil _
  join _ := List.forall_mem_nil _

theorem qualifiedBy_mono {names' : List String} (h : names ⊆ names') {n : Node}
    (hn : Node.All (QualifiedBy names) n) : Node.All (QualifiedBy names') n :=
  fun m hm name hname => h (hn m hm name hname)

namespace ExprText

theorem qualified_column {source : String} (h : source ∈ names) (name : String) :
    (column source name).All (QualifiedBy names) :=
  all_iff.mpr ⟨List.forall_mem_singleton.mpr h, List.forall_mem_nil _⟩

theorem qualified_zero : zero.All (QualifiedBy names) := (lenient_qualifiedBy names).all_literal _

theorem qualified_equation {x y : ExprText} (hx : x.All (QualifiedBy names))
    (hy : y.All (QualifiedBy names)) : (equation x y).All (QualifiedBy names) :=
  (lenient_qualifiedBy names).all_binary hx hy

theorem qualified_julianDay {args : List ExprText} (h : ∀ x ∈ args, ExprText.All (QualifiedBy names) x) :
    (julianDay args).All (QualifiedBy names) :=
  (lenient_qualifiedBy names).all_call h _ _

theorem qualified_age (h : "t" ∈ names) : age.All (QualifiedBy names) := by
  have hmoment : (julianDay momentArgs).All (QualifiedBy names) := by
    refine qualified_julianDay ?_
    simp only [momentArgs, List.forall_mem_cons]
    exact ⟨(lenient_qualifiedBy names).all_literal _, (lenient_qualifiedBy names).all_literal _,
      List.forall_mem_nil _⟩
  have hpublished : (julianDay [column "t" "published_time"]).All (QualifiedBy names) :=
    qualified_julianDay (List.forall_mem_singleton.mpr (qualified_column h _))
  refine (lenient_qualifiedBy names).all_expr rfl (List.forall_mem_singleton.mpr ?_)
  exact (lenient_qualifiedBy names).all_binary hmoment hpublished

theorem qualified_ageInDays (h : "t" ∈ names) : ageInDays.All (QualifiedBy names) := by
  have hday : Node.All (QualifiedBy names) (.expr (.name [⟨"DAY", none⟩])) :=
    all_iff.mpr ⟨List.forall_mem_nil _, List.forall_mem_nil _⟩
  have hnow : Node.All (QualifiedBy names) (.expr (.call [⟨"NOW", none⟩] false [] "" none [])) :=
    (lenient_qualifiedBy names).all_expr rfl (List.forall_mem_nil _)
  refine (lenient_qualifiedBy names).all_call ?_ _ _
  simp only [List.forall_mem_cons]
  exact ⟨hday, qualified_column h _, hnow, List.forall_mem_nil _⟩

end ExprText

end

end Sql

/-! ### Datasets -/

/-- The names that are introduced behind FROM, with the joins or without them. -/
def DatasetText.names (r : DatasetText) (joined : Bool) : List String :=
  r.name :: if joined then r.joins.map (·.name) else []

theorem DatasetText.names_mono (r : DatasetText) {joined joined' : Bool}
    (h : joined = true → joined' = true) : r.names joined ⊆ r.names joined' := by
  cases joined with
  | false => simp [names]
  | true =>
    rw [h rfl]
    exact List.Subset.refl _

/-- A field is qualified by the base table alone unless it needs the joins, and so is the condition on
rows. -/
structure Dataset.Scoped (d : Dataset) (r : DatasetText) : Prop where
  fields : List.Forall₂ (fun f x => ExprText.All (QualifiedBy (r.names (Field.needsJoin f))) x)
    d.fields r.fields
  joins : ∀ j ∈ r.joins, Node.All (QualifiedBy (r.names true)) (.join (LeftJoin.join j))
  condition : r.condition.All (QualifiedBy (r.names false))

section

variable {d : Dataset} {dialect : Dialect} {r : DatasetText}

/-- What a name stands for is qualified as its field is. -/
theorem FieldText.qualified {name : String} {x : ExprText} (h : FieldText d dialect r name x)
    (hd : d.Read dialect r) (hscoped : d.Scoped r) :
    ∃ field, d.field? name = some field ∧
      ExprText.All (QualifiedBy (r.names field.needsJoin)) x := by
  obtain ⟨field, hfield, -, hread⟩ := h
  obtain ⟨k, hk⟩ := List.mem_iff_getElem?.mp (List.mem_of_find?_eq_some hfield)
  obtain ⟨y, hy, hready⟩ := Steps.exists_partner hd.fields hk
  obtain ⟨y', hy', hqualified⟩ := Steps.exists_partner hscoped.fields hk
  rw [hy, Option.some.injEq] at hy'
  rw [← hy', hready.unique hread] at hqualified
  exact ⟨field, hfield, hqualified⟩

/-- The selection that a query is meant to be is qualified by the names that it introduces. -/
theorem Query.Selects.qualified {q : Query} {value : ExprText} {s : SelectText}
    (h : q.Selects d dialect r value s) (hd : d.Read dialect r) (hscoped : d.Scoped r)
    (hused : q.usedFields = Plan.fieldsOf q.dimensions q.measures q.filters q.orderBy)
    (hvalue : ∀ names, value.All (QualifiedBy names)) :
    s.query.sourceNames = r.names (d.needsJoin q.usedFields) ∧
      Node.All (QualifiedBy s.query.sourceNames) (.query s.query) := by
  have hnames : s.query.sourceNames = r.names (d.needsJoin q.usedFields) := by
    rw [s.sourceNames_query, h.name, h.joins, DatasetText.names]
    split
    · rfl
    · rfl
  have hfield : ∀ name ∈ q.usedFields, ∀ x, FieldText d dialect r name x →
      ExprText.All (QualifiedBy (r.names (d.needsJoin q.usedFields))) x := by
    intro name hname x hx
    obtain ⟨field, hfield, hall⟩ := hx.qualified hd hscoped
    refine qualifiedBy_mono (r.names_mono fun hneeds => ?_) hall
    exact List.any_eq_true.mpr ⟨name, hname, by rw [hfield]; exact hneeds⟩
  have hall : s.All (QualifiedBy (r.names (d.needsJoin q.usedFields))) := by
    refine h.all (lenient_qualifiedBy _) (hused ▸ hfield) (List.forall_mem_nil _) ?_ ?_ (hvalue _)
    · intro hneeds
      rw [hneeds]
      exact hscoped.joins
    · exact qualifiedBy_mono (r.names_mono (by simp)) hscoped.condition
  refine ⟨hnames, ?_⟩
  rw [hnames]
  exact hall.query (lenient_qualifiedBy _) (List.forall_mem_nil _)

end

/-! ### The dataset of project tasks -/

theorem LeftJoin.qualified_taskJoin {names : List String} {table name : String} (hname : name ∈ names)
    (htask : "t" ∈ names) (reference : String) :
    Node.All (QualifiedBy names) (.join (Dataset.taskJoin table name reference).join) := by
  have hreference : ((column name "id").equation (column "t" reference)).All (QualifiedBy names) :=
    qualified_equation (qualified_column hname _) (qualified_column htask _)
  have hdeleted : ((column name "deleted").equation zero).All (QualifiedBy names) :=
    qualified_equation (qualified_column hname _) qualified_zero
  refine LeftJoin.all_join (lenient_qualifiedBy names) (List.forall_mem_nil _) ?_
  exact Conjunction.all_tree (lenient_qualifiedBy names) hreference (List.forall_mem_singleton.mpr hdeleted)

namespace Dataset

theorem names_taskTextIn (dialect : Dialect) (joined : Bool) :
    (taskTextIn dialect).names joined = if joined then ["t", "u", "b"] else ["t"] := by
  cases joined with
  | false => rfl
  | true => rfl

theorem tasks_scoped (dialect : Dialect) : tasks.Scoped (taskTextIn dialect) where
  fields := by
    simp only [names_taskTextIn]
    have hall : ∀ {x : ExprText}, x.All (QualifiedBy ["t"]) →
        List.Forall₂ (fun f x => ExprText.All
            (QualifiedBy (if Field.needsJoin f then ["t", "u", "b"] else ["t"])) x)
          tasks.fields (taskTexts.dropLast ++ [x]) := by
      intro x hx
      refine .cons ?_ <| .cons ?_ <| .cons ?_ <| .cons ?_ <| .cons ?_ <| .cons ?_ <| .cons ?_ <|
        .cons ?_ <| .cons ?_ <| .cons ?_ <| .cons hx .nil
      all_goals exact qualified_column (by decide) _
    cases dialect with
    | mysql => exact hall (qualified_ageInDays (by decide))
    | sqlite => exact hall (qualified_age (by decide))
  joins := by
    rw [names_taskTextIn, if_pos rfl]
    intro j hj
    simp only [taskTextIn, taskText, taskJoins, List.mem_cons, List.not_mem_nil, or_false] at hj
    rcases hj with rfl | rfl
    · exact LeftJoin.qualified_taskJoin (by decide) (by decide) _
    · exact LeftJoin.qualified_taskJoin (by decide) (by decide) _
  condition := qualified_equation (qualified_column (List.mem_cons_self ..) _) qualified_zero

end Dataset

/-! ### Bound queries -/

/-- A plan that becomes a query is written with all joins of the dataset, each once and in order, between
FROM and WHERE, if one of its fields needs them, and with none otherwise. So in what is written of a plan
of tasks each column that is qualified is so by a table that is introduced behind FROM. -/
theorem Plan.bind_joins {registry : Registry} {limits : Limits} {dialect : Dialect} {p : Plan} {q : Query}
    {b : BoundQuery} (hcheck : p.check registry limits = .ok (.query q))
    (hbind : q.bind registry dialect = .ok b) :
    (∃ c joins, q.Written registry.dataset dialect c ∧
      b.sql = String.intercalate " "
        (("SELECT " ++ String.intercalate ", " (Clauses.namedItems c.items)) ::
          ("FROM " ++ registry.dataset.source) ::
            (joins ++ ("WHERE " ++ String.intercalate " AND " c.conditionTexts) :: c.back)) ∧
      (p.NeedsJoins registry.dataset → joins = registry.dataset.joins.map (·.sql)) ∧
      (¬p.NeedsJoins registry.dataset → joins = [])) ∧
    (registry = .builtin → ∃ query, Sql.statements? b.sql = some [.query query] ∧
      (p.NeedsJoins .tasks → query.sourceNames = ["t", "u", "b"]) ∧
      (¬p.NeedsJoins .tasks → query.sourceNames = ["t"]) ∧
      ∀ n, Within n (.query query) → ∀ name ∈ n.qualifiers, name ∈ query.sourceNames) := by
  obtain ⟨-, -, hdenotes⟩ := Plan.check_query_iff_denotes.mp hcheck
  obtain ⟨-, c, hwritten, rfl⟩ := Query.bind_eq_ok.mp hbind
  have hneeds : registry.dataset.needsJoin q.usedFields = true ↔ p.NeedsJoins registry.dataset :=
    hdenotes.needsJoin_iff
  refine ⟨⟨c, c.joins, hwritten, ?_, fun hjoined => ?_, fun hjoined => ?_⟩, ?_⟩
  · show c.sql = _
    rw [Clauses.sql, Clauses.texts_eq, Clauses.front, hwritten.source]
    rfl
  · rw [hwritten.joins, if_pos (hneeds.mpr hjoined)]
  · rw [hwritten.joins, if_neg (hneeds.not.mpr hjoined)]
  · rintro rfl
    obtain ⟨s, hs, hread⟩ := hwritten.statements? (Dataset.tasks_readIn dialect)
    have hhole : ∀ names, ExprText.hole.All (QualifiedBy names) := fun names =>
      (lenient_qualifiedBy names).all_literal _
    have hused := (Plan.checked_iff_denotes.mpr hdenotes).usedFields
    obtain ⟨hnames, hall⟩ := hs.qualified (Dataset.tasks_readIn dialect) (Dataset.tasks_scoped dialect)
      hused hhole
    refine ⟨s.query, hread, fun hjoined => ?_, fun hjoined => ?_, hall⟩
    · rw [hnames, hneeds.mpr hjoined, Dataset.names_taskTextIn, if_pos rfl]
    · rw [hnames, Bool.eq_false_of_not_eq_true (hneeds.not.mpr hjoined)]
      exact Dataset.names_taskTextIn dialect false

/-- Tasks that are counted and sorted by the name of the assignee, which occurs nowhere else. -/
theorem Plan.bind_joins_for_assignees :
    let p : Plan := {
      dataset := some "TASK"
      measures := [{ agg := some "COUNT", field := some "TASK_ID" }]
      orderBy := [{ field := some " ASSIGNEE_NAME", direction := some "asc" }] }
    ∃ q b query, p.check .builtin .standard = .ok (.query q) ∧ q.bind .builtin .sqlite = .ok b ∧
      b.sql = "SELECT COUNT(t.id) AS c0 FROM project_task t " ++
        "LEFT JOIN sys_user u ON u.id = t.assignee_id AND u.deleted = 0 " ++
        "LEFT JOIN project_task_batch b ON b.id = t.batch_id AND b.deleted = 0 " ++
        "WHERE t.deleted = 0 ORDER BY u.username ASC LIMIT 50" ∧
      statements? b.sql = some [.query query] ∧ query.sourceNames = ["t", "u", "b"] ∧
        ∀ n, Within n (.query query) → ∀ name ∈ n.qualifiers, name ∈ query.sourceNames := by
  intro p
  have hneeds : p.NeedsJoins .tasks :=
    ⟨some " ASSIGNEE_NAME", by decide, _, rfl, .joined "ASSIGNEE_NAME" "u.username" .text, by decide, rfl⟩
  have hsql : (p.bound? .builtin .standard .sqlite).map (·.sql) =
      some ("SELECT COUNT(t.id) AS c0 FROM project_task t " ++
        "LEFT JOIN sys_user u ON u.id = t.assignee_id AND u.deleted = 0 " ++
        "LEFT JOIN project_task_batch b ON b.id = t.batch_id AND b.deleted = 0 " ++
        "WHERE t.deleted = 0 ORDER BY u.username ASC LIMIT 50") := by
    decide +kernel
  obtain ⟨b, hb, htext⟩ := Option.map_eq_some_iff.mp hsql
  obtain ⟨q, hcheck, hbind⟩ := Plan.bound?_eq_some.mp hb
  obtain ⟨query, hread, hnames, -, hqualified⟩ := (Plan.bind_joins hcheck hbind).2 rfl
  exact ⟨q, b, query, hcheck, hbind, htext, hread, hnames hneeds, hqualified⟩

end ScopedQuery
