import ScopedQuery.Proofs.Bound.SameShape
/-!
# One text for both dialects

The dialects differ in the expressions of fields and in nothing else.

* A `Template` is a text with holes for the expressions of fields, `Template.fill` puts in the expressions
  of a dialect, and `Query.template` is the template of a query, which knows no dialect.
* `Written.sql_eq_fill`: the text of a query is its template, filled.
* `Query.holes_template` lists the holes: the fields of dimensions twice, and those of measures, filters and
  sort keys.
* `Query.bind_dialects`: a query is bound in both dialects or in none, and then with the same parameters and
  columns.
-/

namespace ScopedQuery

open Steps

/-! ### Templates -/

/-- A part of a text: fixed, or a hole for the expression of a field. -/
inductive Piece
  | fixed (text : String)
  | hole (field : String)

abbrev Template := List Piece

namespace Template

variable (d : Dataset) (dialect : Dialect)

/-- The text of a part; the hole of a field that does not exist stays empty. -/
def pieceText : Piece → String
  | .fixed text => text
  | .hole field => (d.field? field).elim "" (·.expressionIn dialect)

/-- The text with the expressions of a dialect. -/
def fill (t : Template) : String := String.join (t.map (pieceText d dialect))

/-- The fields of the holes, in order. -/
def holes (t : Template) : List String :=
  t.filterMap fun
    | .fixed _ => none
    | .hole field => some field

/-- Templates with a fixed text between them. -/
def joined (separator : String) (ts : List Template) : Template := List.intercalate [.fixed separator] ts

theorem fill_append (t u : Template) : fill d dialect (t ++ u) = fill d dialect t ++ fill d dialect u := by
  rw [fill, List.map_append, String.join_append]
  rfl

theorem fill_fixed (text : String) (t : Template) :
    fill d dialect (.fixed text :: t) = text ++ fill d dialect t := by
  rw [fill, List.map_cons, String.join_cons]
  rfl

theorem fill_nil : fill d dialect [] = "" := rfl

theorem fill_joined (separator : String) (ts : List Template) :
    fill d dialect (joined separator ts) = String.intercalate separator (ts.map (fill d dialect)) := by
  unfold joined
  induction ts with
  | nil => rw [List.intercalate_nil, List.map_nil, String.intercalate_nil, fill_nil]
  | cons t ts ih =>
    cases ts with
    | nil => rw [List.intercalate_singleton, List.map_singleton, String.intercalate_singleton]
    | cons u ts =>
      rw [List.intercalate_cons_cons, fill_append, fill_append, ih, fill_fixed, fill_nil, String.append_empty,
        List.map_cons, List.map_cons, List.map_cons, String.intercalate_cons_cons]

theorem fill_hole {name : String} {f : Field} (h : d.field? name = some f) (t : Template) :
    fill d dialect (.hole name :: t) = f.expressionIn dialect ++ fill d dialect t := by
  rw [fill, List.map_cons, String.join_cons, pieceText, h]
  rfl

theorem holes_nil : holes [] = [] := rfl

theorem holes_fixed (text : String) (t : Template) : holes (.fixed text :: t) = holes t := rfl

theorem holes_hole (name : String) (t : Template) : holes (.hole name :: t) = name :: holes t := rfl

theorem holes_append (t u : Template) : holes (t ++ u) = holes t ++ holes u := List.filterMap_append

theorem holes_joined (separator : String) (ts : List Template) :
    holes (joined separator ts) = ts.flatMap holes := by
  unfold joined
  induction ts with
  | nil => rfl
  | cons t ts ih =>
    cases ts with
    | nil => simp
    | cons u ts =>
      rw [List.intercalate_cons_cons, holes_append, holes_append, ih, holes_fixed, holes_nil,
        List.append_nil, List.flatMap_cons (x := t)]

/-- What is made of elements by filling their templates. -/
theorem results_eq_fill {α : Type} {R : α → String → Prop} {xs : List α} {texts : List String}
    {template : α → Template} (h : List.Forall₂ R xs texts)
    (hfill : ∀ x text, R x text → fill d dialect (template x) = text) :
    texts = (xs.map template).map (fill d dialect) := by
  rw [eq_comm, List.map_map, ← List.forall₂_eq_eq_eq, List.forall₂_map_left_iff]
  exact h.imp hfill

/-- A template has the same text in two dialects if the fields of its holes have the same expressions. -/
theorem fill_congr {d : Dataset} {x y : Dialect} {t : Template}
    (h : ∀ name ∈ t.holes, ∀ f, d.field? name = some f → f.expressionIn x = f.expressionIn y) :
    fill d x t = fill d y t := by
  have hpieces : t.map (pieceText d x) = t.map (pieceText d y) := by
    rw [List.map_inj_left]
    intro piece hpiece
    cases piece with
    | fixed text => rfl
    | hole name =>
      have hname : name ∈ t.holes := List.mem_filterMap.mpr ⟨_, hpiece, rfl⟩
      cases hfield : d.field? name with
      | none => simp [pieceText, hfield]
      | some f => simp [pieceText, hfield, h name hname f hfield]
  rw [fill, fill, hpieces]

end Template

/-! ### The template of a query -/

/-- What stands before an aggregated expression. -/
def Aggregation.opening : Aggregation → String
  | countDistinct => "COUNT(DISTINCT "
  | agg => agg.code ++ "("

theorem Aggregation.wrap_eq (agg : Aggregation) (e : String) : agg.wrap e = agg.opening ++ (e ++ ")") := by
  cases agg <;> exact String.append_assoc

/-- A condition starts with its expression. -/
theorem Predicate.sql_eq_append (p : Predicate) (e : String) : p.sql e = e ++ p.sql "" := by
  cases p <;> simp only [sql, String.append_assoc, String.empty_append]

namespace Query

def Measure.template (m : Measure) : Template :=
  [.fixed m.agg.opening, .hole m.field, .fixed ")"]

def Filter.template (f : Filter) : Template := [.hole f.field, .fixed (f.predicate.sql "")]

def Order.template (o : Order) : Template := [.hole o.field, .fixed (" " ++ o.direction.sql)]

variable (q : Query)

def groupTemplates : List Template := q.dimensions.map fun dim => [.hole dim.field]

def itemTemplates : List Template := q.groupTemplates ++ q.measures.map Measure.template

/-- The items with the names `c0`, `c1` and so on. -/
def namedTemplates : List Template :=
  q.itemTemplates.zipIdx.map fun item => item.1 ++ [.fixed (" AS c" ++ toString item.2)]

/-- A clause that is left out if it has no parts. -/
def optionalTemplate (words : String) (parts : List Template) : List Template :=
  if parts.isEmpty then [] else [.fixed words :: Template.joined ", " parts]

/-- The clauses of the text, in order. -/
def clauseTemplates (d : Dataset) : List Template :=
  [.fixed "SELECT " :: Template.joined ", " q.namedTemplates, [.fixed ("FROM " ++ d.source)]] ++
    (if d.needsJoin q.usedFields then d.joins.map fun j => [.fixed j.sql] else []) ++
    [.fixed "WHERE " :: Template.joined " AND " ([.fixed d.softDelete] :: q.filters.map Filter.template)] ++
    optionalTemplate "GROUP BY " q.groupTemplates ++
    optionalTemplate "ORDER BY " (q.orderBy.map Order.template) ++
    [[.fixed ("LIMIT " ++ toString q.limit)]]

/-- The text of a query of a dataset, with holes for the expressions of fields. -/
def template (d : Dataset) : Template := Template.joined " " (q.clauseTemplates d)

/-- The fields whose expressions stand in the text: those of dimensions in the select list and again in
GROUP BY. -/
def expressedFields : List String :=
  q.dimensions.map (·.field) ++ q.measures.map (·.field) ++ q.filters.map (·.field) ++
    q.dimensions.map (·.field) ++ q.orderBy.map (·.field)

theorem holes_optionalTemplate (words : String) (parts : List Template) :
    (optionalTemplate words parts).flatMap Template.holes = parts.flatMap Template.holes := by
  cases parts with
  | nil => rfl
  | cons t ts =>
    rw [optionalTemplate, if_neg (by simp), List.flatMap_singleton, Template.holes_fixed,
      Template.holes_joined]

theorem holes_namedTemplates :
    q.namedTemplates.flatMap Template.holes = q.itemTemplates.flatMap Template.holes := by
  have hname : ∀ item : Template × Nat,
      Template.holes (item.1 ++ [.fixed (" AS c" ++ toString item.2)]) = item.1.holes := fun item => by
    rw [Template.holes_append, Template.holes_fixed, Template.holes_nil, List.append_nil]
  rw [namedTemplates, List.flatMap_map]
  simp only [hname]
  rw [← List.flatMap_map, List.zipIdx_map_fst]

/-- The holes of a query are the places where a field's expression stands. -/
theorem holes_template (d : Dataset) : (q.template d).holes = q.expressedFields := by
  have hjoins : (if d.needsJoin q.usedFields then d.joins.map fun j => ([.fixed j.sql] : Template)
      else []).flatMap Template.holes = [] := by
    split
    · simp [List.flatMap_map, Template.holes_fixed, Template.holes_nil]
    · rfl
  simp only [template, clauseTemplates, Template.holes_joined, List.flatMap_append, List.flatMap_cons,
    List.flatMap_nil, Template.holes_fixed, Template.holes_hole, Template.holes_nil, hjoins,
    holes_optionalTemplate, holes_namedTemplates, itemTemplates, groupTemplates, List.flatMap_map,
    Measure.template, Filter.template, Order.template, ← List.map_eq_flatMap]
  simp [expressedFields]

/-! ### Texts -/

section

variable {q} {d : Dataset} {dialect : Dialect} {c : Clauses} (h : q.Written d dialect c)

include h

/-- All fields whose expressions stand in the text exist. -/
theorem Written.field?_isSome {name : String} (hname : name ∈ q.expressedFields) :
    (d.field? name).isSome = true := by
  have hfound : ∀ {name text : String}, d.expression dialect name = .ok text →
      (d.field? name).isSome = true := by
    intro name text htext
    obtain ⟨field, hfield, -⟩ := Dataset.expression_eq_ok.mp htext
    exact Option.isSome_iff_exists.mpr ⟨field, hfield⟩
  obtain ⟨measures, hmeasures, -⟩ := h.items
  simp only [expressedFields, List.mem_append, List.mem_map] at hname
  obtain (((⟨dim, hdim, rfl⟩ | ⟨m, hm, rfl⟩) | ⟨f, hf, rfl⟩) | ⟨dim, hdim, rfl⟩) | ⟨o, ho, rfl⟩ := hname
  · obtain ⟨e, -, he⟩ := exists_origin h.groupBy.flip hdim
    exact hfound he
  · obtain ⟨e, -, he⟩ := exists_origin hmeasures.flip hm
    obtain ⟨expression, hexpression, -⟩ := Measure.item_eq_ok.mp he
    exact hfound hexpression
  · obtain ⟨cond, -, hcond⟩ := exists_origin h.conditions.flip hf
    obtain ⟨field, hfield, -⟩ := Filter.condition_eq_ok.mp hcond
    exact Option.isSome_iff_exists.mpr ⟨field, hfield⟩
  · obtain ⟨e, -, he⟩ := exists_origin h.groupBy.flip hdim
    exact hfound he
  · obtain ⟨key, -, hkey⟩ := exists_origin h.orderBy.flip ho
    obtain ⟨expression, hexpression, -⟩ := Order.key_eq_ok.mp hkey
    exact hfound hexpression

theorem Written.groupBy_eq_fill : c.groupBy = q.groupTemplates.map (Template.fill d dialect) := by
  refine Template.results_eq_fill d dialect h.groupBy fun dim e hdim => ?_
  obtain ⟨field, hfield, rfl⟩ := Dataset.expression_eq_ok.mp hdim
  rw [Template.fill_hole d dialect hfield, Template.fill_nil, String.append_empty]

theorem Written.items_eq_fill : c.items = q.itemTemplates.map (Template.fill d dialect) := by
  obtain ⟨measures, hmeasures, hitems⟩ := h.items
  have hcalls : measures = (q.measures.map Measure.template).map (Template.fill d dialect) := by
    refine Template.results_eq_fill d dialect hmeasures fun m e hm => ?_
    obtain ⟨expression, hexpression, -, rfl⟩ := Measure.item_eq_ok.mp hm
    obtain ⟨field, hfield, rfl⟩ := Dataset.expression_eq_ok.mp hexpression
    rw [Measure.template, Template.fill_fixed, Template.fill_hole d dialect hfield, Template.fill_fixed,
      Template.fill_nil, String.append_empty, Aggregation.wrap_eq]
  rw [hitems, h.groupBy_eq_fill, hcalls, itemTemplates, List.map_append]

theorem Written.conditions_eq_fill :
    c.conditions.map (·.sql) = (q.filters.map Filter.template).map (Template.fill d dialect) := by
  have htexts : List.Forall₂
      (fun f text => ∃ cond, Filter.condition f d dialect = .ok cond ∧ cond.sql = text)
      q.filters (c.conditions.map (·.sql)) :=
    List.forall₂_map_right_iff.mpr (h.conditions.imp fun f cond hf => ⟨cond, hf, rfl⟩)
  refine Template.results_eq_fill d dialect htexts fun f text hf => ?_
  obtain ⟨cond, hcond, rfl⟩ := hf
  obtain ⟨field, hfield, -, hsql, -⟩ := Filter.condition_eq_ok.mp hcond
  rw [Filter.template, Template.fill_hole d dialect hfield, Template.fill_fixed, Template.fill_nil,
    String.append_empty, hsql, Predicate.sql_eq_append f.predicate (field.expressionIn dialect)]

theorem Written.orderBy_eq_fill :
    c.orderBy = (q.orderBy.map Order.template).map (Template.fill d dialect) := by
  refine Template.results_eq_fill d dialect h.orderBy fun o key ho => ?_
  obtain ⟨expression, hexpression, rfl⟩ := Order.key_eq_ok.mp ho
  obtain ⟨field, hfield, rfl⟩ := Dataset.expression_eq_ok.mp hexpression
  rw [Order.template, Template.fill_hole d dialect hfield, Template.fill_fixed, Template.fill_nil,
    String.append_empty, String.append_assoc]

theorem Written.named_eq_fill :
    Clauses.namedItems c.items = q.namedTemplates.map (Template.fill d dialect) := by
  rw [Clauses.namedItems, h.items_eq_fill, namedTemplates, List.zipIdx_map, List.map_map, List.map_map,
    List.map_inj_left]
  intro item _
  simp only [Function.comp_apply, Prod.map, id, Template.fill_append, Template.fill_fixed, Template.fill_nil,
    String.append_empty, String.append_assoc]

theorem Written.joins_eq_fill :
    c.joins = (if d.needsJoin q.usedFields then d.joins.map fun j => ([.fixed j.sql] : Template)
      else []).map (Template.fill d dialect) := by
  rw [h.joins]
  split
  · simp only [List.map_map, Function.comp_def, Template.fill_fixed, Template.fill_nil, String.append_empty]
  · rfl

omit h in
theorem optionalClause_eq_fill (words : String) {texts : List String} {parts : List Template}
    (hparts : texts = parts.map (Template.fill d dialect)) :
    Clauses.optionalClause words texts = (optionalTemplate words parts).map (Template.fill d dialect) := by
  rw [hparts, Clauses.optionalClause, optionalTemplate, List.isEmpty_map]
  split
  · rfl
  · rw [List.map_singleton, Template.fill_fixed, Template.fill_joined]

/-- The text of a query is its template with the expressions of the dialect. -/
theorem Written.sql_eq_fill : c.sql = (q.template d).fill d dialect := by
  have hgroups := optionalClause_eq_fill "GROUP BY " h.groupBy_eq_fill
  have hkeys := optionalClause_eq_fill "ORDER BY " h.orderBy_eq_fill
  have hconditions : c.conditionTexts =
      ([.fixed d.softDelete] :: q.filters.map Filter.template).map (Template.fill d dialect) := by
    rw [Clauses.conditionTexts, h.softDelete, h.conditions_eq_fill, List.map_cons, Template.fill_fixed,
      Template.fill_nil, String.append_empty]
  rw [template, Template.fill_joined, Clauses.sql, Clauses.texts, hgroups, hkeys, hconditions,
    h.named_eq_fill, h.joins_eq_fill, h.source, h.limit]
  simp only [clauseTemplates, List.map_append, List.map_cons, List.map_nil, Template.fill_fixed,
    Template.fill_nil, Template.fill_joined, String.append_empty]

end

/-! ### Both dialects -/

section

variable (d : Dataset) (x y : Dialect)

/-- Whether a field has an expression does not depend on the dialect. -/
theorem expression_both (name : String) :
    Both (fun _ _ => True) (d.expression x name) (d.expression y name) := by
  unfold Dataset.expression
  cases d.field? name with
  | none => exact rfl
  | some f => exact trivial

theorem Measure.item_both (m : Measure) : Both (fun _ _ => True) (m.item d x) (m.item d y) := by
  refine (expression_both d x y m.field).bind fun _ _ _ => ?_
  split
  · exact .ok trivial
  · exact rfl

theorem Order.key_both (o : Order) : Both (fun _ _ => True) (o.key d x) (o.key d y) :=
  (expression_both d x y o.field).bind fun _ _ _ => .ok trivial

theorem Filter.condition_both (f : Filter) :
    Both (fun _ _ => True) (f.condition d x) (f.condition d y) := by
  unfold Filter.condition
  cases d.field? f.field with
  | none => exact rfl
  | some field => exact Both.check fun _ => Both.bind_same fun params _ => .ok trivial

theorem clauses_both (q : Query) : Both (fun _ _ => True) (q.clauses d x) (q.clauses d y) := by
  refine (Both.mapM fun dim _ => expression_both d x y dim.field).bind fun groups groups' hgroups => ?_
  refine (Both.mapM fun m _ => m.item_both d x y).bind fun measures measures' hmeasures => ?_
  -- the select list is as long in one dialect as in the other
  have hempty : (groups ++ measures).isEmpty = (groups' ++ measures').isEmpty := by
    cases hgroups <;> cases hmeasures <;> rfl
  rw [hempty]
  refine Both.check fun _ => ?_
  refine (Both.mapM fun f _ => Filter.condition_both d x y f).bind fun _ _ _ => ?_
  exact (Both.mapM fun o _ => Order.key_both d x y o).bind fun _ _ _ => .ok trivial

end

theorem bind_cases_dialects (q : Query) (registry : Registry) (x y : Dialect) :
    (∃ failure, q.bind registry x = .error failure ∧ q.bind registry y = .error failure) ∨
      ∃ b c, q.bind registry x = .ok b ∧ q.bind registry y = .ok c := by
  unfold Query.bind
  cases registry.find? q.dataset with
  | none => exact .inl ⟨_, rfl, rfl⟩
  | some d =>
    obtain ⟨failure, hx, hy⟩ | ⟨s, t, hs, ht, -⟩ := (clauses_both d x y q).cases
    · simp only [hx, hy, error_bind]
      exact .inl ⟨failure, rfl, rfl⟩
    · simp only [hs, ht, ok_bind]
      exact .inr ⟨_, _, rfl, rfl⟩

/-- A query is bound in both dialects, with the same parameters and columns, or fails in both with the same
failure. The two texts are one template with the expressions of either dialect; its holes are the places of
the fields of the query, all of which exist. So the texts are equal if no such field has an expression of its
own for SQLite. -/
theorem bind_dialects (q : Query) (registry : Registry) :
    (∃ failure, q.bind registry .mysql = .error failure ∧ q.bind registry .sqlite = .error failure) ∨
      ∃ b c, q.bind registry .mysql = .ok b ∧ q.bind registry .sqlite = .ok c ∧
        b.params = c.params ∧ b.columns = c.columns ∧
        b.sql = (q.template registry.dataset).fill registry.dataset .mysql ∧
        c.sql = (q.template registry.dataset).fill registry.dataset .sqlite ∧
        (q.template registry.dataset).holes = q.expressedFields ∧
        (∀ name ∈ q.expressedFields, (registry.dataset.field? name).isSome = true) ∧
        ((∀ name ∈ q.expressedFields, ∀ f, registry.dataset.field? name = some f →
          f.sqliteExpression = none) → b.sql = c.sql) := by
  obtain ⟨failure, hmysql, hsqlite⟩ | ⟨b, c, hb, hc⟩ := q.bind_cases_dialects registry .mysql .sqlite
  · exact .inl ⟨failure, hmysql, hsqlite⟩
  · refine .inr ⟨b, c, hb, hc, ?_⟩
    obtain ⟨-, s, hs, rfl⟩ := Query.bind_eq_ok.mp hb
    obtain ⟨-, t, ht, rfl⟩ := Query.bind_eq_ok.mp hc
    have hparams : s.params = t.params := hs.params_eq rfl ht
    have hholes := q.holes_template registry.dataset
    have hexist : ∀ name ∈ q.expressedFields, (registry.dataset.field? name).isSome = true :=
      fun _ hname => hs.field?_isSome hname
    refine ⟨hparams, rfl, hs.sql_eq_fill, ht.sql_eq_fill, hholes, hexist, fun hsame => ?_⟩
    have hfill : (q.template registry.dataset).fill registry.dataset .mysql =
        (q.template registry.dataset).fill registry.dataset .sqlite := by
      refine Template.fill_congr fun name hname f hf => ?_
      rw [holes_template] at hname
      rw [Field.expressionIn, Field.expressionIn, hsame name hname f hf, Option.getD_none]
    exact hs.sql_eq_fill.trans (hfill.trans ht.sql_eq_fill.symm)

end Query

end ScopedQuery
