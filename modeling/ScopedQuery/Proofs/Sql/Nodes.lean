import Mathlib.Tactic.Common
import ScopedQuery.Sql.Safety
/-!
# Nodes of a syntax tree

The positions of a query at which tables, queries and expressions can stand.

* `Node` is a part of a tree of whatever kind, `Node.children` lists its immediate parts, and
  `Node.Within` reaches all parts at any depth; `Node.All` says something of all of them.
* `Node.Plain` says what the safety check asks of a node by itself: of a query its body and its
  locks, of a source its kind and its name.
* `Query.faults_eq_nil`: a query without faults is one with plain nodes only.
-/

namespace ScopedQuery.Sql

inductive Node
  | expr (value : Expr)
  | item (item : Item)
  | key (key : OrderKey)
  | query (query : Query)
  | cte (cte : Cte)
  | body (body : Body)
  | select (select : Select)
  | fromItem (item : FromItem)
  | source (source : Source)
  | join (join : Join)

namespace Node

/-- The immediate parts of an expression. -/
def exprChildren : Expr → List Node
  | .name _ => []
  | .literal _ => []
  | .unary _ operand => [.expr operand]
  | .binary _ left right => [.expr left, .expr right]
  | .nested inner => [.expr inner]
  | .between _ value low high => [.expr value, .expr low, .expr high]
  | .inList _ value items => .expr value :: items.map .expr
  | .inQuery _ value q => [.expr value, .query q]
  | .exists _ q => [.query q]
  | .subquery q => [.query q]
  | .arrayQuery q => [.query q]
  | .cast _ value _ => [.expr value]
  | .case operand conditions results otherwise =>
    operand.toList.map .expr ++ conditions.map .expr ++ results.map .expr ++
      otherwise.toList.map .expr
  | .call _ _ args _ window orderBy =>
    args.map .item ++ window.toList.map .expr ++ orderBy.map .expr
  | .trim _ value what => .expr value :: what.toList.map .expr
  | .phrase _ operands => operands.map .expr

/-- The immediate parts of a node. -/
def children : Node → List Node
  | .expr value => exprChildren value
  | .item (.expr _ value) => [.expr value]
  | .item (.star _ _) => []
  | .key (.mk value _ _) => [.expr value]
  | .query (.mk _ ctes b orderBy limit offset fetch _ _) =>
    ctes.map .cte ++ [.body b] ++ orderBy.map .key ++ limit.toList.map .expr ++
      offset.toList.map .expr ++ fetch.toList.map .expr
  | .cte (.mk _ q _) => [.query q]
  | .body (.select s) => [.select s]
  | .body (.query q) => [.query q]
  | .body (.setOperation _ left right) => [.body left, .body right]
  | .body (.values _ rows) => rows.map .expr
  | .body (.other _) => []
  | .select (.mk _ keys top items _ sources views condition _ groupBy clusterBy distributeBy sortBy
      having windows qualify) =>
    keys.map .expr ++ top.toList.map .expr ++ items.map .item ++ sources.map .fromItem ++
      views.map .expr ++ condition.toList.map .expr ++ groupBy.map .expr ++ clusterBy.map .expr ++
      distributeBy.map .expr ++ sortBy.map .expr ++ having.toList.map .expr ++ windows.map .expr ++
      qualify.toList.map .expr
  | .fromItem (.mk s joins) => .source s :: joins.map .join
  | .source (.table _ _ args hints _ _) => args.map .item ++ hints.map .expr
  | .source (.derived _ q _) => [.query q]
  | .source (.nestedJoin f _) => [.fromItem f]
  | .source (.foreign _) => []
  | .join (.mk _ _ s on _) => .source s :: on.toList.map .expr

/-- The first node is the second one, or one of its parts at some depth. -/
inductive Within : Node → Node → Prop
  | refl (n : Node) : Within n n
  | child {m n c : Node} (mem : c ∈ n.children) (within : Within m c) : Within m n

/-! ### What is asked of a node -/

/-- A body that is a SELECT without INTO, or a query in parentheses. -/
inductive PlainBody : Body → Prop
  | select (distinctness : Distinctness) (keys : List Expr) (top : Option Expr) (items : List Item)
      (sources : List FromItem) (views : List Expr) (condition : Option Expr) (groupAll : Bool)
      (groupBy clusterBy distributeBy sortBy : List Expr) (having : Option Expr)
      (windows : List Expr) (qualify : Option Expr) :
      PlainBody (.select (.mk distinctness keys top items none sources views condition groupAll
        groupBy clusterBy distributeBy sortBy having windows qualify))
  | query (query : Query) : PlainBody (.query query)

/-- A named table of the whitelist, a nested join, or a derived table. -/
inductive PlainSource (tables : List String) : Source → Prop
  | table (name : ObjectName) (function : Bool) (args : List Item) (hints : List Expr)
      (partitions : List Ident) (asName : Option TableAlias)
      (mem : ObjectName.key name ∈ tables) :
      PlainSource tables (.table name function args hints partitions asName)
  | derived (lateral : Bool) (query : Query) (asName : Option TableAlias) :
      PlainSource tables (.derived lateral query asName)
  | nestedJoin (item : FromItem) (asName : Option TableAlias) :
      PlainSource tables (.nestedJoin item asName)

/-- A query locks nothing and has a plain body, and a source is plain; of other nodes nothing is
asked. -/
def Plain (tables : List String) : Node → Prop
  | .query (.mk _ _ b _ _ _ _ locks _) => locks = [] ∧ PlainBody b
  | .source s => PlainSource tables s
  | _ => True

/-- Every node within this one is plain. -/
def Clear (tables : List String) (n : Node) : Prop := ∀ m, Within m n → m.Plain tables

/-- Every node within this one has a property. -/
def All (P : Node → Prop) (n : Node) : Prop := ∀ m, Within m n → P m

theorem all_iff {P : Node → Prop} {n : Node} : All P n ↔ P n ∧ ∀ c ∈ n.children, All P c := by
  constructor
  · intro h
    exact ⟨h n (.refl n), fun c hc m hm => h m (.child hc hm)⟩
  · rintro ⟨hn, hc⟩ m hm
    cases hm with
    | refl => exact hn
    | child mem within => exact hc _ mem m within

theorem clear_iff {tables : List String} {n : Node} :
    Clear tables n ↔ n.Plain tables ∧ ∀ c ∈ n.children, Clear tables c :=
  all_iff

/-! ### Faults and nodes -/

/-- A body has no faults of shape just if it is plain and, being a query, is itself without them. -/
theorem shapeFaults_eq_nil {b : Body} :
    b.shapeFaults = [] ↔ PlainBody b ∧ ∀ q, b = .query q → q.shapeFaults = [] := by
  cases b with
  | select s =>
    obtain ⟨distinctness, keys, top, items, into, _⟩ := s
    cases into with
    | none =>
      simp only [Body.shapeFaults, Option.isSome_none, Bool.false_eq_true, if_false, true_iff]
      exact ⟨.select .., by simp⟩
    | some target =>
      simp only [Body.shapeFaults, Option.isSome_some, if_true, List.cons_ne_nil, false_iff]
      rintro ⟨⟨⟩, -⟩
  | query q =>
    simp only [Body.shapeFaults, Body.query.injEq, forall_eq']
    exact ⟨fun h => ⟨.query q, h⟩, fun h => h.2⟩
  | setOperation words left right =>
    simp only [Body.shapeFaults, List.cons_ne_nil, false_iff]
    rintro ⟨⟨⟩, -⟩
  | values explicitRow rows =>
    simp only [Body.shapeFaults, List.cons_ne_nil, false_iff]
    rintro ⟨⟨⟩, -⟩
  | other text =>
    simp only [Body.shapeFaults, List.cons_ne_nil, false_iff]
    rintro ⟨⟨⟩, -⟩

end Node

open Node (Clear Plain PlainBody PlainSource children exprChildren clear_iff shapeFaults_eq_nil)

variable {tables : List String}

theorem clear_expr {e : Expr} :
    Clear tables (.expr e) ↔ ∀ c ∈ exprChildren e, Clear tables c := by
  rw [clear_iff]
  exact and_iff_right True.intro

/-- Of a node of any kind but a query or a source only the parts are looked at. -/
theorem clear_of_plain {n : Node} (h : n.Plain tables) :
    Clear tables n ↔ ∀ c ∈ n.children, Clear tables c := by
  rw [clear_iff]
  exact and_iff_right h

-- The induction follows the trees: a statement for each kind of node and for each list of them. A
-- query is looked at together with its shape, because what is asked of its body is part of that.
mutual

theorem Expr.faults_eq_nil : ∀ e : Expr, e.faults tables = [] ↔ Clear tables (.expr e)
  | .name _ => by simp [Expr.faults, clear_expr, exprChildren]
  | .literal _ => by simp [Expr.faults, clear_expr, exprChildren]
  | .unary _ operand => by
    simp [Expr.faults, clear_expr, exprChildren, Expr.faults_eq_nil operand]
  | .binary _ left right => by
    simp [Expr.faults, clear_expr, exprChildren, Expr.faults_eq_nil left, Expr.faults_eq_nil right]
  | .nested inner => by simp [Expr.faults, clear_expr, exprChildren, Expr.faults_eq_nil inner]
  | .between _ value low high => by
    simp [Expr.faults, clear_expr, exprChildren, Expr.faults_eq_nil value, Expr.faults_eq_nil low,
      Expr.faults_eq_nil high]
  | .inList _ value items => by
    simp [Expr.faults, clear_expr, exprChildren, Expr.faults_eq_nil value,
      Expr.allFaults_eq_nil items]
  | .inQuery _ value query => by
    have hq := Query.faults_eq_nil query
    simp only [List.append_eq_nil_iff] at hq
    simp [Expr.faults, clear_expr, exprChildren, Expr.faults_eq_nil value, ← hq]
    tauto
  | .exists _ query => by
    simp [Expr.faults, clear_expr, exprChildren, ← Query.faults_eq_nil query]
  | .subquery query => by
    simp [Expr.faults, clear_expr, exprChildren, ← Query.faults_eq_nil query]
  | .arrayQuery query => by
    simp [Expr.faults, clear_expr, exprChildren, ← Query.faults_eq_nil query]
  | .cast _ value _ => by simp [Expr.faults, clear_expr, exprChildren, Expr.faults_eq_nil value]
  | .case operand conditions results otherwise => by
    simp [Expr.faults, clear_expr, exprChildren, Expr.optionFaults_eq_nil operand,
      Expr.allFaults_eq_nil conditions, Expr.allFaults_eq_nil results,
      Expr.optionFaults_eq_nil otherwise, or_imp, forall_and]
  | .call _ _ args _ window orderBy => by
    simp [Expr.faults, clear_expr, exprChildren, Item.allFaults_eq_nil args,
      Expr.optionFaults_eq_nil window, Expr.allFaults_eq_nil orderBy, or_imp, forall_and]
  | .trim _ value what => by
    simp [Expr.faults, clear_expr, exprChildren, Expr.faults_eq_nil value,
      Expr.optionFaults_eq_nil what]
  | .phrase _ operands => by
    simp [Expr.faults, clear_expr, exprChildren, Expr.allFaults_eq_nil operands]

theorem Expr.allFaults_eq_nil : ∀ es : List Expr,
    Expr.allFaults tables es = [] ↔ ∀ e ∈ es, Clear tables (.expr e)
  | [] => by simp [Expr.allFaults]
  | e :: es => by simp [Expr.allFaults, Expr.faults_eq_nil e, Expr.allFaults_eq_nil es]

theorem Expr.optionFaults_eq_nil : ∀ e : Option Expr,
    Expr.optionFaults tables e = [] ↔ ∀ v, e = some v → Clear tables (.expr v)
  | none => by simp [Expr.optionFaults]
  | some e => by simp [Expr.optionFaults, Expr.faults_eq_nil e]

theorem Item.faults_eq_nil : ∀ i : Item, i.faults tables = [] ↔ Clear tables (.item i)
  | .expr _ value => by
    rw [clear_of_plain (n := .item _) True.intro]
    simp [Item.faults, children, Expr.faults_eq_nil value]
  | .star _ _ => by
    rw [clear_of_plain (n := .item _) True.intro]
    simp [Item.faults, children]

theorem Item.allFaults_eq_nil : ∀ is : List Item,
    Item.allFaults tables is = [] ↔ ∀ i ∈ is, Clear tables (.item i)
  | [] => by simp [Item.allFaults]
  | i :: is => by simp [Item.allFaults, Item.faults_eq_nil i, Item.allFaults_eq_nil is]

theorem OrderKey.allFaults_eq_nil : ∀ ks : List OrderKey,
    OrderKey.allFaults tables ks = [] ↔ ∀ k ∈ ks, Clear tables (.key k)
  | [] => by simp [OrderKey.allFaults]
  | .mk value _ _ :: ks => by
    rw [List.forall_mem_cons, clear_of_plain (n := .key _) True.intro]
    simp [OrderKey.allFaults, children, Expr.faults_eq_nil value, OrderKey.allFaults_eq_nil ks]

theorem Query.faults_eq_nil : ∀ q : Query,
    q.shapeFaults ++ q.faults tables = [] ↔ Clear tables (.query q)
  | .mk _ ctes body orderBy limit offset fetch locks _ => by
    have hctes := Cte.faults_eq_nil ctes
    have hbody := Body.faults_eq_nil body
    rw [clear_iff]
    simp only [Query.shapeFaults, Query.faults, children, List.append_eq_nil_iff,
      OrderKey.allFaults_eq_nil orderBy, Expr.optionFaults_eq_nil limit,
      Expr.optionFaults_eq_nil offset, Expr.optionFaults_eq_nil fetch]
    simp only [Plain, List.forall_mem_append, List.forall_mem_map, List.forall_mem_singleton,
      Option.mem_toList, ← hctes]
    have hlocks : (if locks.isEmpty = true then [] else [Refusal.locking]) = [] ↔ locks = [] := by
      cases locks <;> simp
    rw [hlocks]
    constructor
    · rintro ⟨⟨⟨hunlocked, hshapes⟩, hshape⟩, ⟨⟨⟨⟨hwithin, hinner⟩, horder⟩, hlimit⟩, hoffset⟩, hfetch⟩
      obtain ⟨hplain, hclear⟩ := hbody.mp ⟨hshape, hinner⟩
      exact ⟨⟨hunlocked, hplain⟩,
        ⟨⟨⟨⟨⟨hshapes, hwithin⟩, hclear⟩, horder⟩, hlimit⟩, hoffset⟩, hfetch⟩
    · rintro ⟨⟨hunlocked, hplain⟩,
        ⟨⟨⟨⟨⟨hshapes, hwithin⟩, hclear⟩, horder⟩, hlimit⟩, hoffset⟩, hfetch⟩
      obtain ⟨hshape, hinner⟩ := hbody.mpr ⟨hplain, hclear⟩
      exact ⟨⟨⟨hunlocked, hshapes⟩, hshape⟩,
        ⟨⟨⟨⟨hwithin, hinner⟩, horder⟩, hlimit⟩, hoffset⟩, hfetch⟩

theorem Cte.faults_eq_nil : ∀ cs : List Cte,
    Cte.shapeFaults cs = [] ∧ Cte.faults tables cs = [] ↔ ∀ c ∈ cs, Clear tables (.cte c)
  | [] => by simp [Cte.shapeFaults, Cte.faults]
  | .mk _ query _ :: cs => by
    have hquery := Query.faults_eq_nil query
    rw [List.forall_mem_cons, ← Cte.faults_eq_nil cs, clear_of_plain (n := .cte _) True.intro]
    simp only [Cte.shapeFaults, Cte.faults, children, List.append_eq_nil_iff,
      List.forall_mem_singleton, ← hquery]
    tauto

theorem Body.faults_eq_nil : ∀ b : Body,
    b.shapeFaults = [] ∧ b.faults tables = [] ↔ PlainBody b ∧ Clear tables (.body b)
  | .select select => by
    rw [shapeFaults_eq_nil, clear_of_plain (n := .body _) True.intro]
    simp [Body.faults, children, Select.faults_eq_nil select]
  | .query query => by
    rw [clear_of_plain (n := .body _) True.intro]
    simp only [Body.shapeFaults, Body.faults, children, List.forall_mem_singleton,
      ← Query.faults_eq_nil query, List.append_eq_nil_iff]
    exact (and_iff_right (.query query)).symm
  | .setOperation _ _ _ => by
    rw [shapeFaults_eq_nil]
    exact ⟨fun h => (nomatch h.1.1), fun h => (nomatch h.1)⟩
  | .values _ _ => by
    rw [shapeFaults_eq_nil]
    exact ⟨fun h => (nomatch h.1.1), fun h => (nomatch h.1)⟩
  | .other _ => by
    rw [shapeFaults_eq_nil]
    exact ⟨fun h => (nomatch h.1.1), fun h => (nomatch h.1)⟩

theorem Select.faults_eq_nil : ∀ s : Select, s.faults tables = [] ↔ Clear tables (.select s)
  | .mk _ keys top items _ sources views condition _ groupBy clusterBy distributeBy sortBy having
      windows qualify => by
    rw [clear_of_plain (n := .select _) True.intro]
    simp only [Select.faults, children, List.append_eq_nil_iff, List.forall_mem_append,
      List.forall_mem_map, Option.mem_toList, Expr.allFaults_eq_nil keys,
      Expr.optionFaults_eq_nil top, Item.allFaults_eq_nil items, FromItem.allFaults_eq_nil sources,
      Expr.allFaults_eq_nil views, Expr.optionFaults_eq_nil condition,
      Expr.allFaults_eq_nil groupBy, Expr.allFaults_eq_nil clusterBy,
      Expr.allFaults_eq_nil distributeBy, Expr.allFaults_eq_nil sortBy,
      Expr.optionFaults_eq_nil having, Expr.allFaults_eq_nil windows,
      Expr.optionFaults_eq_nil qualify]

theorem FromItem.faults_eq_nil : ∀ f : FromItem, f.faults tables = [] ↔ Clear tables (.fromItem f)
  | .mk source joins => by
    rw [clear_of_plain (n := .fromItem _) True.intro]
    simp [FromItem.faults, children, Source.faults_eq_nil source, Join.allFaults_eq_nil joins]

theorem FromItem.allFaults_eq_nil : ∀ fs : List FromItem,
    FromItem.allFaults tables fs = [] ↔ ∀ f ∈ fs, Clear tables (.fromItem f)
  | [] => by simp [FromItem.allFaults]
  | f :: fs => by simp [FromItem.allFaults, FromItem.faults_eq_nil f, FromItem.allFaults_eq_nil fs]

theorem Source.faults_eq_nil : ∀ s : Source, s.faults tables = [] ↔ Clear tables (.source s)
  | .table name function args hints partitions asName => by
    have hname : Plain tables (.source (.table name function args hints partitions asName)) ↔
        ObjectName.key name ∈ tables :=
      ⟨fun h => by cases h; assumption, fun h => .table name function args hints partitions asName h⟩
    rw [clear_iff, hname]
    simp only [Source.faults, children, List.append_eq_nil_iff, List.forall_mem_append,
      List.forall_mem_map, Item.allFaults_eq_nil args, Expr.allFaults_eq_nil hints]
    by_cases hmem : ObjectName.key name ∈ tables
    · simp [hmem]
    · simp [hmem]
  | .derived lateral query asName => by
    rw [clear_of_plain (n := .source _) (PlainSource.derived lateral query asName)]
    simp only [Source.faults, children, List.forall_mem_singleton, Query.faults_eq_nil query]
  | .nestedJoin item asName => by
    rw [clear_of_plain (n := .source _) (PlainSource.nestedJoin item asName)]
    simp only [Source.faults, children, List.forall_mem_singleton, FromItem.faults_eq_nil item]
  | .foreign _ => by
    rw [clear_iff]
    simp only [Source.faults, List.cons_ne_nil, false_iff]
    exact fun h => nomatch h.1

theorem Join.allFaults_eq_nil : ∀ js : List Join,
    Join.allFaults tables js = [] ↔ ∀ j ∈ js, Clear tables (.join j)
  | [] => by simp [Join.allFaults]
  | .mk _ _ source on _ :: js => by
    rw [List.forall_mem_cons, clear_of_plain (n := .join _) True.intro]
    simp [Join.allFaults, children, Source.faults_eq_nil source, Expr.optionFaults_eq_nil on,
      Join.allFaults_eq_nil js, and_assoc]

end

end ScopedQuery.Sql
