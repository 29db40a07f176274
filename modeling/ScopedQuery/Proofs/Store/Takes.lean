import ScopedQuery.Proofs.Steps
import ScopedQuery.Store.Resolution
/-!
# Placeholders of expressions

Placeholders are numbered in the order in which they are written, so that the number of one of them is that
of the placeholders before it.

* `Expr.holes?` counts the placeholders of an expression in which no query stands.
* `Takes f k`: a step of resolution takes `k` placeholders.
* `Term.takes`, `Test.takes` and `Output.takes`: resolving an expression takes those that are in it.
-/

namespace ScopedQuery

namespace Sql

mutual

/-- The number of placeholders in an expression, unless it has a query in it or a placeholder that is not
told by its place. -/
def Expr.holes? : Expr → Option Nat
  | .name _ => some 0
  | .literal (.placeholder name) => if name = "?" then some 1 else none
  | .literal _ => some 0
  | .unary _ operand => operand.holes?
  | .binary _ left right => do return (← left.holes?) + (← right.holes?)
  | .nested inner => inner.holes?
  | .between _ value low high => do return (← value.holes?) + ((← low.holes?) + (← high.holes?))
  | .inList _ value items => do return (← value.holes?) + (← Expr.allHoles? items)
  | .cast _ value _ => value.holes?
  | .case operand conditions results otherwise => do
    return (← Expr.optionHoles? operand) + (← Expr.allHoles? conditions) +
      (← Expr.allHoles? results) + (← Expr.optionHoles? otherwise)
  | .call _ _ args _ window orderBy => do
    return (← Item.allHoles? args) + (← Expr.optionHoles? window) + (← Expr.allHoles? orderBy)
  | .trim _ value what => do return (← value.holes?) + (← Expr.optionHoles? what)
  | .phrase _ operands => Expr.allHoles? operands
  | .inQuery _ _ _ => none
  | .exists _ _ => none
  | .subquery _ => none
  | .arrayQuery _ => none

def Expr.allHoles? : List Expr → Option Nat
  | [] => some 0
  | e :: es => do return (← e.holes?) + (← Expr.allHoles? es)

def Expr.optionHoles? : Option Expr → Option Nat
  | none => some 0
  | some e => e.holes?

def Item.holes? : Item → Option Nat
  | .expr _ value => value.holes?
  | .star _ _ => some 0

def Item.allHoles? : List Item → Option Nat
  | [] => some 0
  | item :: items => do return (← item.holes?) + (← Item.allHoles? items)

end

theorem Expr.holes?_binary {op : BinaryOp} {left right : Expr} {k : Nat} :
    (Expr.binary op left right).holes? = some k ↔
      ∃ l r, left.holes? = some l ∧ right.holes? = some r ∧ l + r = k := by
  simp [Expr.holes?, Option.bind_eq_some_iff]

theorem Expr.allHoles?_cons {e : Expr} {es : List Expr} {k : Nat} :
    Expr.allHoles? (e :: es) = some k ↔
      ∃ l r, e.holes? = some l ∧ Expr.allHoles? es = some r ∧ l + r = k := by
  simp [Expr.allHoles?, Option.bind_eq_some_iff]

theorem Item.allHoles?_cons {item : Item} {items : List Item} {k : Nat} :
    Item.allHoles? (item :: items) = some k ↔
      ∃ l r, item.holes? = some l ∧ Item.allHoles? items = some r ∧ l + r = k := by
  simp [Item.allHoles?, Option.bind_eq_some_iff]

theorem Expr.holes?_call {name : ObjectName} {distinct : Bool} {args : List Item} {treatment : String} :
    (Expr.call name distinct args treatment none []).holes? = Item.allHoles? args := by
  simp [Expr.holes?, Expr.optionHoles?, Expr.allHoles?]

end Sql

namespace Store

open Steps Sql

/-- A step of resolution takes some placeholders. -/
def Takes {α : Type} (f : Resolving α) (k : Nat) : Prop := ∀ n a m, f n = .ok (a, m) → m = n + k

theorem resolving_bind {α β : Type} (f : Resolving α) (g : α → Resolving β) (n : Nat) :
    (f >>= g) n = f n >>= fun r => g r.1 r.2 := rfl

namespace Takes

variable {α β : Type} {k l : Nat}

theorem pure (a : α) : Takes (pure a) 0 := by
  intro n b m h
  cases h
  rfl

theorem refuse (fault : StoreFault) : Takes (refuse (α := α) fault) k := by
  intro n a m h
  cases h

theorem bind {f : Resolving α} {g : α → Resolving β} (hf : Takes f k) (hg : ∀ a, Takes (g a) l) :
    Takes (f >>= g) (k + l) := by
  intro n b m h
  rw [resolving_bind, bind_eq_ok] at h
  obtain ⟨⟨a, n'⟩, ha, hb⟩ := h
  have hfirst := hf n a n' ha
  have hsecond := hg a n' b m hb
  omega

theorem map {f : Resolving α} (hf : Takes f k) (g : α → β) :
    Takes (do return g (← f)) k := hf.bind fun a => pure (g a)

/-- What comes of the elements of a list that take no placeholder, and takes none itself. -/
theorem mapM_zero {f : α → Resolving β} {xs : List α} (h : ∀ x ∈ xs, Takes (f x) 0) :
    Takes (xs.mapM f) 0 := by
  induction xs with
  | nil => exact pure []
  | cons x xs ih =>
    rw [List.mapM_cons]
    exact (h x List.mem_cons_self).bind fun b => (ih fun y hy => h y (List.mem_cons_of_mem x hy)).map _

/-- A list of elements that take no placeholder is worked off from the same count on. -/
theorem mapM_zero_eq_ok {f : α → Resolving β} {xs : List α} {ys : List β} {n m : Nat}
    (h : ∀ x ∈ xs, Takes (f x) 0) (hrun : xs.mapM f n = .ok (ys, m)) :
    List.Forall₂ (fun x y => f x n = .ok (y, n)) xs ys := by
  induction xs generalizing ys m with
  | nil =>
    cases hrun
    exact .nil
  | cons x xs ih =>
    simp only [List.mapM_cons, resolving_bind, bind_eq_ok] at hrun
    obtain ⟨⟨y, n'⟩, hy, ⟨ys', m'⟩, hys, heq⟩ := hrun
    obtain rfl : n' = n + 0 := h x List.mem_cons_self _ _ _ hy
    cases heq
    exact .cons hy (ih (fun z hz => h z (List.mem_cons_of_mem x hz)) hys)

end Takes

/-! ### Terms -/

/-- No placeholder stands in the arguments that ask for the present time. -/
theorem allHoles?_of_areNow {args : List Item} (h : areNow args = true) : Item.allHoles? args = some 0 := by
  unfold areNow at h
  split at h
  · rfl
  · cases h

section

variable (sources : Sources)

theorem Term.takes_all :
    (∀ e k, e.holes? = some k → Takes (Term.ofExpr sources e) k) ∧
      (∀ items k, Item.allHoles? items = some k → Takes (Term.ofArgs sources items) k) ∧
        ∀ item k, item.holes? = some k → Takes (Term.ofItem sources item) k := by
  apply Term.ofExpr.mutual_induct sources
  -- A name, which the sources know or not.
  case case1 =>
    intro parts term hterm k hk
    cases hk
    simp only [Term.ofExpr, hterm]
    exact .pure term
  case case2 =>
    intro parts fault hfault k hk
    simp only [Term.ofExpr, hfault]
    exact .refuse fault
  -- A placeholder.
  case case3 =>
    intro name k hk n a m h
    rw [Expr.holes?, Option.ite_none_right_eq_some] at hk
    cases hk.2
    cases h
    rfl
  -- Another literal.
  case case4 =>
    intro value hvalue cell hcell k hk
    simp only [Term.ofExpr, hcell]
    obtain rfl : 0 = k := by
      cases value with
      | placeholder name => exact absurd rfl (hvalue name)
      | _ => exact Option.some.inj hk
    exact .pure _
  case case5 =>
    intro value hvalue fault hfault k hk
    simp only [Term.ofExpr, hfault]
    exact .refuse fault
  -- Parentheses, a difference and a cast.
  case case6 =>
    intro inner ih k hk
    rw [Term.ofExpr]
    exact ih k hk
  case case7 =>
    intro left right hleft hright k hk
    obtain ⟨l, r, hl, hr, rfl⟩ := Expr.holes?_binary.mp hk
    rw [Term.ofExpr]
    exact (hleft l hl).bind fun a => (hright r hr).map _
  case case8 =>
    intro value ih k hk
    rw [Term.ofExpr]
    exact (ih k hk).map _
  -- A call, of which the arguments can ask for the present time.
  case case9 =>
    intro name args hname hnow k hk
    rw [Expr.holes?_call, allHoles?_of_areNow hnow] at hk
    cases hk
    simp only [Term.ofExpr, hname, hnow, if_true]
    exact .pure _
  case case10 =>
    intro name args hname hnow ih k hk
    rw [Expr.holes?_call] at hk
    simp only [Term.ofExpr, hname, hnow, if_true, Bool.false_eq_true, if_false]
    refine (ih k hk).bind (l := 0) fun terms => ?_
    split
    · exact .pure _
    · exact .refuse _
  case case11 =>
    intro name args hname k hk
    simp only [Term.ofExpr, hname]
    exact .refuse _
  -- No other expression is a term.
  case case12 =>
    intro e _ _ _ _ _ _ _ k hk
    simp only [Term.ofExpr, *]
    exact .refuse _
  -- An item, and a list of them.
  case case13 =>
    intro label value ih k hk
    rw [Term.ofItem]
    exact ih k hk
  case case14 =>
    intro label qualifier k hk
    rw [Term.ofItem]
    exact .refuse _
  case case15 =>
    intro k hk
    cases hk
    rw [Term.ofArgs]
    exact .pure []
  case case16 =>
    intro item items hitem hitems k hk
    obtain ⟨l, r, hl, hr, rfl⟩ := Item.allHoles?_cons.mp hk
    rw [Term.ofArgs]
    exact (hitem l hl).bind fun term => (hitems r hr).map _

variable {sources} {k : Nat}

theorem Term.takes {e : Expr} (h : e.holes? = some k) : Takes (Term.ofExpr sources e) k :=
  (Term.takes_all sources).1 e k h

/-! ### Tests -/

theorem Term.takes_list {es : List Expr} (h : Expr.allHoles? es = some k) :
    Takes (es.mapM (Term.ofExpr sources)) k := by
  induction es generalizing k with
  | nil =>
    cases h
    exact .pure []
  | cons e es ih =>
    obtain ⟨l, r, hl, hr, rfl⟩ := Expr.allHoles?_cons.mp h
    rw [List.mapM_cons]
    exact (Term.takes hl).bind fun term => (ih hr).map _

theorem Test.takes_terms {e : Expr} (h : e.holes? = some k) : Takes (Test.ofTerms sources e) k := by
  unfold Test.ofTerms
  split
  · next op left right =>
    obtain ⟨l, r, hl, hr, rfl⟩ := Expr.holes?_binary.mp h
    split
    · exact .refuse _
    · exact (Term.takes hl).bind fun a => (Term.takes hr).map _
  · next negated value low high =>
    simp only [Expr.holes?, Option.bind_eq_bind, Option.bind_eq_some_iff, Option.pure_def,
      Option.some.injEq] at h
    obtain ⟨v, hv, l, hl, r, hr, rfl⟩ := h
    exact (Term.takes hv).bind fun a => (Term.takes hl).bind fun b => (Term.takes hr).map _
  · next negated value items =>
    simp only [Expr.holes?, Option.bind_eq_bind, Option.bind_eq_some_iff, Option.pure_def,
      Option.some.injEq] at h
    obtain ⟨v, hv, l, hl, rfl⟩ := h
    exact (Term.takes hv).bind fun a => (Term.takes_list hl).map _
  · next value =>
    obtain ⟨l, r, hl, hr, rfl⟩ := Expr.allHoles?_cons.mp h
    cases hr
    exact (Term.takes hl).map _
  · next value =>
    obtain ⟨l, r, hl, hr, rfl⟩ := Expr.allHoles?_cons.mp h
    cases hr
    exact (Term.takes hl).map _
  · exact .refuse _

/-- A condition takes the placeholders that are in it. -/
theorem Test.takes {e : Expr} (h : e.holes? = some k) : Takes (Test.ofExpr sources e) k := by
  induction e using Test.ofExpr.induct generalizing k with
  | case1 inner ih =>
    rw [Test.ofExpr]
    exact ih h
  | case2 operand ih =>
    rw [Test.ofExpr]
    exact (ih h).map _
  | case3 left right hl hr =>
    obtain ⟨l, r, hleft, hright, rfl⟩ := Expr.holes?_binary.mp h
    rw [Test.ofExpr]
    exact (hl hleft).bind fun a => (hr hright).map _
  | case4 left right hl hr =>
    obtain ⟨l, r, hleft, hright, rfl⟩ := Expr.holes?_binary.mp h
    rw [Test.ofExpr]
    exact (hl hleft).bind fun a => (hr hright).map _
  | case5 e _ _ _ _ =>
    simp only [Test.ofExpr, *]
    exact Test.takes_terms h

/-! ### Outputs -/

/-- What is shown takes the placeholders that are in it. -/
theorem Output.takes {e : Expr} (h : e.holes? = some k) : Takes (Output.ofExpr sources e) k := by
  unfold Output.ofExpr
  split
  · next name distinct args =>
    split
    · exact (Term.takes h).map _
    · next agg _ =>
      rw [Expr.holes?_call] at h
      split
      · cases h
        split
        · exact .pure _
        · exact .refuse _
      · next value =>
        obtain ⟨l, r, hl, hr, rfl⟩ := Item.allHoles?_cons.mp h
        cases hr
        exact (Term.takes hl).map _
      · exact .refuse _
  · exact (Term.takes h).map _

theorem NamedOutput.takes {e : Expr} (h : e.holes? = some k) (label : Ident) :
    Takes (NamedOutput.ofItem sources (.expr (some label) e)) k := by
  rw [NamedOutput.ofItem]
  exact (Output.takes h).map _

end

end Store

end ScopedQuery
