import Mathlib.Algebra.Ring.Nat
import Mathlib.Data.List.Forall2
/-!
# Steps that can fail

What a chain of steps in `Except` has done when it came to a result, or failed.

* `bind_eq_ok` takes a chain apart into its steps, `unless_eq_ok` passes a check on the way, and
  `mapError_eq_ok` looks behind a translated fault.
* `mapM_eq_ok` says that a list is worked off element by element: each result stands at the place of
  the element that it was made of.
* `bind_eq_error`, `mapError_eq_error` and `mapM_eq_error` say where a failure comes from, and
  `FailsOnly` that each failure of a chain has a property.
* `Both R x y`: two chains fail alike, or come to results that are related.
-/

namespace ScopedQuery.Steps

variable {ε ε' α β : Type}

@[simp] theorem bind_eq_ok {x : Except ε α} {f : α → Except ε β} {b : β} :
    (x >>= f) = .ok b ↔ ∃ a, x = .ok a ∧ f a = .ok b := by
  cases x with
  | error e => simp [bind, Except.bind]
  | ok a => simp [bind, Except.bind]

theorem ok_bind (a : α) (f : α → Except ε β) : (Except.ok a >>= f) = f a := rfl

theorem error_bind (e : ε) (f : α → Except ε β) : (Except.error e >>= f) = .error e := rfl

@[simp] theorem pure_eq_ok {a b : α} : (pure a : Except ε α) = .ok b ↔ a = b := by
  simp [pure, Except.pure]

@[simp] theorem throw_eq_ok {e : ε} {a : α} : (throw e : Except ε α) = .ok a ↔ False := by
  simp [throw, throwThe, MonadExceptOf.throw]

@[simp] theorem map_eq_ok {x : Except ε α} {f : α → β} {b : β} :
    (f <$> x) = .ok b ↔ ∃ a, x = .ok a ∧ f a = b := by
  cases x with
  | error e => simp [Functor.map, Except.map]
  | ok a => simp [Functor.map, Except.map]

/-- A step that may give up first came to a result only if it did not. -/
@[simp] theorem unless_eq_ok {c : Prop} [Decidable c] {e : ε} {f : α → Except ε β}
    {x : Except ε β} {b : β} :
    (if c then throw e >>= f else x) = .ok b ↔ ¬c ∧ x = .ok b := by
  by_cases hc : c <;> simp [hc]

@[simp] theorem mapError_eq_ok {f : ε → ε'} {x : Except ε α} {a : α} :
    x.mapError f = .ok a ↔ x = .ok a := by
  cases x <;> simp [Except.mapError]

/-- A list is worked off when each of its elements is. -/
theorem mapM_eq_ok {f : α → Except ε β} {xs : List α} {ys : List β} :
    xs.mapM f = .ok ys ↔ List.Forall₂ (fun x y => f x = .ok y) xs ys := by
  induction xs generalizing ys with
  | nil => simp [pure, Except.pure, eq_comm]
  | cons x xs ih =>
    simp only [List.mapM_cons, bind_eq_ok, pure_eq_ok, List.forall₂_cons_left_iff, ih]
    constructor
    · rintro ⟨y, hy, zs, hzs, rfl⟩
      exact ⟨y, zs, hy, hzs, rfl⟩
    · rintro ⟨y, zs, hy, hzs, rfl⟩
      exact ⟨y, hy, zs, hzs, rfl⟩

/-- Lists whose elements go alike are worked off alike. -/
theorem mapM_congr {γ : Type} {f : α → Except ε γ} {g : β → Except ε γ} {xs : List α} {ys : List β}
    (h : List.Forall₂ (fun x y => f x = g y) xs ys) : xs.mapM f = ys.mapM g := by
  induction h with
  | nil => rfl
  | cons hfirst _ ih => rw [List.mapM_cons, List.mapM_cons, hfirst, ih]

/-- Lists whose elements go alike give the same results. -/
theorem results_eq {γ : Type} {f : α → Except ε γ} {g : β → Except ε γ} {xs : List α} {ys : List β}
    {as bs : List γ} (h : List.Forall₂ (fun x y => f x = g y) xs ys)
    (hxs : List.Forall₂ (fun x a => f x = .ok a) xs as)
    (hys : List.Forall₂ (fun y b => g y = .ok b) ys bs) : as = bs := by
  have hsame := mapM_congr h
  rw [mapM_eq_ok.mpr hxs, mapM_eq_ok.mpr hys] at hsame
  exact Except.ok.inj hsame

/-! ### Failures -/

/-- A chain fails with the failure of its first step or of what comes after it. -/
theorem bind_eq_error {x : Except ε α} {f : α → Except ε β} {e : ε} :
    (x >>= f) = .error e ↔ x = .error e ∨ ∃ a, x = .ok a ∧ f a = .error e := by
  cases x with
  | error e' => simp [bind, Except.bind]
  | ok a => simp [bind, Except.bind]

theorem mapError_eq_error {f : ε → ε'} {x : Except ε α} {e' : ε'} :
    x.mapError f = .error e' ↔ ∃ e, x = .error e ∧ f e = e' := by
  cases x with
  | error e => simp [Except.mapError]
  | ok a => simp [Except.mapError]

/-- A list is worked off if each of its elements can be. -/
theorem exists_mapM_eq_ok {f : α → Except ε β} {xs : List α} (h : ∀ x ∈ xs, ∃ y, f x = .ok y) :
    ∃ ys, xs.mapM f = .ok ys := by
  induction xs with
  | nil => exact ⟨[], rfl⟩
  | cons x xs ih =>
    obtain ⟨y, hy⟩ := h x List.mem_cons_self
    obtain ⟨ys, hys⟩ := ih fun z hz => h z (List.mem_cons_of_mem x hz)
    exact ⟨y :: ys, by simp [List.mapM_cons, hy, hys]⟩

/-- A list fails with the failure of its first element that fails. -/
theorem mapM_eq_error {f : α → Except ε β} {xs : List α} {e : ε} :
    xs.mapM f = .error e ↔
      ∃ before x after, xs = before ++ x :: after ∧ (∀ z ∈ before, ∃ y, f z = .ok y) ∧
        f x = .error e := by
  induction xs with
  | nil => simp [pure, Except.pure]
  | cons x xs ih =>
    rw [List.mapM_cons, bind_eq_error]
    constructor
    · rintro (hx | ⟨y, hy, hrest⟩)
      · exact ⟨[], x, xs, rfl, List.forall_mem_nil _, hx⟩
      · obtain hxs | ⟨ys, -, hpure⟩ := bind_eq_error.mp hrest
        · obtain ⟨before, z, after, rfl, hbefore, hz⟩ := ih.mp hxs
          exact ⟨x :: before, z, after, rfl, List.forall_mem_cons.mpr ⟨⟨y, hy⟩, hbefore⟩, hz⟩
        · cases hpure
    · rintro ⟨before, z, after, hxs, hbefore, hz⟩
      cases before with
      | nil =>
        obtain ⟨rfl, rfl⟩ := List.cons.inj hxs
        exact .inl hz
      | cons b before =>
        obtain ⟨rfl, rfl⟩ := List.cons.inj hxs
        obtain ⟨⟨y, hy⟩, hbefore⟩ := List.forall_mem_cons.mp hbefore
        exact .inr ⟨y, hy, bind_eq_error.mpr (.inl (ih.mpr ⟨before, z, after, rfl, hbefore, hz⟩))⟩

/-- Whenever a chain fails, its failure has a property. -/
def FailsOnly (P : ε → Prop) (x : Except ε α) : Prop := ∀ e, x = .error e → P e

namespace FailsOnly

variable {P : ε → Prop}

theorem ok (a : α) : FailsOnly P (.ok a : Except ε α) := by
  intro e h
  cases h

theorem error {e : ε} (h : P e) : FailsOnly P (.error e : Except ε α) := by
  intro e' he
  exact Except.error.inj he ▸ h

theorem bind {x : Except ε α} {f : α → Except ε β} (hx : FailsOnly P x)
    (hf : ∀ a, FailsOnly P (f a)) : FailsOnly P (x >>= f) := by
  intro e h
  obtain hfirst | ⟨a, -, hrest⟩ := bind_eq_error.mp h
  · exact hx e hfirst
  · exact hf a e hrest

theorem mapM {f : α → Except ε β} (hf : ∀ a, FailsOnly P (f a)) (xs : List α) :
    FailsOnly P (xs.mapM f) := by
  intro e h
  obtain ⟨_, a, _, -, -, ha⟩ := mapM_eq_error.mp h
  exact hf a e ha

end FailsOnly

/-! ### Two chains side by side -/

/-- Two chains of steps fail with the same error, or both come to a result and these are related. -/
def Both (R : α → β → Prop) : Except ε α → Except ε β → Prop
  | .ok a, .ok b => R a b
  | .error e, .error f => e = f
  | _, _ => False

namespace Both

variable {γ δ : Type} {R : α → β → Prop} {S : γ → δ → Prop}

theorem ok {a : α} {b : β} (h : R a b) : Both R (.ok a : Except ε α) (.ok b) := h

theorem imp {x : Except ε α} {y : Except ε β} (h : Both R x y) {T : α → β → Prop}
    (hRT : ∀ a b, R a b → T a b) : Both T x y := by
  unfold Both at h ⊢
  split at h
  · exact hRT _ _ h
  · exact h
  · exact h.elim

/-- Chains that come to the same after a function fail alike, and their results agree on it. -/
theorem of_map_eq {x : Except ε α} {y : Except ε β} {f : α → γ} {g : β → γ}
    (h : x.map f = y.map g) : Both (fun a b => f a = g b) x y := by
  cases x with
  | error e =>
    cases y with
    | error e' => exact Except.error.inj h
    | ok b => cases h
  | ok a =>
    cases y with
    | error e' => cases h
    | ok b => exact Except.ok.inj h

theorem and {x : Except ε α} {y : Except ε β} (h : Both R x y) {T : α → β → Prop}
    (hT : Both T x y) : Both (fun a b => R a b ∧ T a b) x y := by
  cases x with
  | error e =>
    cases y with
    | error e' => exact h
    | ok b => exact h.elim
  | ok a =>
    cases y with
    | error e' => exact h.elim
    | ok b => exact ⟨h, hT⟩

theorem eq {x y : Except ε α} (h : Both Eq x y) : x = y := by
  cases x with
  | error e =>
    cases y with
    | error e' => exact congrArg Except.error h
    | ok b => exact h.elim
  | ok a =>
    cases y with
    | error e' => exact h.elim
    | ok b => exact congrArg Except.ok h

/-- The results are what the two chains come to. -/
theorem attach {x : Except ε α} {y : Except ε β} (h : Both R x y) :
    Both (fun a b => R a b ∧ x = .ok a ∧ y = .ok b) x y := by
  unfold Both at h ⊢
  split at h
  · exact ⟨h, rfl, rfl⟩
  · exact h
  · exact h.elim

theorem bind {x : Except ε α} {y : Except ε β} (h : Both R x y) {f : α → Except ε γ}
    {g : β → Except ε δ} (hfg : ∀ a b, R a b → Both S (f a) (g b)) : Both S (x >>= f) (y >>= g) := by
  cases x with
  | error e =>
    cases y with
    | error e' => exact h
    | ok b => exact h.elim
  | ok a =>
    cases y with
    | error e' => exact h.elim
    | ok b => exact hfg a b h

/-- After the same step, the two chains only have to go on alike. -/
theorem bind_same {x : Except ε α} {f : α → Except ε γ} {g : α → Except ε δ}
    (hfg : ∀ a, x = .ok a → Both S (f a) (g a)) : Both S (x >>= f) (x >>= g) := by
  cases x with
  | error e => exact rfl
  | ok a => exact hfg a rfl

/-- Two lists are worked off alike if their elements are, one by one. -/
theorem mapM_forall₂ {f : α → Except ε γ} {g : β → Except ε δ} {xs : List α} {ys : List β}
    (h : List.Forall₂ (fun a b => Both S (f a) (g b)) xs ys) :
    Both (List.Forall₂ S) (xs.mapM f) (ys.mapM g) := by
  induction h with
  | nil => exact ok .nil
  | cons hfirst _ ih =>
    rw [List.mapM_cons, List.mapM_cons]
    refine hfirst.bind fun c d hcd => ?_
    exact ih.bind fun cs ds hcds => ok (.cons hcd hcds)

/-- A list is worked off alike in two ways if each of its elements is. -/
theorem mapM {f : α → Except ε γ} {g : α → Except ε δ} {xs : List α}
    (h : ∀ a ∈ xs, Both S (f a) (g a)) : Both (List.Forall₂ S) (xs.mapM f) (xs.mapM g) :=
  mapM_forall₂ (List.forall₂_same.mpr h)

/-- Two chains that may give up first give up alike, or go on alike. -/
theorem check {c : Prop} [Decidable c] {e : ε} {f : PUnit → Except ε α} {g : PUnit → Except ε β}
    {x : Except ε α} {y : Except ε β} (h : ¬c → Both R x y) :
    Both R (if c then throw e >>= f else x) (if c then throw e >>= g else y) := by
  split
  · exact rfl
  · next hc => exact h hc

theorem cases {x : Except ε α} {y : Except ε β} (h : Both R x y) :
    (∃ e, x = .error e ∧ y = .error e) ∨ ∃ a b, x = .ok a ∧ y = .ok b ∧ R a b := by
  unfold Both at h
  split at h
  · exact .inr ⟨_, _, rfl, rfl, h⟩
  · exact .inl ⟨_, rfl, congrArg Except.error h.symm⟩
  · exact h.elim

/-- One chain fails with an error just if the other one does. -/
theorem error_iff {x : Except ε α} {y : Except ε β} (h : Both R x y) {e : ε} :
    x = .error e ↔ y = .error e := by
  obtain ⟨e', rfl, rfl⟩ | ⟨a, b, rfl, rfl, -⟩ := h.cases
  · rw [Except.error.injEq, Except.error.injEq]
  · exact iff_of_false nofun nofun

end Both

/-! ### Places in lists -/

/-- The partner of an element stands at the same place. -/
theorem exists_partner {R : α → β → Prop} {xs : List α} {ys : List β}
    (h : List.Forall₂ R xs ys) {k : Nat} {x : α} (hx : xs[k]? = some x) :
    ∃ y, ys[k]? = some y ∧ R x y := by
  induction h generalizing k with
  | nil => simp at hx
  | cons hab _ ih =>
    cases k with
    | zero =>
      simp only [List.getElem?_cons_zero, Option.some.injEq] at hx
      exact ⟨_, rfl, hx ▸ hab⟩
    | succ k =>
      rw [List.getElem?_cons_succ] at hx ⊢
      exact ih hx

/-- Each element of the second list has a partner in the first. -/
theorem exists_origin {R : α → β → Prop} {xs : List α} {ys : List β} (h : List.Forall₂ R xs ys)
    {y : β} (hy : y ∈ ys) : ∃ x ∈ xs, R x y := by
  obtain ⟨k, hk⟩ := List.mem_iff_getElem?.mp hy
  obtain ⟨x, hx, hxy⟩ := exists_partner h.flip hk
  exact ⟨x, List.mem_of_getElem? hx, hxy⟩

/-- At each place both lists have an element, or neither has one. -/
theorem partners_cases {R : α → β → Prop} {xs : List α} {ys : List β} (h : List.Forall₂ R xs ys)
    (k : Nat) : (xs[k]? = none ∧ ys[k]? = none) ∨ ∃ x y, xs[k]? = some x ∧ ys[k]? = some y ∧ R x y := by
  induction h generalizing k with
  | nil => exact .inl ⟨rfl, rfl⟩
  | cons hfirst _ ih =>
    cases k with
    | zero => exact .inr ⟨_, _, rfl, rfl, hfirst⟩
    | succ k => exact ih k

/-- What is made of related elements is related. -/
theorem related_results {γ δ : Type} {R : α → β → Prop} {F : α → γ → Prop} {G : β → δ → Prop}
    {S : γ → δ → Prop} {xs : List α} {ys : List β} {as : List γ} {bs : List δ}
    (h : List.Forall₂ R xs ys) (hxs : List.Forall₂ F xs as) (hys : List.Forall₂ G ys bs)
    (hS : ∀ x y a b, R x y → F x a → G y b → S a b) : List.Forall₂ S as bs := by
  induction h generalizing as bs with
  | nil =>
    cases hxs
    cases hys
    exact .nil
  | cons hxy _ ih =>
    cases hxs with
    | cons hx hxs =>
      cases hys with
      | cons hy hys => exact .cons (hS _ _ _ _ hxy hx hy) (ih hxs hys)

/-- A list has partners for all of its elements if each element has one. -/
theorem exists_partners_iff {R : α → β → Prop} {xs : List α} :
    (∃ ys, List.Forall₂ R xs ys) ↔ ∀ x ∈ xs, ∃ y, R x y := by
  induction xs with
  | nil => simp
  | cons x xs ih =>
    rw [List.forall_mem_cons, ← ih]
    constructor
    · rintro ⟨_, h⟩
      cases h with
      | cons hx hxs => exact ⟨⟨_, hx⟩, _, hxs⟩
    · rintro ⟨⟨y, hx⟩, ys, hxs⟩
      exact ⟨y :: ys, .cons hx hxs⟩

/-- What two lists have in common element by element is a list between them. -/
theorem exists_between {γ : Type} {R : α → γ → Prop} {S : β → γ → Prop} {xs : List α} {ys : List β}
    (h : List.Forall₂ (fun x y => ∃ z, R x z ∧ S y z) xs ys) :
    ∃ zs, List.Forall₂ R xs zs ∧ List.Forall₂ S ys zs := by
  induction h with
  | nil => exact ⟨[], .nil, .nil⟩
  | cons hfirst _ ih =>
    obtain ⟨z, hx, hy⟩ := hfirst
    obtain ⟨zs, hxs, hys⟩ := ih
    exact ⟨z :: zs, .cons hx hxs, .cons hy hys⟩

/-- An item of a part of a flattened list stands behind the items of the parts before. -/
theorem getElem?_flatMap {f : α → List β} {xs : List α} {k i : Nat} {x : α} {b : β}
    (hx : xs[k]? = some x) (hb : (f x)[i]? = some b) :
    (xs.flatMap f)[((xs.take k).map fun y => (f y).length).sum + i]? = some b := by
  induction xs generalizing k with
  | nil => simp at hx
  | cons y xs ih =>
    cases k with
    | zero =>
      simp only [List.getElem?_cons_zero, Option.some.injEq] at hx
      subst hx
      have hlt : i < (f y).length := (List.getElem?_eq_some_iff.mp hb).1
      simp [List.getElem?_append_left hlt, hb]
    | succ k =>
      rw [List.getElem?_cons_succ] at hx
      simp only [List.take_succ_cons, List.map_cons, List.sum_cons, List.flatMap_cons]
      rw [Nat.add_assoc, List.getElem?_append_right (Nat.le_add_right _ _), Nat.add_sub_cancel_left]
      exact ih hx

/-- A number below a sum belongs to one of the numbers that are added. -/
theorem exists_place {ns : List Nat} {j : Nat} (h : j < ns.sum) :
    ∃ k i n, ns[k]? = some n ∧ i < n ∧ j = (ns.take k).sum + i := by
  induction ns generalizing j with
  | nil => simp at h
  | cons n ns ih =>
    by_cases hj : j < n
    · exact ⟨0, j, n, rfl, hj, by simp⟩
    · rw [List.sum_cons] at h
      obtain ⟨k, i, m, hm, hi, hj'⟩ := ih (j := j - n) (by omega)
      refine ⟨k + 1, i, m, hm, hi, ?_⟩
      rw [List.take_succ_cons, List.sum_cons]
      omega

end ScopedQuery.Steps
