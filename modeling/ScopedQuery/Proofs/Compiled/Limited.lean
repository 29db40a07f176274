import ScopedQuery.Proofs.Compiled.Pinned
import ScopedQuery.Proofs.Query.Limited
import ScopedQuery.Proofs.Settings.Environment
/-!
# The limit of a query that is run

* `BoundQuery.EndsInLimit b n`: the text of a query ends in `LIMIT n`. It does so for one number only.
* `Caller.scope_limit`: scoping leaves the limit of a plan alone.
* `Caller.compile_limited`: a query that is ready ends in the limit that the policy grants of the limit of
  the plan it was made of. Under settings that were accepted, a plan that asks for none has the default one.
-/

namespace ScopedQuery

/-! ### The end of the text -/

/-- The text ends in the clause that lets at most `n` rows through. -/
def BoundQuery.EndsInLimit (b : BoundQuery) (n : Nat) : Prop :=
  ∃ text, b.sql = text ++ " LIMIT " ++ toString n

/-- A number behind a blank can be told from the end of the text. -/
theorem Decimal.eq_of_append_toDigits {xs ys : List Char} {m n : Nat}
    (h : xs ++ ' ' :: Nat.toDigits 10 m = ys ++ ' ' :: Nat.toDigits 10 n) : m = n := by
  have hback : ∀ (zs : List Char) (k : Nat),
      (zs ++ ' ' :: Nat.toDigits 10 k).reverse.takeWhile Char.isDigit = (Nat.toDigits 10 k).reverse := by
    intro zs k
    have hdigits : ∀ c ∈ (Nat.toDigits 10 k).reverse, c.isDigit = true := fun c hc =>
      Nat.isDigit_of_mem_toDigits (by decide) (by decide) (List.mem_reverse.mp hc)
    rw [List.reverse_append, List.reverse_cons, List.append_assoc, List.takeWhile_append_of_pos hdigits]
    simp
  have hsame := congrArg (fun cs => cs.reverse.takeWhile Char.isDigit) h
  rw [hback, hback, List.reverse_inj] at hsame
  rw [← value_toDigits m, hsame, value_toDigits]

theorem BoundQuery.EndsInLimit.unique {b : BoundQuery} {m n : Nat} (hm : b.EndsInLimit m)
    (hn : b.EndsInLimit n) : m = n := by
  obtain ⟨s, hs⟩ := hm
  obtain ⟨t, ht⟩ := hn
  have hword : " LIMIT ".toList = " LIMIT".toList ++ [' '] := rfl
  have hsame := congrArg String.toList (hs.symm.trans ht)
  simp only [String.toList_append, Nat.toString_eq_repr, Nat.toList_repr, hword, List.append_assoc,
    List.singleton_append] at hsame
  rw [← List.append_assoc, ← List.append_assoc] at hsame
  exact Decimal.eq_of_append_toDigits hsame

theorem Query.Written.endsInLimit {q : Query} {d : Dataset} {dialect : Dialect} {c : Clauses}
    (h : q.Written d dialect c) (params : List Param) (columns : List String) :
    (BoundQuery.mk c.sql params columns).EndsInLimit q.limit.toNat := by
  have hword : " LIMIT " = " " ++ "LIMIT " := rfl
  have hnumber : toString c.limit = toString q.limit.toNat := by
    rw [h.limit]
    rfl
  rw [BoundQuery.EndsInLimit, Clauses.sql, Clauses.texts,
    String.intercalate_append_of_ne_nil (by simp) (List.cons_ne_nil _ _), String.intercalate_singleton,
    hnumber, hword]
  exact ⟨_, by simp only [String.append_assoc]; rfl⟩

/-! ### The limit of the plan -/

/-- What may be run of a plan has its limit. -/
theorem Caller.scope_limit {caller : Caller} {registry : Registry} {question : String} {p plan : Plan}
    (h : caller.scope registry question p = .ok ⟨true, plan⟩) : plan.limit = p.limit := by
  simp only [scope] at h
  split at h
  · obtain ⟨-, rfl⟩ := ScopedPlan.mk.inj (Except.ok.inj h)
    rfl
  · split at h
    · cases h
    · split at h
      · obtain ⟨-, rfl⟩ := ScopedPlan.mk.inj (Except.ok.inj h)
        rfl
      · split at h
        · cases h
        · obtain ⟨-, rfl⟩ := ScopedPlan.mk.inj (Except.ok.inj h)
          rfl

/-- A query that is ready ends in the limit that is granted of the limit of its plan. -/
theorem Caller.endsInLimit_of_compile {caller : Caller} {registry : Registry} {limits : Limits}
    {dialect : Dialect} {question : String} {p plan : Plan} {b : BoundQuery}
    (h : caller.compile registry limits dialect question p = .ok (.ready plan b)) :
    b.EndsInLimit (limits.normalize p.limit).toNat := by
  obtain ⟨q, c, hcheck, hwritten, rfl, -⟩ := Caller.compile_written h
  obtain ⟨hscope, -⟩ := Caller.compile_eq_ready.mp h
  obtain ⟨-, -, hchecked⟩ := Plan.check_eq_query.mp hcheck
  rw [← Caller.scope_limit hscope, ← hchecked.limit]
  exact hwritten.endsInLimit c.params q.columns

/-- Settings that agree with each other have a default limit that their own policy grants. -/
theorem Settings.eq_defaultLimit {s : Settings} {asked : Option Int64} {n : Nat}
    (hvalid : s.validate = .ok ()) (hunasked : Limits.Unasked asked) (h : s.limits.Grants asked n) :
    n = s.defaultLimit.toNat := by
  obtain ⟨hpositive, hcapped⟩ := Settings.validate_eq_ok.mp hvalid
  have hstanding := h.standing hunasked
  simp only [Settings.limits, Limits.ceiling] at hstanding
  omega

/-- Under the policy, some caller's plan with this limit is ready with a query that ends in `LIMIT n`. -/
def Limits.Runs (l : Limits) (asked : Option Int64) (n : Nat) : Prop :=
  ∃ caller registry dialect question p plan b,
    Caller.compile caller registry l dialect question p = .ok (.ready plan b) ∧ p.limit = asked ∧
      b.EndsInLimit n

/-- A query that is ready ends in `LIMIT n` for just one `n`, which the policy grants of the limit of the
plan; for a plan with a higher limit it is no less; and for one without a positive limit it is the default
limit of the settings, if these were accepted. -/
theorem Caller.compile_limited {caller : Caller} {registry : Registry} {limits : Limits}
    {dialect : Dialect} {question : String} {p plan : Plan} {b : BoundQuery}
    (h : caller.compile registry limits dialect question p = .ok (.ready plan b)) :
    ∃ n, (∀ m, b.EndsInLimit m ↔ m = n) ∧ limits.Grants p.limit n ∧
      (∀ j k m, p.limit = some j → 1 ≤ j.toInt → j.toInt ≤ k.toInt → limits.Runs (some k) m → n ≤ m) ∧
      ∀ s : Settings, s.limits = limits →
        (s.validate = .ok () ∨ ∃ lookup, Settings.ofLookup lookup = .ok s) →
        Limits.Unasked p.limit → n = s.defaultLimit.toNat := by
  have hends := Caller.endsInLimit_of_compile h
  have hgrants := limits.grants_normalize p.limit
  refine ⟨_, fun m => ⟨fun hm => hm.unique hends, fun hm => hm ▸ hends⟩, hgrants, ?_, ?_⟩
  · rintro j k m hj hpos hjk ⟨caller', registry', dialect', question', p', plan', b', h', hk, hends'⟩
    have hgrants' := limits.grants_normalize p'.limit
    rw [← hends'.unique (Caller.endsInLimit_of_compile h'), hk] at hgrants'
    rw [hj] at hgrants ⊢
    exact hgrants.mono hgrants' hpos hjk
  · rintro s rfl hvalid hunasked
    refine Settings.eq_defaultLimit ?_ hunasked hgrants
    rcases hvalid with hvalid | ⟨lookup, hlookup⟩
    · exact hvalid
    · exact Settings.validate_of_ofLookup hlookup

/-- Where the cap is 80, a plan that asks for no row has the default of 50, one that asks for 7 has 7, and one
that asks for 1000 has 80. -/
theorem Caller.compile_limited_to_80 :
    let root : Caller := ⟨1, "root", .admin⟩
    let lookup (key : String) : Option String := if key = "CHATBI_MAX_LIMIT" then some "80" else none
    let p (limit : Int64) : Plan := {
      dataset := some "task", measures := [{ agg := some "count", field := some "TASK_ID" }]
      limit := some limit }
    ∃ (s : Settings) (b₀ b₁ b₂ : BoundQuery), Settings.ofLookup lookup = .ok s ∧
      root.compile .builtin s.limits .mysql "How many?" (p 0) = .ok (.ready (p 0) b₀) ∧
      root.compile .builtin s.limits .mysql "How many?" (p 7) = .ok (.ready (p 7) b₁) ∧
      root.compile .builtin s.limits .mysql "How many?" (p 1000) = .ok (.ready (p 1000) b₂) ∧
      b₀.EndsInLimit 50 ∧ b₁.EndsInLimit 7 ∧ b₂.EndsInLimit 80 ∧ 7 ≤ 80 := by
  intro root lookup p
  have hready : ∀ limit, ((p limit).bound? .builtin ⟨50, 80⟩ .mysql).isSome →
      ∃ b, root.compile .builtin ⟨50, 80⟩ .mysql "How many?" (p limit) = .ok (.ready (p limit) b) := by
    intro limit hbound
    obtain ⟨b, hb⟩ := Option.isSome_iff_exists.mp hbound
    exact ⟨b, Caller.compile_builtin_eq_ready.mpr ⟨rfl, hb⟩⟩
  have hlookup : Settings.ofLookup lookup = .ok ⟨50, 80, true, 1000⟩ := by decide
  obtain ⟨b₀, h₀⟩ := hready 0 (by decide)
  obtain ⟨b₁, h₁⟩ := hready 7 (by decide +kernel)
  obtain ⟨b₂, h₂⟩ := hready 1000 (by decide +kernel)
  obtain ⟨n₀, hends₀, -, -, hdefault⟩ := Caller.compile_limited h₀
  obtain ⟨n₁, hends₁, hgrants₁, hmono, -⟩ := Caller.compile_limited h₁
  obtain ⟨n₂, hends₂, hgrants₂, -, -⟩ := Caller.compile_limited h₂
  have hunasked : Limits.Unasked (p 0).limit := by
    intro k hk
    obtain rfl : 0 = k := Option.some.inj hk
    decide
  obtain rfl : n₀ = 50 := hdefault _ rfl (.inr ⟨lookup, hlookup⟩) hunasked
  obtain rfl : n₁ = 7 := Int.ofNat.inj (hgrants₁.kept 7 rfl (by decide) (by decide))
  obtain rfl : n₂ = 80 := hgrants₂.cut 1000 rfl (by decide)
  have hle := hmono 7 1000 80 rfl (by decide) (by decide) ⟨_, _, _, _, _, _, _, h₂, rfl, (hends₂ 80).mpr rfl⟩
  exact ⟨_, b₀, b₁, b₂, hlookup, h₀, h₁, h₂, (hends₀ 50).mpr rfl, (hends₁ 7).mpr rfl, (hends₂ 80).mpr rfl,
    hle⟩

end ScopedQuery
