import ScopedQuery.Proofs.Text.Collapse
import ScopedQuery.Proofs.Text.Trim
/-!
# Neat texts

* `Neat` texts start and end with a character that is no blank, and their blanks are single spaces.
* `Neat.append`, `Neat.spaced` and `Neat.intercalate`: what is put together from neat texts is neat, as
  are numbers (`neat_toString`).
* `Neat.collapse`: collapsing leaves a neat text as it is.
-/

namespace ScopedQuery.Text

/-- A text whose blanks are single spaces, none of them at an end. -/
structure Neat (s : String) : Prop where
  first : s.toList.head?.any (!isBlank ·) = true
  last : s.toList.getLast?.any (!isBlank ·) = true
  tight : Tight s.toList

instance (s : String) : Decidable (Neat s) :=
  have : Decidable (Tight s.toList) := inferInstanceAs (Decidable (squeeze false s.toList = s.toList))
  decidable_of_iff (s.toList.head?.any (!isBlank ·) = true ∧
      s.toList.getLast?.any (!isBlank ·) = true ∧ Tight s.toList)
    ⟨fun h => ⟨h.1, h.2.1, h.2.2⟩, fun h => ⟨h.first, h.last, h.tight⟩⟩

/-- A space between two characters that are no blanks is kept. -/
theorem squeeze_space {cs : List Char} (h : cs.head?.any (!isBlank ·) = true) :
    squeeze false (' ' :: cs) = ' ' :: squeeze false cs := by
  cases cs with
  | nil => cases h
  | cons c cs =>
    have hc : isBlank c = false := by simpa using h
    rw [squeeze_blank (by decide), squeeze_gap_filled hc, squeeze_filled hc]

namespace Neat

variable {a b : String}

theorem last_eq (h : Neat a) : ∃ c, a.toList.getLast? = some c ∧ isBlank c = false := by
  obtain ⟨c, hc, hblank⟩ := Option.any_eq_true _ _ |>.mp h.last
  exact ⟨c, hc, by simpa using hblank⟩

theorem first_eq (h : Neat a) : ∃ c, a.toList.head? = some c ∧ isBlank c = false := by
  obtain ⟨c, hc, hblank⟩ := Option.any_eq_true _ _ |>.mp h.first
  exact ⟨c, hc, by simpa using hblank⟩

/-- Characters between neat texts that squeezing keeps before the second one. -/
theorem linked (ha : Neat a) (hb : Neat b) {s : String}
    (hs : squeeze false (s.toList ++ b.toList) = s.toList ++ b.toList) : Neat (a ++ s ++ b) := by
  obtain ⟨c, hc, hblank⟩ := ha.last_eq
  obtain ⟨d, hd, -⟩ := ha.first_eq
  obtain ⟨e, he, -⟩ := hb.last_eq
  refine ⟨?_, ?_, ?_⟩
  · rw [String.toList_append, String.toList_append, List.append_assoc, List.head?_append, hd,
      Option.some_or, ← hd]
    exact ha.first
  · rw [String.toList_append, List.getLast?_append, he, Option.some_or, ← he]
    exact hb.last
  · rw [Tight, String.toList_append, String.toList_append, List.append_assoc,
      squeeze_append hc hblank, hs, ha.tight]

theorem append (ha : Neat a) (hb : Neat b) : Neat (a ++ b) := by
  have hlinked := ha.linked (s := "") hb hb.tight
  rwa [String.append_empty] at hlinked

theorem spaced (ha : Neat a) (hb : Neat b) : Neat (a ++ " " ++ b) :=
  ha.linked hb ((squeeze_space hb.first).trans (congrArg _ hb.tight))

/-- A word with a space on each side of it between neat texts. -/
theorem around {w : String} (ha : Neat a) (hw : Neat w) (hb : Neat b) :
    Neat (a ++ (" " ++ w ++ " ") ++ b) := by
  rw [← String.append_assoc, ← String.append_assoc]
  exact (ha.spaced hw).spaced hb

/-- Neat texts with a separator between them. -/
theorem intercalate {sep : String} (hsep : ∀ a b, Neat a → Neat b → Neat (a ++ sep ++ b))
    {texts : List String} (hne : texts ≠ []) (h : ∀ t ∈ texts, Neat t) :
    Neat (String.intercalate sep texts) := by
  induction texts with
  | nil => exact absurd rfl hne
  | cons t texts ih =>
    have ht := h t List.mem_cons_self
    cases texts with
    | nil => rwa [String.intercalate_singleton]
    | cons u texts =>
      rw [String.intercalate_cons_cons]
      exact hsep t _ ht (ih (List.cons_ne_nil u texts) fun x hx => h x (List.mem_cons_of_mem t hx))

/-- Collapsing leaves a neat text as it is. -/
theorem collapse (h : Neat a) : collapse a = a := by
  obtain ⟨c, hc, hblank⟩ := h.first_eq
  have hstart : trimStart a.toList = a.toList := by
    cases hlist : a.toList with
    | nil => rfl
    | cons d ds =>
      rw [hlist, List.head?_cons, Option.some.injEq] at hc
      rw [hc, trimStart, List.dropWhile_cons_of_neg (by simp [hblank])]
  rw [← String.toList_inj, toList_collapse, hstart, h.tight]

end Neat

/-- Neat texts with commas between them. -/
theorem Neat.commas {texts : List String} (hne : texts ≠ []) (h : ∀ t ∈ texts, Neat t) :
    Neat (String.intercalate ", " texts) := by
  refine Neat.intercalate (fun a b ha hb => ?_) hne h
  have hsep : ", " = "," ++ " " := by decide
  rw [hsep, ← String.append_assoc]
  exact (ha.append (by decide)).spaced hb

/-- Characters that are no blanks make a neat text. -/
theorem neat_of_filled {s : String} (hne : s ≠ "") (h : ∀ c ∈ s.toList, isBlank c = false) :
    Neat s := by
  have hlist : s.toList ≠ [] := by simpa using hne
  refine ⟨?_, ?_, tight_of_filled h⟩
  · rw [List.head?_eq_some_head hlist]
    simpa using h _ (List.head_mem hlist)
  · rw [List.getLast?_eq_some_getLast hlist]
    simpa using h _ (List.getLast_mem hlist)

theorem neat_toString (n : Nat) : Neat (toString n) := by
  have hdigits := List.all_eq_true.mp (all_isDigit_toString n)
  refine neat_of_filled ?_ fun c hc => isBlank_of_isDigit (hdigits c hc)
  intro hempty
  have hlist := congrArg String.toList hempty
  rw [Nat.toString_eq_repr, Nat.toList_repr] at hlist
  exact Nat.toDigits_ne_nil hlist

end ScopedQuery.Text
