import ScopedQuery.Failure
import ScopedQuery.Proofs.Sql.Calm.Statement
import ScopedQuery.Proofs.Sql.Nodes
/-!
# Accepted texts

What the safety check accepts.

* `OneQuery` holds of the statements of a text that are a single query with plain nodes only.
* `checkSafe_eq_ok_iff`: a text is accepted just if it is not blank and its normalised form is read as
  such a query.
* `checkSafe_exact` says this of a whitelist, and that every other text is refused as unsafe or makes the
  check crash, the latter only with one of a few keywords, each of which `checkSafe_crashed` has a text for.
-/

namespace ScopedQuery.Sql

/-- There is one statement, and it is a query all of whose nodes are plain. -/
def OneQuery (tables : List String) (statements : List Statement) : Prop :=
  ∃ q, statements = [.query q] ∧ Node.Clear tables (.query q)

theorem Statement.faults_eq_nil {tables : List String} {s : Statement} :
    s.faults tables = [] ↔ OneQuery tables [s] := by
  cases s with
  | query q =>
    rw [Statement.faults, Query.faults_eq_nil]
    constructor
    · intro h
      exact ⟨q, rfl, h⟩
    · rintro ⟨q', hq, h⟩
      obtain rfl : q = q' := by simpa using hq
      exact h
  | other =>
    simp only [Statement.faults, List.cons_ne_nil, false_iff]
    rintro ⟨q, hq, -⟩
    simp at hq
  | explain =>
    simp only [Statement.faults, List.cons_ne_nil, false_iff]
    rintro ⟨q, hq, -⟩
    simp at hq

theorem checkStatements_eq_ok_iff {tables : List String} {ss : List Statement} :
    checkStatements tables ss = .ok () ↔ OneQuery tables ss := by
  match ss with
  | [] =>
    simp only [checkStatements, reduceCtorEq, false_iff]
    rintro ⟨q, hq, -⟩
    simp at hq
  | [s] =>
    rw [← Statement.faults_eq_nil, checkStatements]
    cases s.faults tables with
    | nil => simp
    | cons fault faults => simp
  | s :: t :: ss =>
    simp only [checkStatements, reduceCtorEq, false_iff]
    rintro ⟨q, hq, -⟩
    simp at hq

theorem checkSafe_of_blank {text : String} (h : Text.trim text = "") (tables : List String) :
    checkSafe tables text = .error .blank := by
  rw [checkSafe, if_pos h]
  rfl

/-- What the check of a text that is not blank comes to is what reading it comes to, and the check of the
statements read. -/
theorem checkSafe_of_filled {text : String} (h : Text.trim text ≠ "") (tables : List String) :
    checkSafe tables text =
      ((readStatements (normalised text)).mapError fun _ => .unreadable) >>= fun statements =>
        .ofExcept (checkStatements tables statements) := by
  rw [checkSafe, if_neg h]

theorem checkSafe_eq_ok_iff {tables : List String} {text : String} :
    checkSafe tables text = .ok () ↔
      Text.trim text ≠ "" ∧
        ∃ ss, statements? (normalised text) = some ss ∧ OneQuery tables ss := by
  by_cases hblank : Text.trim text = ""
  · rw [checkSafe_of_blank hblank]
    simp [hblank]
  · rw [checkSafe_of_filled hblank]
    simp [hblank, statements?, checkStatements_eq_ok_iff]

/-- The check crashes where reading the text does, and nowhere else. -/
theorem checkSafe_eq_crashed_iff {tables : List String} {text : String} :
    checkSafe tables text = .crashed ↔
      Text.trim text ≠ "" ∧ readStatements (normalised text) = .crashed := by
  by_cases hblank : Text.trim text = ""
  · rw [checkSafe_of_blank hblank]
    simp [hblank]
  · rw [checkSafe_of_filled hblank, Attempt.bind_eq_crashed]
    simp [hblank]

theorem mem_whitelist {names : List String} {t : String} :
    t ∈ whitelist names ↔ t ∈ names.map Text.toLower := by
  rw [whitelist, Text.mem_sorted]

/-- A node is plain for a list of tables just if it is for any other list with the same tables. -/
theorem Node.plain_congr {ts us : List String} (h : ∀ t, t ∈ ts ↔ t ∈ us) {n : Node} :
    n.Plain ts ↔ n.Plain us := by
  cases n with
  | source s =>
    constructor
    · rintro (⟨_, _, _, _, _, _, hmem⟩ | ⟨_, _, _⟩ | ⟨_, _⟩)
      · exact .table _ _ _ _ _ _ ((h _).mp hmem)
      · exact .derived _ _ _
      · exact .nestedJoin _ _
    · rintro (⟨_, _, _, _, _, _, hmem⟩ | ⟨_, _, _⟩ | ⟨_, _⟩)
      · exact .table _ _ _ _ _ _ ((h _).mpr hmem)
      · exact .derived _ _ _
      · exact .nestedJoin _ _
  | query q => cases q; exact Iff.rfl
  | _ => exact Iff.rfl

/-- A text is accepted just if it is not blank, its normalised form is read as a single query, and
every node at any depth of that query is plain for the names of the whitelist in lower case. Any
other text is refused as unsafe, unless the check crashes: it does where reading the normalised form
does, for which one of the demanding keywords has to stand in it. -/
theorem checkSafe_exact (names : List String) (text : String) :
    (checkSafe (whitelist names) text = .ok () ↔
      Text.trim text ≠ "" ∧ ∃ q, statements? (normalised text) = some [.query q] ∧
        ∀ n, Node.Within n (.query q) → n.Plain (names.map Text.toLower)) ∧
    (checkSafe (whitelist names) text = .crashed ↔
      Text.trim text ≠ "" ∧ readStatements (normalised text) = .crashed) ∧
    (checkSafe (whitelist names) text = .ok () ∨ checkSafe (whitelist names) text = .crashed ∨
      ∃ refusal, (checkSafe (whitelist names) text).mapError Failure.refused =
          .error (.refused refusal) ∧ (Failure.refused refusal).kind = .unsafeSql) ∧
    ((∀ ts ∈ Token.ofText? (normalised text), Harmless ts) →
      checkSafe (whitelist names) text ≠ .crashed) := by
  refine ⟨?_, checkSafe_eq_crashed_iff, ?_, ?_⟩
  · rw [checkSafe_eq_ok_iff]
    refine and_congr_right fun _ => ?_
    constructor
    · rintro ⟨_, hread, q, rfl, hclear⟩
      refine ⟨q, hread, fun n hn => ?_⟩
      exact (Node.plain_congr fun _ => mem_whitelist).mp (hclear n hn)
    · rintro ⟨q, hread, hclear⟩
      refine ⟨_, hread, q, rfl, fun n hn => ?_⟩
      exact (Node.plain_congr fun _ => mem_whitelist).mpr (hclear n hn)
  · cases hcheck : checkSafe (whitelist names) text with
    | ok u => exact .inl rfl
    | error refusal => exact .inr (.inr ⟨refusal, rfl, rfl⟩)
    | crashed => exact .inr (.inl rfl)
  · intro h hcrash
    exact readStatements_ne_crashed h (checkSafe_eq_crashed_iff.mp hcrash).2

theorem checkSafe_exact_of_two_statements :
    checkSafe (whitelist ["Orders"]) "SELECT 1; SELECT 2" ≠ .crashed :=
  (checkSafe_exact ["Orders"] "SELECT 1; SELECT 2").2.2.2 (by decide +kernel)

/-- Each of the demanding keywords makes the check crash where what it demands does not follow. -/
theorem checkSafe_crashed :
    checkSafe (whitelist ["t"]) "SELECT 1 DIV" = .crashed ∧
      checkSafe (whitelist ["t"]) "SELECT TOP 1.5 1" = .crashed ∧
      checkSafe (whitelist ["t"]) "GRANT ALL ON t TO u GRANTED BY" = .crashed ∧
      checkSafe (whitelist ["t"]) "CREATE TABLE t AUTO_INCREMENT 4294967296" = .crashed := by
  refine ⟨?_, ?_, ?_, ?_⟩ <;> decide +kernel

end ScopedQuery.Sql
