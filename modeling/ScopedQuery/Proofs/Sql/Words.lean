import ScopedQuery.Proofs.Sql.Lexeme
import ScopedQuery.Proofs.Sql.Reading.Operand
/-!
# The words of a SELECT

* `phraseWords` and `phraseNames` are the words that a bound query is written with. The former are
  keywords, the latter are not.
* `Lexeme.tokensOf_known`: lexemes with these words are read without looking at other keywords.
-/

namespace ScopedQuery.Sql

/-- The keywords of a SELECT. -/
def phraseWords : List String :=
  ["SELECT", "AS", "FROM", "LEFT", "JOIN", "ON", "AND", "WHERE", "GROUP", "ORDER", "BY", "LIMIT", "IN",
   "BETWEEN", "COUNT", "DISTINCT", "SUM", "AVG", "MIN", "MAX", "CAST", "INTEGER", "DAY", "ASC",
   "DESC"]

/-- The names of tables, columns and functions in a SELECT. -/
def phraseNames : List String :=
  ["t", "u", "b", "id", "batch_id", "title", "status", "assignee_id", "username", "created_by",
   "published_time", "workload_man_day", "project_task", "sys_user", "project_task_batch", "deleted",
   "julianday", "TIMESTAMPDIFF", "NOW"]

theorem ofWord?_phraseWords : ∀ w ∈ phraseWords, Keyword.ofWord? w = some w := by decide +kernel

theorem ofWord?_phraseNames : ∀ w ∈ phraseNames, Keyword.ofWord? w = none := by decide +kernel

/-- The token of a word, if it is one of these. -/
def knownWord? (text : String) : Option Token :=
  if phraseWords.contains text then some (.reserved text)
  else if phraseNames.contains text then some (.name text)
  else none

theorem ofWord_known {text : String} {t : Token} (h : knownWord? text = some t) :
    Token.ofWord text = t := by
  unfold knownWord? at h
  split at h
  · next hword =>
    obtain rfl := Option.some.inj h
    rw [Token.ofWord, ofWord?_phraseWords text (by simpa using hword), Token.reserved]
  · split at h
    · next hname =>
      obtain rfl := Option.some.inj h
      rw [Token.ofWord, ofWord?_phraseNames text (by simpa using hname), Token.name]
    · cases h

namespace Lexeme

/-- The tokens of lexemes, if all words are among these. -/
def known? : List Lexeme → Option (List Token)
  | [] => some []
  | word text :: ls => do
    let t ← knownWord? text
    return t :: (← known? ls)
  | l :: ls => (known? ls).map (l.token?.toList ++ ·)

theorem tokensOf_known {ls : List Lexeme} {ts : List Token} (h : known? ls = some ts) :
    tokensOf ls = ts := by
  induction ls generalizing ts with
  | nil => exact Option.some.inj h
  | cons l ls ih =>
    have hplain : ∀ {us : List Token}, (known? ls).map (us ++ ·) = some ts →
        ts = us ++ tokensOf ls := by
      intro us hmap
      obtain ⟨vs, hvs, rfl⟩ := Option.map_eq_some_iff.mp hmap
      rw [ih hvs]
    cases l with
    | word text =>
      simp only [known?, Option.bind_eq_bind, Option.bind_eq_some_iff, Option.pure_def,
        Option.some.injEq] at h
      obtain ⟨t, ht, us, hus, rfl⟩ := h
      rw [tokensOf_cons, token?, ofWord_known ht, ih hus]
      rfl
    | _ =>
      rw [tokensOf_cons]
      exact (hplain h).symm

end Lexeme

end ScopedQuery.Sql
