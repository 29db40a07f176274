import ScopedQuery.Proofs.Sql.Accepted
import ScopedQuery.Proofs.Sql.Squeezed.Step
/-!
# Texts that normalising does not change

The safety check reads a text in its normalised form, in which each run of blanks is one space.

* `Transparent` describes the characters in which that hides nothing: blanks between lexemes are those
  of ASCII, blanks within a token are single spaces, and a comment to the end of its line has no token
  behind it.
* `tokens_squeeze_iff`: these are exactly the characters whose tokens are the same when squeezed.
* `checkSafe_of_transparent`: what is accepted of them is a single plain query as it stands, and
  `checkSafe_hidden_table` shows an accepted text that is not.
-/

namespace ScopedQuery.Sql

open Text (isBlank squeeze Tight)
open Token (step tokens afterLine afterComment)

/-- Characters whose tokens are the same once each run of blanks is one space. -/
inductive Transparent : List Char → Prop
  | nil : Transparent []
  | blank {c : Char} {cs : List Char} (blank : isBlank c = true) (ascii : c.toNat < 128)
      (after : Transparent cs) : Transparent (c :: cs)
  | comment {cs rest : List Char} (closed : afterComment 0 ' ' cs = some rest)
      (after : Transparent rest) : Transparent ('/' :: '*' :: cs)
  | line {cs : List Char} (last : tokens (afterLine cs) = some []) : Transparent ('-' :: '-' :: cs)
  | token {c : Char} {cs piece rest : List Char} {t : Token}
      (read : step c cs = some (some t, rest)) (split : c :: cs = piece ++ rest)
      (tight : Tight piece) (after : Transparent rest) : Transparent (c :: cs)

/-! ### Tokens of transparent characters -/

open Token (tokens_cons tokens_blank step_line step_comment)

/-- No token starts with a space, which would be the only blank among tight characters. -/
theorem filled_of_tight_token {c : Char} {cs piece rest : List Char} {t : Token}
    (read : step c cs = some (some t, rest)) (split : c :: cs = piece ++ rest) (tight : Tight piece) :
    isBlank c = false := by
  by_contra hb
  rw [Bool.not_eq_false] at hb
  have hpiece : c ∈ piece := by
    cases piece with
    | nil =>
      have hlen := congrArg List.length split
      have hle := (Token.step_suffix read).length_le
      rw [List.nil_append, List.length_cons] at hlen
      omega
    | cons d ds => exact (List.cons.inj split).1 ▸ List.mem_cons_self
  obtain rfl := tight.eq_space hpiece hb
  rw [Token.step_ascii_blank hb (by decide)] at read
  simp at read

/-- Transparent characters have tokens, and the same ones once they are squeezed. -/
theorem Transparent.tokens_squeeze {cs : List Char} (h : Transparent cs) (hq : '?' ∉ cs) :
    ∃ ts, tokens cs = some ts ∧ tokens (squeeze false cs) = some ts := by
  induction h with
  | nil => exact ⟨[], rfl, rfl⟩
  | @blank c cs hb hascii _ ih =>
    obtain ⟨ts, hts, hsqueezed⟩ := ih fun h => hq (List.mem_cons_of_mem c h)
    refine ⟨ts, ?_, ?_⟩
    · rw [tokens_blank hb hascii, hts]
    · rw [Text.squeeze_blank hb, Token.tokens_squeeze_gap, hsqueezed]
  | @comment cs rest closed _ ih =>
    have hsuffix := Token.afterComment_suffix closed
    obtain ⟨ts, hts, hsqueezed⟩ := ih fun h =>
      hq (List.mem_cons_of_mem _ (List.mem_cons_of_mem _ (hsuffix.subset h)))
    refine ⟨ts, ?_, ?_⟩
    · rw [tokens_cons, step_comment, closed]
      simpa using hts
    · rw [Text.squeeze_filled (by decide), Text.squeeze_filled (by decide), tokens_cons,
        step_comment, Token.afterComment_squeeze closed false (by simp)]
      simpa using hsqueezed
  | @line cs last =>
    refine ⟨[], ?_, ?_⟩
    · rw [tokens_cons, step_line]
      simpa using last
    · rw [Text.squeeze_filled (by decide), Text.squeeze_filled (by decide), tokens_cons,
        step_line, Token.afterLine_squeeze]
      rfl
  | @token c cs piece rest t read split tight _ ih =>
    have hsuffix := Token.step_suffix read
    obtain ⟨ts, hts, hsqueezed⟩ := ih fun h => hq (List.mem_cons_of_mem c (hsuffix.subset h))
    have hc := filled_of_tight_token read split tight
    obtain ⟨p, hp, hkept, -⟩ := Token.step_kept hc (fun h => hq (h ▸ List.mem_cons_self)) read
    obtain rfl : piece = p := List.append_cancel_right (split ▸ hp)
    refine ⟨t :: ts, ?_, ?_⟩
    · rw [tokens_cons, read]
      simp [hts]
    · rw [Text.squeeze_filled hc, tokens_cons, hkept tight]
      simp [hsqueezed]

/-- A blank is skipped if squeezing changes no token: otherwise it is read as a word, for which there is
no place once the blank is a space. -/
theorem ascii_of_tokens {c : Char} {cs : List Char} (hb : isBlank c = true) {ts : List Token}
    (h : tokens (c :: cs) = some ts) (hsqueezed : tokens (squeeze false (c :: cs)) = some ts) :
    c.toNat < 128 := by
  by_contra hascii
  rw [tokens_cons, Token.step_blank hb, if_pos ((Token.startsWord_blank hb).mpr (by omega)),
    Option.bind_some] at h
  obtain ⟨us, -, rfl⟩ := Option.map_eq_some_iff.mp h
  have hword : Token.ofWord (String.ofList ([c] ++ cs.takeWhile Token.continuesWord)) ∈
      (some (Token.wordFrom [c] cs).1).toList ++ us := by simp [Token.wordFrom]
  have hmem := Token.mem_of_mem_tokens hsqueezed hword c (by simp)
  obtain rfl := Text.eq_space_of_mem_squeeze hmem hb
  exact hascii (by decide)

/-- If squeezing changes no token, a comment in front hides none. -/
theorem transparent_of_skip {c : Char} {cs rest : List Char} {ts : List Token} (hb : isBlank c = false)
    (hskip : step c cs = some (none, rest)) (hrest : tokens rest = some ts)
    (hsqueezed : tokens (squeeze false (c :: cs)) = some ts)
    (hnext : tokens (squeeze false rest) = some ts → Transparent rest) : Transparent (c :: cs) := by
  rcases Token.step_skip hb hskip with ⟨ds, rfl, rfl, rfl⟩ | ⟨ds, rfl, rfl, hclosed⟩
  · rw [Text.squeeze_filled (by decide), Text.squeeze_filled (by decide), tokens_cons, step_line,
      Token.afterLine_squeeze] at hsqueezed
    obtain rfl : [] = ts := by simpa using hsqueezed
    exact .line hrest
  · rw [Text.squeeze_filled (by decide), Text.squeeze_filled (by decide), tokens_cons, step_comment,
      Token.afterComment_squeeze hclosed false (by simp)] at hsqueezed
    exact .comment hclosed (hnext (by simpa using hsqueezed))

/-- If squeezing changes no token, the one in front is read off tight characters. -/
theorem transparent_of_token {c : Char} {cs rest : List Char} {t : Token} {ts : List Token}
    (hb : isBlank c = false) (hplaceholder : c ≠ '?') (hread : step c cs = some (some t, rest))
    (hsqueezed : tokens (squeeze false (c :: cs)) = some (t :: ts))
    (hnext : tokens (squeeze false rest) = some ts → Transparent rest) : Transparent (c :: cs) := by
  rw [Text.squeeze_filled hb, tokens_cons] at hsqueezed
  obtain ⟨⟨token', rest'⟩, hread', hrest'⟩ := Option.bind_eq_some_iff.mp hsqueezed
  obtain ⟨us, hus, hts⟩ := Option.map_eq_some_iff.mp hrest'
  obtain ⟨p, hp, hkept, hsame⟩ := Token.step_kept hb hplaceholder hread
  obtain ⟨t', rfl, htight⟩ := hsame _ _ hread'
  obtain ⟨rfl, rfl⟩ : t' = t ∧ us = ts := by simpa using hts
  rw [hkept (htight rfl), Option.some.injEq, Prod.mk.injEq] at hread'
  obtain ⟨-, rfl⟩ := hread'
  exact .token hread hp (htight rfl) (hnext hus)

/-- If squeezing changes no token, the characters are transparent. -/
theorem transparent_of_tokens {cs : List Char} (hq : '?' ∉ cs) {ts : List Token}
    (h : tokens cs = some ts) (hsqueezed : tokens (squeeze false cs) = some ts) :
    Transparent cs := by
  induction hn : cs.length using Nat.strong_induction_on generalizing cs ts with
  | _ n ih =>
    rcases cs with _ | ⟨c, cs⟩
    · exact .nil
    have hwhole := h
    rw [tokens_cons] at h
    obtain ⟨⟨token, rest⟩, hstep, hrest⟩ := Option.bind_eq_some_iff.mp h
    obtain ⟨us, hus, rfl⟩ := Option.map_eq_some_iff.mp hrest
    have hsuffix := Token.step_suffix hstep
    have hnext : tokens (squeeze false rest) = some us → Transparent rest := by
      intro hrest'
      have hle := hsuffix.length_le
      rw [List.length_cons] at hn
      exact ih rest.length (by omega) (fun hm => hq (List.mem_cons_of_mem c (hsuffix.subset hm)))
        hus hrest' rfl
    by_cases hb : isBlank c = true
    · have hascii := ascii_of_tokens hb hwhole hsqueezed
      rw [Token.step_ascii_blank hb hascii, Option.some.injEq, Prod.mk.injEq] at hstep
      obtain ⟨rfl, rfl⟩ := hstep
      rw [Text.squeeze_blank hb, Token.tokens_squeeze_gap] at hsqueezed
      exact .blank hb hascii (hnext hsqueezed)
    · rw [Bool.not_eq_true] at hb
      cases token with
      | none => exact transparent_of_skip hb hstep hus hsqueezed hnext
      | some t =>
        exact transparent_of_token hb (fun h => hq (h ▸ List.mem_cons_self)) hstep hsqueezed hnext

/-! ### The check of a transparent text -/

/-- A text without placeholders has the same tokens as its normalised form just if it is
transparent. -/
theorem transparent_iff {text : String} (hq : '?' ∉ text.toList) :
    Transparent text.toList ↔
      ∃ ts, Token.ofText? text = some ts ∧ Token.ofText? (normalised text) = some ts := by
  have hnormalised : Token.ofText? (normalised text) = tokens (squeeze false text.toList) := by
    have hmap : (text.toList.map fun c => if c = '?' then '0' else c) = text.toList := by
      calc (text.toList.map fun c => if c = '?' then '0' else c)
          = text.toList.map id := List.map_congr_left fun c hc => if_neg fun (h : c = '?') => hq (h ▸ hc)
        _ = text.toList := List.map_id _
    rw [normalised, hmap, String.ofList_toList, Token.ofText?_eq, Text.toList_collapse,
      Token.tokens_squeeze_trimStart]
  rw [hnormalised, Token.ofText?_eq]
  constructor
  · exact fun h => h.tokens_squeeze hq
  · rintro ⟨ts, hts, hsqueezed⟩
    exact transparent_of_tokens hq hts hsqueezed

theorem statements?_congr {s t : String} (h : Token.ofText? s = Token.ofText? t) :
    statements? s = statements? t := by
  rw [statements?, statements?, readStatements, readStatements, h]

/-- The check reads the tokens of a text itself just if the text is transparent, and then accepts it
just if, as it stands, it is a single plain query. -/
theorem checkSafe_of_transparent (names : List String) {text : String} (hq : '?' ∉ text.toList) :
    (Transparent text.toList ↔
      ∃ ts, Token.ofText? text = some ts ∧ Token.ofText? (normalised text) = some ts) ∧
    (Transparent text.toList →
      (checkSafe (whitelist names) text = .ok () ↔
        Text.trim text ≠ "" ∧ ∃ q, statements? text = some [.query q] ∧
          ∀ n, Node.Within n (.query q) → n.Plain (names.map Text.toLower))) := by
  refine ⟨transparent_iff hq, fun htransparent => ?_⟩
  obtain ⟨ts, hts, hnormalised⟩ := (transparent_iff hq).mp htransparent
  rw [checkSafe_eq_ok_iff, statements?_congr (hnormalised.trans hts.symm)]
  refine and_congr_right fun _ => ?_
  constructor
  · rintro ⟨_, hread, q, rfl, hclear⟩
    exact ⟨q, hread, fun n hn => (Node.plain_congr fun _ => mem_whitelist).mp (hclear n hn)⟩
  · rintro ⟨q, hread, hclear⟩
    exact ⟨_, hread, q, rfl, fun n hn => (Node.plain_congr fun _ => mem_whitelist).mpr (hclear n hn)⟩

/-- Comments that hide nothing, and line ends between tokens. -/
theorem checkSafe_of_transparent_comments :
    let text := "SELECT id /* a  b */,\n\t'x y'\nFROM project_task -- end  of it"
    '?' ∉ text.toList ∧ Transparent text.toList ∧
      ∃ q, statements? text = some [.query q] ∧
        ∀ n, Node.Within n (.query q) → n.Plain (["Project_Task"].map Text.toLower) := by
  intro text
  have hq : '?' ∉ text.toList := by decide +kernel
  have hsame : (Token.ofText? text).isSome = true ∧
      Token.ofText? (normalised text) = Token.ofText? text := by decide +kernel
  obtain ⟨ts, hts⟩ := Option.isSome_iff_exists.mp hsame.1
  obtain ⟨hiff, hsafe⟩ := checkSafe_of_transparent ["Project_Task"] hq
  have htransparent := hiff.mpr ⟨ts, hts, hsame.2.trans hts⟩
  have haccepted : checkSafe (whitelist ["Project_Task"]) text = .ok () := by decide +kernel
  exact ⟨hq, htransparent, ((hsafe htransparent).mp haccepted).2⟩

/-- A comment that ends with its line hides a table from the check, but not from who runs the text. -/
theorem checkSafe_hidden_table :
    checkSafe (whitelist ["project_task"]) "SELECT 1 -- x\nFROM secrets" = .ok () ∧
      ¬∃ q, statements? "SELECT 1 -- x\nFROM secrets" = some [.query q] ∧
        ∀ n, Node.Within n (.query q) → n.Plain (["project_task"].map Text.toLower) := by
  constructor
  · decide +kernel
  · rintro ⟨q, hread, hclear⟩
    have hfaults : (statements? "SELECT 1 -- x\nFROM secrets").map
        (·.map (Statement.faults (["project_task"].map Text.toLower))) =
          some [[.foreignTable "secrets"]] := by decide +kernel
    rw [hread, Option.map_some, List.map_singleton, Statement.faults,
      (Query.faults_eq_nil q).mpr hclear] at hfaults
    simp at hfaults

end ScopedQuery.Sql
