import ScopedQuery.Proofs.Text.Trim
import ScopedQuery.Schema.Aggregation
import ScopedQuery.Schema.Operator
/-!
# What raw texts tell

The texts of a plan count without the blanks around them, and its words without regard to case too.

* `Tells raw text`: a raw text that is not blank tells its trimmed form.
* `Spells raw word`: a raw text spells a word if it is the word up to case and blanks.
* `exists_tells_read_iff`: a word that must not be blank is read just if it is spelled, as no word is
  blank. `Aggregation.read?_eq_some` and its siblings tell which words are read.
-/

namespace ScopedQuery

namespace Text

/-- The text is the trimmed form of a raw one, and it is not empty. -/
def Tells (raw : Option String) (text : String) : Prop := raw.map trim = some text ∧ text ≠ ""

/-- The word is the trimmed form of a raw text, with its letters in upper case. -/
def Spells (raw : Option String) (word : String) : Prop :=
  raw.map (fun s => upper (trim s)) = some word

instance (raw : Option String) (text : String) : Decidable (Tells raw text) :=
  inferInstanceAs (Decidable (raw.map trim = some text ∧ text ≠ ""))

instance (raw : Option String) (word : String) : Decidable (Spells raw word) :=
  inferInstanceAs (Decidable (raw.map (fun s => upper (trim s)) = some word))

theorem filled?_iff_tells {raw : Option String} {text : String} :
    filled? raw = some text ↔ Tells raw text := by
  cases raw with
  | none => simp [filled?, Tells]
  | some s => simp only [filled?_eq_some, Tells, Option.some.injEq, exists_eq_left', Option.map_some]

theorem Tells.trim_eq {raw : Option String} {text : String} (h : Tells raw text) :
    trim text = text := by
  obtain ⟨s, -, rfl⟩ := Option.map_eq_some_iff.mp h.1
  exact trim_trim s

/-- What is told once is told again by its own text. -/
theorem Tells.again {raw : Option String} {text : String} (h : Tells raw text) :
    Tells (some text) text :=
  ⟨congrArg some h.trim_eq, h.2⟩

/-- A list of words is searched for a word by its code. -/
theorem find?_code_iff {α : Type} {words : List α} {code : α → String}
    (hself : ∀ a, words.find? (code · == code a) = some a) {word : String} {a : α} :
    words.find? (code · == word) = some a ↔ word = code a := by
  constructor
  · intro h
    have hfound := List.find?_some h
    exact (beq_iff_eq.mp hfound).symm
  · rintro rfl
    exact hself a

/-- A raw text is read as a word just if it spells the word. -/
theorem bind_read_iff {α : Type} {read : String → Option α} {code : α → String}
    (hread : ∀ s a, read s = some a ↔ upper (trim s) = code a) {raw : Option String} {a : α} :
    raw.bind read = some a ↔ Spells raw (code a) := by
  cases raw with
  | none => simp [Spells]
  | some s => simp [Spells, hread]

/-- A word that must not be blank is read just if the raw text spells it. -/
theorem exists_tells_read_iff {α : Type} {read : String → Option α} {code : α → String}
    (hread : ∀ s a, read s = some a ↔ upper (trim s) = code a) (hcode : ∀ a, code a ≠ "")
    {raw : Option String} {a : α} :
    (∃ word, Tells raw word ∧ read word = some a) ↔ Spells raw (code a) := by
  constructor
  · rintro ⟨word, ⟨hword, -⟩, ha⟩
    obtain ⟨s, rfl, rfl⟩ := Option.map_eq_some_iff.mp hword
    rw [hread, trim_trim] at ha
    exact congrArg some ha
  · intro h
    obtain ⟨s, rfl, hs⟩ := Option.map_eq_some_iff.mp h
    refine ⟨trim s, ⟨rfl, fun hblank => hcode a ?_⟩, ?_⟩
    · rw [← hs, hblank]
      decide
    · rw [hread, trim_trim, hs]

end Text

theorem Aggregation.read?_eq_some {raw : String} {agg : Aggregation} :
    read? raw = some agg ↔ Text.upper (Text.trim raw) = agg.code := by
  rw [read?, ofCode?]
  exact Text.find?_code_iff ofCode?_code

theorem FilterOp.read?_eq_some {raw : String} {op : FilterOp} :
    read? raw = some op ↔ Text.upper (Text.trim raw) = op.code := by
  rw [read?, ofCode?]
  exact Text.find?_code_iff ofCode?_code

theorem SortDirection.read?_eq_some {raw : String} {direction : SortDirection} :
    read? raw = some direction ↔ Text.upper (Text.trim raw) = direction.sql := by
  rw [read?]
  refine Text.find?_code_iff fun a => ?_
  cases a with
  | asc => decide
  | desc => decide

end ScopedQuery
