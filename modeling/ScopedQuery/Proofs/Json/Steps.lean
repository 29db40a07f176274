import ScopedQuery.Json.Reader
/-!
# Steps of reading JSON

What the readers of marks do with the characters in front of them. With these equations a reader can be
followed character by character.

* `bind_apply` and its like run a chain of steps on a text.
* `toOption_andThen` and `andThen_eq_ok` say when a chain gets to its end.
* `nextItem_first`, `nextItem_comma`, `nextItem_close` and so on pass from one item or member to the next.
* `EndsValue` says that a value cannot go on with what is left of the text.
-/

namespace ScopedQuery.Json

variable {α β : Type}

/-- Goes on with what has been read. -/
def andThen (read : Except Fault (α × List Char)) (f : α → Step β) :
    Except Fault (β × List Char) :=
  read.bind fun r => f r.1 r.2

@[simp] theorem andThen_ok (r : α × List Char) (f : α → Step β) :
    andThen (.ok r) f = f r.1 r.2 := rfl

@[simp ↓] theorem bind_apply (x : Step α) (f : α → Step β) (cs : List Char) :
    (x >>= f) cs = andThen (x cs) f := rfl

@[simp] theorem pure_apply (a : α) (cs : List Char) : (pure a : Step α) cs = .ok (a, cs) := rfl

@[simp] theorem get_apply (cs : List Char) : (get : Step (List Char)) cs = .ok (cs, cs) := rfl

@[simp] theorem set_apply (ds cs : List Char) : (set ds : Step PUnit) cs = .ok (⟨⟩, ds) := rfl

@[simp] theorem modify_apply (f : List Char → List Char) (cs : List Char) :
    (modify f : Step PUnit) cs = .ok (⟨⟩, f cs) := rfl

@[simp] theorem liftM_ok (a : α) (cs : List Char) :
    (liftM (.ok a : Except Fault α) : Step α) cs = .ok (a, cs) := rfl

@[simp ↓] theorem ite_apply (c : Prop) [Decidable c] (x y : Step α) (cs : List Char) :
    (if c then x else y) cs = if c then x cs else y cs := by
  split <;> rfl

@[simp ↓] theorem map_apply (f : α → β) (x : Step α) (cs : List Char) :
    (f <$> x) cs = andThen (x cs) fun a => pure (f a) := rfl

/-- A step that may give up first goes on if it does not. -/
theorem unless_apply {c : Prop} [Decidable c] (h : ¬c) (fault : Fault) (f : PUnit → Step α)
    (x : Step α) (cs : List Char) : (if c then fail fault >>= f else x) cs = x cs := by
  rw [if_neg h]

@[simp] theorem advance_cons (c : Char) (cs : List Char) : advance (c :: cs) = .ok ((), cs) := rfl

theorem advance_bind (f : Unit → Step α) (c : Char) (cs : List Char) :
    (advance >>= f) (c :: cs) = f () cs := rfl

/-! ### Outcomes -/

@[simp] theorem fail_apply (fault : Fault) (cs : List Char) :
    (fail fault : Step α) cs = .error fault := rfl

@[simp] theorem toOption_ok (a : α) : (Except.ok a : Except Fault α).toOption = some a := rfl

@[simp] theorem toOption_error (fault : Fault) :
    (Except.error fault : Except Fault α).toOption = none := rfl

theorem toOption_eq_some {r : Except Fault α} {a : α} : r.toOption = some a ↔ r = .ok a := by
  cases r <;> simp

theorem toOption_andThen (r : Except Fault (α × List Char)) (f : α → Step β) :
    (andThen r f).toOption = r.toOption.bind fun p => (f p.1 p.2).toOption := by
  cases r <;> rfl

theorem andThen_eq_ok {r : Except Fault (α × List Char)} {f : α → Step β} {b : β × List Char} :
    andThen r f = .ok b ↔ ∃ p, r = .ok p ∧ f p.1 p.2 = .ok b := by
  cases r <;> simp [andThen, Except.bind]

theorem bind_eq_ok {x : Step α} {f : α → Step β} {cs : List Char} {b : β × List Char} :
    (x >>= f) cs = .ok b ↔ ∃ a rest, x cs = .ok (a, rest) ∧ f a rest = .ok b := by
  rw [bind_apply, andThen_eq_ok, Prod.exists]

theorem toOption_bind_none {x : Step α} {f : α → Step β} (h : ∀ a rest, (f a rest).toOption = none)
    (cs : List Char) : ((x >>= f) cs).toOption = none := by
  rw [bind_apply, toOption_andThen]
  cases x cs with
  | error fault => rfl
  | ok p => exact h p.1 p.2

/-! ### Marks -/

section

variable {c : Char} (hc : isSpace c = false)

include hc

theorem peek_cons (cs : List Char) : peek (c :: cs) = .ok (some c, c :: cs) := by
  simp [peek, hc]

theorem start_cons (cs : List Char) : start (c :: cs) = .ok (c, c :: cs) := by
  simp [start, peek_cons hc]

theorem nextItem_first (hclose : c ≠ ']') (cs : List Char) :
    nextItem true (c :: cs) = .ok (true, c :: cs) := by
  simp [nextItem, peek_cons hc, hclose]

theorem nextItem_comma (hclose : c ≠ ']') (cs : List Char) :
    nextItem false (',' :: c :: cs) = .ok (true, c :: cs) := by
  have hcomma : isSpace ',' = false := by decide
  simp [nextItem, peek_cons hcomma, peek_cons hc]

end

@[simp] theorem nextItem_close (first : Bool) (rest : List Char) :
    nextItem first (']' :: rest) = .ok (false, ']' :: rest) := rfl

@[simp] theorem closeList_close (rest : List Char) : closeList (']' :: rest) = .ok ((), rest) := rfl

@[simp] theorem nextMember_close (first : Bool) (rest : List Char) :
    nextMember first ('\x7d' :: rest) = .ok (false, '\x7d' :: rest) := rfl

@[simp] theorem closeObject_close (rest : List Char) : closeObject ('\x7d' :: rest) = .ok ((), rest) := rfl

@[simp] theorem colon_colon (rest : List Char) : colon (':' :: rest) = .ok ((), rest) := rfl

/-! ### Texts -/

/-- Most characters stand for themselves. -/
theorem textBody_plain {c : Char} (hquote : c ≠ '"') (hslash : c ≠ '\\') (hcontrol : ¬c.toNat < 0x20)
    (cs : List Char) : textBody (c :: cs) = prepend c (textBody cs) := by
  simp [textBody, hslash, hcontrol]

theorem skipText_plain {c : Char} (hquote : c ≠ '"') (hslash : c ≠ '\\') (hcontrol : ¬c.toNat < 0x20)
    (cs : List Char) : skipText (c :: cs) = skipText cs := by
  simp [skipText, hslash, hcontrol]

/-! ### Ends of values -/

/-- The text is at its end, or goes on with a mark that ends a value. -/
def EndsValue (rest : List Char) : Prop := ∀ c, rest.head? = some c → c = ',' ∨ c = ']' ∨ c = '\x7d'

theorem endsValue_nil : EndsValue [] := by
  intro c hc
  cases hc

theorem endsValue_cons {c : Char} (h : c = ',' ∨ c = ']' ∨ c = '\x7d') (rest : List Char) :
    EndsValue (c :: rest) := by
  intro d hd
  obtain rfl := Option.some.inj hd
  exact h

end ScopedQuery.Json
