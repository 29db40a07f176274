import Mathlib.Tactic.Common
import ScopedQuery.Proofs.Decimal.Written
import ScopedQuery.Proofs.Steps
import ScopedQuery.Settings
/-!
# Settings of an environment

* `Describes lookup s`: what an environment says about settings, variable by variable, without any of the
  readers: a number is an unsigned numeral between blanks, a truth value is one of eight words, and a
  variable that is absent stands for a standard value.
* `Faulty lookup fault`: a reason for not taking settings is true of an environment.
* `ofLookup_describes`: just the settings that an environment describes are taken from it. If it describes
  none there is a reason that is true of it. The four variables decide.
-/

namespace ScopedQuery.Settings

open Steps (bind_eq_ok bind_eq_error)

/-! ### What variables say -/

/-- A text is an unsigned numeral between blanks, whose value lies below the bound. -/
def MeansNumber (bound : Nat) (raw : String) (n : Nat) : Prop :=
  Decimal.Unsigned (Text.trim raw).toList n ∧ n < bound

/-- The words for a truth value, in lower case. -/
def words : Bool → List String
  | true => ["1", "true", "yes", "on"]
  | false => ["0", "false", "no", "off"]

/-- A text is a word for the truth value, up to blanks around it and the case of letters. -/
def MeansBool (raw : String) (b : Bool) : Prop := Text.lower (Text.trim raw) ∈ words b

/-- What a variable stands for: what its text means, or the standard value if it is absent. -/
inductive StandsFor {α : Type} (means : String → α → Prop) (standard : α) : Option String → α → Prop
  | absent : StandsFor means standard none standard
  | present {raw : String} {a : α} (meant : means raw a) : StandsFor means standard (some raw) a

/-- The settings are the ones that an environment describes, and they agree with each other. -/
structure Describes (lookup : String → Option String) (s : Settings) : Prop where
  defaultLimit : StandsFor (MeansNumber UInt32.size) 50 (lookup "CHATBI_DEFAULT_LIMIT") s.defaultLimit.toNat
  maxLimit : StandsFor (MeansNumber UInt32.size) 200 (lookup "CHATBI_MAX_LIMIT") s.maxLimit.toNat
  showDebug : StandsFor MeansBool true (lookup "CHATBI_EXPOSE_DEBUG") s.showDebug
  maxRows : StandsFor (MeansNumber UInt64.size) 1000 (lookup "CHATBI_MAX_ROWS") s.maxRows.toNat
  positive : 1 ≤ s.defaultLimit.toNat
  capped : s.defaultLimit.toNat ≤ s.maxLimit.toNat

/-- The reason is true of the environment. -/
inductive Faulty (lookup : String → Option String) : SettingsFault → Prop
  | notNumber {key raw : String} {bound : Nat}
      (numeric : (key, bound) ∈ [("CHATBI_DEFAULT_LIMIT", UInt32.size), ("CHATBI_MAX_LIMIT", UInt32.size),
        ("CHATBI_MAX_ROWS", UInt64.size)])
      (present : lookup key = some raw) (none : ∀ n, ¬MeansNumber bound raw n) :
      Faulty lookup (.notNumber key raw)
  | notBool {raw : String} (present : lookup "CHATBI_EXPOSE_DEBUG" = some raw)
      (none : ∀ b, ¬MeansBool raw b) : Faulty lookup (.notBool "CHATBI_EXPOSE_DEBUG" raw)
  | noCap (zero : StandsFor (MeansNumber UInt32.size) 200 (lookup "CHATBI_MAX_LIMIT") 0) :
      Faulty lookup .noCap
  | badDefault {cap limit : UInt32}
      (maxLimit : StandsFor (MeansNumber UInt32.size) 200 (lookup "CHATBI_MAX_LIMIT") cap.toNat)
      (defaultLimit : StandsFor (MeansNumber UInt32.size) 50 (lookup "CHATBI_DEFAULT_LIMIT") limit.toNat)
      (outside : limit.toNat = 0 ∨ cap.toNat < limit.toNat) :
      Faulty lookup (.badDefault cap limit)

/-! ### The readers -/

theorem number_eq_ok {bound : Nat} {key : String} {raw : Option String} {o : Option Nat} :
    number bound key raw = .ok o ↔
      (raw = none ∧ o = none) ∨ ∃ text n, raw = some text ∧ MeansNumber bound text n ∧ o = some n := by
  unfold number
  cases raw with
  | none => simp [eq_comm]
  | some text =>
    simp only [reduceCtorEq, false_and, false_or, Option.some.injEq, ↓existsAndEq, true_and, MeansNumber,
      ← Decimal.natural?_eq_some]
    cases Decimal.natural? bound (Text.trim text) with
    | none => simp
    | some n => simp [eq_comm]

theorem number_eq_error {bound : Nat} {key : String} {raw : Option String} {fault : SettingsFault} :
    number bound key raw = .error fault ↔
      ∃ text, raw = some text ∧ (∀ n, ¬MeansNumber bound text n) ∧ fault = .notNumber key text := by
  unfold number
  cases raw with
  | none => simp
  | some text =>
    simp only [Option.some.injEq, ↓existsAndEq, true_and, MeansNumber, ← Decimal.natural?_eq_some]
    cases Decimal.natural? bound (Text.trim text) with
    | none => simp [eq_comm]
    | some n => simp

/-- A number is taken for a setting just if the variable stands for it. -/
theorem exists_number {α : Type} {ofNat : Nat → α} {toNat : α → Nat} {bound : Nat}
    (hto : ∀ n < bound, toNat (ofNat n) = n) (hof : ∀ a, ofNat (toNat a) = a)
    {key : String} {raw : Option String} {standard a : α} :
    (∃ o, number bound key raw = .ok o ∧ (o.map ofNat).getD standard = a) ↔
      StandsFor (MeansNumber bound) (toNat standard) raw (toNat a) := by
  simp only [number_eq_ok]
  constructor
  · rintro ⟨o, ⟨rfl, rfl⟩ | ⟨text, n, rfl, hn, rfl⟩, rfl⟩
    · exact .absent
    · refine .present ?_
      rwa [Option.map_some, Option.getD_some, hto n hn.2]
  · intro h
    generalize hn : toNat a = n at h
    cases h with
    | absent => exact ⟨none, .inl ⟨rfl, rfl⟩, by rw [← hof a, hn, hof]; rfl⟩
    | present hmeant =>
      refine ⟨some n, .inr ⟨_, n, rfl, hmeant, rfl⟩, ?_⟩
      rw [Option.map_some, Option.getD_some, ← hn, hof]

theorem exists_number32 (key : String) (standard : UInt32) {raw : Option String} {u : UInt32} :
    (∃ o, number UInt32.size key raw = .ok o ∧ (o.map UInt32.ofNat).getD standard = u) ↔
      StandsFor (MeansNumber UInt32.size) standard.toNat raw u.toNat :=
  exists_number (fun _ => UInt32.toNat_ofNat_of_lt') fun _ => UInt32.ofNat_toNat

theorem exists_number64 (key : String) (standard : UInt64) {raw : Option String} {u : UInt64} :
    (∃ o, number UInt64.size key raw = .ok o ∧ (o.map UInt64.ofNat).getD standard = u) ↔
      StandsFor (MeansNumber UInt64.size) standard.toNat raw u.toNat :=
  exists_number (fun _ => UInt64.toNat_ofNat_of_lt') fun _ => UInt64.ofNat_toNat

/-- No word stands for both truth values. -/
theorem bool?_eq_some {raw : String} {b : Bool} : bool? raw = some b ↔ MeansBool raw b := by
  have hapart : ∀ word ∈ words true, word ∉ words false := by decide
  have htrue : ["1", "true", "yes", "on"] = words true := rfl
  have hfalse : ["0", "false", "no", "off"] = words false := rfl
  simp only [bool?, MeansBool, List.contains_iff_mem, htrue, hfalse]
  split
  · next h =>
    cases b with
    | true => simp [h]
    | false => simp [hapart _ h]
  · next h =>
    split
    · next h' => cases b <;> simp [h, h']
    · next h' => cases b <;> simp [h, h']

theorem bool_eq_error {key : String} {raw : Option String} {fault : SettingsFault} :
    bool key raw = .error fault ↔
      ∃ text, raw = some text ∧ (∀ b, ¬MeansBool text b) ∧ fault = .notBool key text := by
  unfold bool
  cases raw with
  | none => simp
  | some text =>
    simp only [Option.some.injEq, ↓existsAndEq, true_and, ← bool?_eq_some]
    cases bool? text with
    | none => simp [eq_comm]
    | some b => simp

/-- A truth value is taken for a setting just if the variable stands for it. -/
theorem exists_bool (key : String) {raw : Option String} {standard b : Bool} :
    (∃ o, bool key raw = .ok o ∧ o.getD standard = b) ↔ StandsFor MeansBool standard raw b := by
  cases raw with
  | none =>
    constructor
    · rintro ⟨o, ⟨⟩, rfl⟩
      exact .absent
    · rintro ⟨⟩
      exact ⟨none, rfl, rfl⟩
  | some text =>
    have hbool : ∀ o, bool key (some text) = .ok o ↔ ∃ b, bool? text = some b ∧ o = some b := by
      intro o
      unfold bool
      cases h : bool? text with
      | none => simp [h]
      | some b => simp [h, eq_comm]
    simp only [hbool, bool?_eq_some]
    constructor
    · rintro ⟨_, ⟨b, hb, rfl⟩, rfl⟩
      exact .present hb
    · rintro ⟨⟩
      exact ⟨some b, ⟨b, ‹_›, rfl⟩, rfl⟩

/-! ### The check -/

theorem eq_zero_iff_toNat {u : UInt32} : u = 0 ↔ u.toNat = 0 := by
  rw [← UInt32.toNat_inj]
  rfl

theorem validate_eq_ok {s : Settings} :
    s.validate = .ok () ↔ 1 ≤ s.defaultLimit.toNat ∧ s.defaultLimit.toNat ≤ s.maxLimit.toNat := by
  simp only [validate, eq_zero_iff_toNat, UInt32.lt_iff_toNat_lt]
  split
  · simp only [reduceCtorEq, false_iff]
    omega
  · split
    · simp only [reduceCtorEq, false_iff]
      omega
    · simp only [true_iff]
      omega

theorem validate_eq_error {s : Settings} {fault : SettingsFault} (h : s.validate = .error fault) :
    (s.maxLimit.toNat = 0 ∧ fault = .noCap) ∨
      ((s.defaultLimit.toNat = 0 ∨ s.maxLimit.toNat < s.defaultLimit.toNat) ∧
        fault = .badDefault s.maxLimit s.defaultLimit) := by
  simp only [validate, eq_zero_iff_toNat, UInt32.lt_iff_toNat_lt] at h
  split at h
  · next hzero => exact .inl ⟨hzero, (Except.error.inj h).symm⟩
  · split at h
    · next houtside => exact .inr ⟨houtside, (Except.error.inj h).symm⟩
    · cases h

/-! ### All of an environment -/

section

variable {lookup : String → Option String}

/-- What is taken from an environment is what it describes. -/
theorem ofLookup_eq_ok {s : Settings} : ofLookup lookup = .ok s ↔ Describes lookup s := by
  simp only [ofLookup, bind_eq_ok, Steps.pure_eq_ok]
  constructor
  · rintro ⟨limit, hlimit, cap, hcap, debug, hdebug, rows, hrows, _, hvalid, rfl⟩
    obtain ⟨hpositive, hcapped⟩ := validate_eq_ok.mp hvalid
    exact ⟨(exists_number32 _ 50).mp ⟨limit, hlimit, rfl⟩, (exists_number32 _ 200).mp ⟨cap, hcap, rfl⟩,
      (exists_bool _).mp ⟨debug, hdebug, rfl⟩, (exists_number64 _ 1000).mp ⟨rows, hrows, rfl⟩, hpositive,
      hcapped⟩
  · rintro ⟨hlimit, hcap, hdebug, hrows, hpositive, hcapped⟩
    obtain ⟨limit, hlimit, hlimit'⟩ := (exists_number32 "CHATBI_DEFAULT_LIMIT" 50).mpr hlimit
    obtain ⟨cap, hcap, hcap'⟩ := (exists_number32 "CHATBI_MAX_LIMIT" 200).mpr hcap
    obtain ⟨debug, hdebug, hdebug'⟩ := (exists_bool "CHATBI_EXPOSE_DEBUG").mpr hdebug
    obtain ⟨rows, hrows, hrows'⟩ := (exists_number64 "CHATBI_MAX_ROWS" 1000).mpr hrows
    have hsame : (⟨(limit.map UInt32.ofNat).getD 50, (cap.map UInt32.ofNat).getD 200, debug.getD true,
        (rows.map UInt64.ofNat).getD 1000⟩ : Settings) = s := by
      rw [hlimit', hcap', hdebug', hrows']
    refine ⟨limit, hlimit, cap, hcap, debug, hdebug, rows, hrows, (), ?_, hsame⟩
    rw [hsame]
    exact validate_eq_ok.mpr ⟨hpositive, hcapped⟩

/-- Settings of an environment agree with each other. -/
theorem validate_of_ofLookup {s : Settings} (h : ofLookup lookup = .ok s) : s.validate = .ok () := by
  obtain ⟨-, -, -, -, hpositive, hcapped⟩ := ofLookup_eq_ok.mp h
  exact validate_eq_ok.mpr ⟨hpositive, hcapped⟩

/-- The reason for taking no settings is true of the environment. -/
theorem faulty_of_ofLookup {fault : SettingsFault} (h : ofLookup lookup = .error fault) :
    Faulty lookup fault := by
  have hnumber : ∀ {key : String} {bound : Nat},
      (key, bound) ∈ [("CHATBI_DEFAULT_LIMIT", UInt32.size), ("CHATBI_MAX_LIMIT", UInt32.size),
        ("CHATBI_MAX_ROWS", UInt64.size)] →
      number bound key (lookup key) = .error fault → Faulty lookup fault := by
    intro key bound hkey hfails
    obtain ⟨raw, hraw, hnone, rfl⟩ := number_eq_error.mp hfails
    exact .notNumber hkey hraw hnone
  simp only [ofLookup, bind_eq_error] at h
  obtain hfails | ⟨limit, hlimit, hfails | ⟨cap, hcap, hfails | ⟨debug, -, hfails | ⟨rows, -,
    hfails | ⟨_, -, ⟨⟩⟩⟩⟩⟩⟩ := h
  · exact hnumber (by simp) hfails
  · exact hnumber (by simp) hfails
  · obtain ⟨raw, hraw, hnone, rfl⟩ := bool_eq_error.mp hfails
    exact .notBool hraw hnone
  · exact hnumber (by simp) hfails
  · have hlimit' := (exists_number32 _ 50).mp ⟨limit, hlimit, rfl⟩
    have hcap' := (exists_number32 _ 200).mp ⟨cap, hcap, rfl⟩
    obtain ⟨hzero, rfl⟩ | ⟨houtside, rfl⟩ := validate_eq_error hfails
    · exact .noCap (hzero ▸ hcap')
    · exact .badDefault hcap' hlimit' houtside

end

/-- The wording of a reason starts with the variable it is about. -/
theorem Faulty.message {lookup : String → Option String} {fault : SettingsFault} (h : Faulty lookup fault) :
    ∃ key ∈ keys, ∃ rest, fault.message = key ++ rest := by
  cases h with
  | @notNumber key raw _ hkey _ _ =>
    refine ⟨key, ?_, " is not a valid number: " ++ inQuotes raw, String.append_assoc⟩
    simp only [List.mem_cons, Prod.mk.injEq, List.not_mem_nil, or_false] at hkey
    rcases hkey with ⟨rfl, -⟩ | ⟨rfl, -⟩ | ⟨rfl, -⟩ <;> decide
  | @notBool raw _ _ =>
    refine ⟨"CHATBI_EXPOSE_DEBUG", by decide, " is not a valid boolean: " ++ inQuotes raw, ?_⟩
    exact String.append_assoc
  | noCap _ => exact ⟨"CHATBI_MAX_LIMIT", by decide, " must be positive", rfl⟩
  | @badDefault cap limit _ _ _ =>
    have hsplit : "CHATBI_DEFAULT_LIMIT must be between 1 and CHATBI_MAX_LIMIT (" =
        "CHATBI_DEFAULT_LIMIT" ++ " must be between 1 and CHATBI_MAX_LIMIT (" := rfl
    refine ⟨"CHATBI_DEFAULT_LIMIT", by decide, " must be between 1 and CHATBI_MAX_LIMIT (" ++
      (toString cap ++ ("), got " ++ toString limit)), ?_⟩
    show "CHATBI_DEFAULT_LIMIT must be between 1 and CHATBI_MAX_LIMIT (" ++ toString cap ++
      "), got " ++ toString limit = _
    rw [hsplit]
    simp only [String.append_assoc]

/-- Settings are taken from an environment just if it describes them. If it describes none the failure is
one of settings, with a reason that is true of the environment and named after one of the four variables.
No other variable counts. -/
theorem ofLookup_describes (lookup : String → Option String) :
    (∀ s, ofLookup lookup = .ok s ↔ Describes lookup s) ∧
      ((∀ s, ¬Describes lookup s) →
        ∃ fault, ofLookup lookup = .error fault ∧ Faulty lookup fault ∧
          ∃ key ∈ keys, ∃ rest,
            (Failure.settings fault).message = "Configuration error: " ++ (key ++ rest)) ∧
      ∀ lookup', (∀ key ∈ keys, lookup' key = lookup key) → ofLookup lookup' = ofLookup lookup := by
  refine ⟨fun s => ofLookup_eq_ok, fun hnone => ?_, fun lookup' hsame => ?_⟩
  · cases h : ofLookup lookup with
    | ok s => exact absurd (ofLookup_eq_ok.mp h) (hnone s)
    | error fault =>
      have hfaulty := faulty_of_ofLookup h
      obtain ⟨key, hkey, rest, hrest⟩ := hfaulty.message
      refine ⟨fault, rfl, hfaulty, key, hkey, rest, ?_⟩
      show "Configuration error: " ++ fault.message = _
      rw [hrest]
  · simp only [keys, List.forall_mem_cons] at hsame
    obtain ⟨hlimit, hcap, hdebug, hrows, -⟩ := hsame
    simp only [ofLookup, hlimit, hcap, hdebug, hrows]

/-- A cap of 80 is above the default limit of 50, and one of 7 is not. -/
theorem ofLookup_describes_caps :
    let given (cap key : String) : Option String :=
      if key = "CHATBI_MAX_LIMIT" then some cap
      else if key = "CHATBI_EXPOSE_DEBUG" then some "\tOff" else none
    let other (key : String) : Option String := if key = "PATH" then some "/bin" else given " +80 " key
    Describes (given " +80 ") ⟨50, 80, false, 1000⟩ ∧ ofLookup other = .ok ⟨50, 80, false, 1000⟩ ∧
      ∃ fault, ofLookup (given "007") = .error fault ∧ Faulty (given "007") fault := by
  intro given other
  have haccepted : ofLookup (given " +80 ") = .ok ⟨50, 80, false, 1000⟩ := by decide
  have hrejected : ofLookup (given "007") = .error (.badDefault 7 50) := by decide
  obtain ⟨hdescribes, -, hothers⟩ := ofLookup_describes (given " +80 ")
  obtain ⟨hnone, hfails, -⟩ := ofLookup_describes (given "007")
  refine ⟨(hdescribes _).mp haccepted, ?_, ?_⟩
  · rw [hothers other (by decide), haccepted]
  · obtain ⟨fault, hfault, hfaulty, -⟩ := hfails fun s hs => by
      rw [← hnone, hrejected] at hs
      cases hs
    exact ⟨fault, hfault, hfaulty⟩

end ScopedQuery.Settings
