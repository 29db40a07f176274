import Mathlib.Data.String.Basic
import Mathlib.Tactic.Common
/-!
# The order of texts

Texts are ordered by their first difference.

* `append_lt_append_iff`: behind parts of one length, the parts decide first.
* `bytes_lt_iff`: texts of ASCII have the order of their bytes.
-/

namespace ScopedQuery.Text

theorem toNat_lt_iff {c d : Char} : c < d ↔ c.toNat < d.toNat := UInt32.lt_iff_toNat_lt

theorem cons_lt_cons_self (c : Char) (r s : List Char) : c :: r < c :: s ↔ r < s := by
  rw [List.cons_lt_cons_iff]
  simp

/-- Behind parts of one length, texts sort by these parts first. -/
theorem append_lt_append_iff {p q r s : List Char} (h : p.length = q.length) :
    p ++ r < q ++ s ↔ p < q ∨ p = q ∧ r < s := by
  induction p generalizing q with
  | nil =>
    obtain rfl := List.length_eq_zero_iff.mp h.symm
    simp
  | cons c p ih =>
    cases q with
    | nil => cases h
    | cons d q =>
      have hcons := ih (Nat.succ.inj h)
      simp only [List.cons_append, List.cons_lt_cons_iff, hcons, List.cons.injEq]
      grind

/-! ### Bytes -/

/-- The bytes of a text. -/
def bytes (s : String) : List UInt8 := s.toByteArray.data.toList

/-- A character of ASCII is a byte by itself. -/
theorem bytes_eq_map {s : String} (h : ∀ c ∈ s.toList, c.toNat < 128) :
    bytes s = s.toList.map fun c => UInt8.ofNat c.toNat := by
  have hchars : ∀ cs : List Char, (∀ c ∈ cs, c.toNat < 128) →
      cs.flatMap String.utf8EncodeChar = cs.map fun c => UInt8.ofNat c.toNat := by
    intro cs hcs
    induction cs with
    | nil => rfl
    | cons c cs ih =>
      have hc : c.val.toNat ≤ 127 := Nat.le_of_lt_succ (hcs c List.mem_cons_self)
      rw [List.flatMap_cons, List.map_cons, ih fun d hd => hcs d (List.mem_cons_of_mem c hd),
        String.utf8EncodeChar]
      simp only [hc, if_true]
      rfl
  rw [bytes, ← String.utf8Encode_toList, List.utf8Encode, List.toList_data_toByteArray, hchars _ h]

theorem map_lt_map_iff {cs ds : List Char} (hcs : ∀ c ∈ cs, c.toNat < 128)
    (hds : ∀ d ∈ ds, d.toNat < 128) :
    (cs.map fun c => UInt8.ofNat c.toNat) < (ds.map fun d => UInt8.ofNat d.toNat) ↔ cs < ds := by
  induction cs generalizing ds with
  | nil => cases ds <;> simp
  | cons c cs ih =>
    cases ds with
    | nil => simp
    | cons d ds =>
      have hc : c.toNat < 128 := hcs c List.mem_cons_self
      have hd : d.toNat < 128 := hds d List.mem_cons_self
      have hrest := ih (fun e he => hcs e (List.mem_cons_of_mem c he))
        fun e he => hds e (List.mem_cons_of_mem d he)
      rw [List.map_cons, List.map_cons, List.cons_lt_cons_iff, List.cons_lt_cons_iff, hrest,
        UInt8.lt_iff_toNat_lt, ← UInt8.toNat_inj, toNat_lt_iff, ← Char.toNat_inj]
      simp only [UInt8.toNat_ofNat']
      rw [Nat.mod_eq_of_lt (by omega), Nat.mod_eq_of_lt (by omega)]

/-- Texts of ASCII have the order of their bytes. -/
theorem bytes_lt_iff {s t : String} (hs : ∀ c ∈ s.toList, c.toNat < 128)
    (ht : ∀ c ∈ t.toList, c.toNat < 128) : bytes s < bytes t ↔ s < t := by
  rw [bytes_eq_map hs, bytes_eq_map ht, map_lt_map_iff hs ht]
  exact String.lt_iff_toList_lt.symm

end ScopedQuery.Text
