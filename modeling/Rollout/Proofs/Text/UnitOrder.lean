import Mathlib.Data.List.Lex
import Rollout.Text.Units

/-
The order of texts is a strict linear one. Two texts with the same code units are equal,
since the units of a text read back as its characters; so of two different texts one
comes before the other.
-/
namespace Rollout
namespace Text

theorem toNat_lt_or_lt (c : Char) : c.toNat < 0xD800 ∨ 0xE000 ≤ c.toNat ∧ c.toNat < 0x110000 := by
  rcases c.valid with h | ⟨h, h'⟩
  · exact Or.inl h
  · refine Or.inr ⟨?_, h'⟩
    change 0xDFFF < c.toNat at h
    omega

/-- A code unit that is no surrogate is read as the character it numbers, whatever
follows. -/
theorem ofUnits_cons_of_not_surrogate {u : Nat} (h : u < 0xD800 ∨ 0xE000 ≤ u) (rest : List Nat) :
    ofUnits (u :: rest) = Char.ofNat u :: ofUnits rest := by
  have hsingle : ¬(0xD800 ≤ u ∧ u < 0xE000) := by omega
  cases rest with
  | nil => simp only [ofUnits, if_neg hsingle]
  | cons v rest =>
    have hpair : ¬(0xD800 ≤ u ∧ u < 0xDC00 ∧ 0xDC00 ≤ v ∧ v < 0xE000) := by omega
    rw [ofUnits, if_neg hpair, if_neg hsingle]

theorem ofUnits_unitsOf_append (c : Char) (rest : List Nat) :
    ofUnits (unitsOf c ++ rest) = c :: ofUnits rest := by
  by_cases hc : c.toNat < 0x10000
  · have hunit : c.toNat < 0xD800 ∨ 0xE000 ≤ c.toNat := by
      rcases toNat_lt_or_lt c with h | h <;> omega
    rw [unitsOf, if_pos hc, List.singleton_append, ofUnits_cons_of_not_surrogate hunit,
      Char.ofNat_toNat]
  · have hbound : c.toNat < 0x110000 := by
      rcases toNat_lt_or_lt c with h | h <;> omega
    have hpair : 0xD800 ≤ 0xD800 + (c.toNat - 0x10000) / 0x400 ∧
        0xD800 + (c.toNat - 0x10000) / 0x400 < 0xDC00 ∧
        0xDC00 ≤ 0xDC00 + (c.toNat - 0x10000) % 0x400 ∧
        0xDC00 + (c.toNat - 0x10000) % 0x400 < 0xE000 := by omega
    have hvalue : 0x10000 + (0xD800 + (c.toNat - 0x10000) / 0x400 - 0xD800) * 0x400 +
        (0xDC00 + (c.toNat - 0x10000) % 0x400 - 0xDC00) = c.toNat := by omega
    rw [unitsOf, if_neg hc, List.cons_append, List.singleton_append, ofUnits, if_pos hpair,
      hvalue, Char.ofNat_toNat]

/-- The code units of a text read back as its characters. -/
theorem ofUnits_units (s : String) : ofUnits (units s) = s.toList := by
  unfold units
  induction s.toList with
  | nil => rfl
  | cons c cs ih => rw [List.flatMap_cons, ofUnits_unitsOf_append, ih]

theorem units_inj {a b : String} (h : units a = units b) : a = b := by
  apply String.toList_inj.1
  rw [← ofUnits_units a, ← ofUnits_units b, h]

/-! ## Strict linear order -/

theorem precedes_iff {a b : String} : precedes a b = true ↔ units a < units b :=
  decide_eq_true_iff

theorem not_precedes_self (a : String) : ¬precedes a a = true := by
  rw [precedes_iff]
  exact List.lt_irrefl _

theorem precedes_trans {a b c : String} (hab : precedes a b = true) (hbc : precedes b c = true) :
    precedes a c = true := by
  rw [precedes_iff] at *
  exact List.lt_trans hab hbc

theorem precedes_asymm {a b : String} (hab : precedes a b = true) : ¬precedes b a = true := by
  rw [precedes_iff] at *
  exact List.lt_asymm hab

theorem precedes_total {a b : String} (hne : a ≠ b) :
    precedes a b = true ∨ precedes b a = true := by
  rw [precedes_iff, precedes_iff]
  exact lt_or_gt_of_ne fun h => hne (units_inj h)

theorem precedes_of_not_precedes_of_precedes {a b c : String} (hba : ¬precedes b a = true)
    (hbc : precedes b c = true) : precedes a c = true := by
  by_cases hab : a = b
  · rw [hab]
    exact hbc
  · exact precedes_trans ((precedes_total hab).resolve_right hba) hbc

end Text
end Rollout
