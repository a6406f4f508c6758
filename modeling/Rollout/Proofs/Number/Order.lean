import Mathlib.Algebra.Order.Ring.Unbundled.Rat
import Rollout.Number.Binary64

/-
The order of numbers, the two infinities at its ends. The value that is no number stands
outside: it compares false whichever way it is asked, so the comparison that rejects and
the order agree on everything else only. Sums of numbers at least zero never leave the
order.
-/
namespace Rollout
namespace Number

/-- The one number is in order with the other and not above it. -/
def AtMost : Number → Number → Prop
  | .finite a, .finite b => a ≤ b
  | .finite _, .infinity => True
  | .infinity, .infinity => True
  | .negInfinity, .notANumber => False
  | .negInfinity, _ => True
  | _, _ => False

theorem not_lt_iff_atMost {a b : Number} (ha : a ≠ .notANumber) (hb : b ≠ .notANumber) :
    b.lt a = false ↔ a.AtMost b := by
  cases a <;> cases b <;> simp_all [lt, AtMost]

theorem atMost_self {a : Number} (h : a ≠ .notANumber) : a.AtMost a := by
  cases a <;> simp_all [AtMost]

theorem AtMost.right_ne_notANumber {a b : Number} (h : a.AtMost b) : b ≠ .notANumber := by
  rintro rfl
  cases a <;> exact h

/-- Between zero and something finite there is nothing that is not finite. -/
theorem AtMost.isFinite {a b : Number} (hzero : zero.AtMost a) (h : a.AtMost b)
    (hb : b.isFinite = true) : a.isFinite = true := by
  cases a with
  | finite => rfl
  | infinity =>
    cases b with
    | infinity => cases hb
    | _ => exact h.elim
  | negInfinity => exact hzero.elim
  | notANumber => exact hzero.elim

theorem zero_atMost_ofNat (n : Nat) : zero.AtMost (ofNat n) := by
  show ((0 : Nat) : Rat) ≤ (n : Rat)
  exact_mod_cast Nat.zero_le n

/-- At least zero are the rationals that are and positive infinity. -/
theorem zero_atMost_iff {n : Number} :
    zero.AtMost n ↔ n = .infinity ∨ ∃ q : Rat, 0 ≤ q ∧ n = .finite q := by
  cases n <;> simp [zero, ofNat, AtMost]

theorem atMost_infinity {n : Number} (h : zero.AtMost n) : n.AtMost .infinity := by
  rcases zero_atMost_iff.1 h with rfl | ⟨q, -, rfl⟩ <;> trivial

theorem lt_of_lt_of_atMost {a b c : Number} (h : a.lt b = true) (hbc : b.AtMost c) :
    a.lt c = true := by
  cases a <;> cases b <;> cases c <;> simp_all [lt, AtMost]
  exact h.trans_le hbc

/-! ## Terms that are not below zero -/

theorem zero_atMost_exactSum {a b : Number} (ha : zero.AtMost a) (hb : zero.AtMost b) :
    zero.AtMost (a.exactSum b) := by
  rcases zero_atMost_iff.1 ha with rfl | ⟨x, hx, rfl⟩
  · rcases zero_atMost_iff.1 hb with rfl | ⟨y, -, rfl⟩ <;> trivial
  · rcases zero_atMost_iff.1 hb with rfl | ⟨y, hy, rfl⟩
    · trivial
    · exact Rat.add_nonneg hx hy

/-- A larger term makes no smaller sum. -/
theorem exactSum_mono_left {a b c : Number} (ha : zero.AtMost a) (hab : a.AtMost b)
    (hc : zero.AtMost c) : (a.exactSum c).AtMost (b.exactSum c) := by
  rcases zero_atMost_iff.1 ha with rfl | ⟨x, hx, rfl⟩
  · cases b with
    | infinity => rcases zero_atMost_iff.1 hc with rfl | ⟨z, -, rfl⟩ <;> trivial
    | _ => exact hab.elim
  · rcases zero_atMost_iff.1 hc with rfl | ⟨z, hz, rfl⟩
    · cases b with
      | finite => trivial
      | infinity => trivial
      | _ => exact hab.elim
    · cases b with
      | finite y => exact Rat.add_le_add_right.2 hab
      | infinity => trivial
      | _ => exact hab.elim

/-- One more term makes no smaller sum. -/
theorem atMost_exactSum {a c : Number} (ha : zero.AtMost a) (hc : zero.AtMost c) :
    a.AtMost (a.exactSum c) := by
  rcases zero_atMost_iff.1 ha with rfl | ⟨x, -, rfl⟩
  · rcases zero_atMost_iff.1 hc with rfl | ⟨z, -, rfl⟩ <;> trivial
  · rcases zero_atMost_iff.1 hc with rfl | ⟨z, hz, rfl⟩
    · trivial
    · exact le_add_of_nonneg_right hz

end Number

namespace Binary64

open Number

theorem scaled_nonneg (m : Nat) (e : Int) : 0 ≤ scaled m e := by
  rw [scaled]
  by_cases h : 0 ≤ e
  · rw [if_pos h]
    exact_mod_cast Nat.zero_le _
  · rw [if_neg h]
    exact Rat.mkRat_nonneg (Int.natCast_nonneg m) _

theorem nearestMagnitude_nonneg {a b : Nat} {q : Rat} (h : nearestMagnitude a b = some q) :
    0 ≤ q := by
  simp only [nearestMagnitude] at h
  by_cases ha : a = 0
  · rw [if_pos ha, Option.some.injEq] at h
    exact le_of_eq h
  · rw [if_neg ha, Option.ite_none_left_eq_some, Option.some.injEq] at h
    rw [← h.2]
    exact scaled_nonneg _ _

/-- Rounding does not lead below zero. -/
theorem zero_atMost_nearest {q : Rat} (h : 0 ≤ q) : zero.AtMost (nearest q) := by
  have hsign : ¬q.num < 0 := Int.not_lt.2 (Rat.num_nonneg.2 h)
  rw [nearest]
  cases hmagnitude : nearestMagnitude q.num.natAbs q.den with
  | none =>
    simp only [if_neg hsign]
    exact trivial
  | some m =>
    simp only [if_neg hsign]
    exact nearestMagnitude_nonneg hmagnitude

theorem zero_atMost_rounded {n : Number} (h : zero.AtMost n) :
    zero.AtMost (n.rounded nearest) := by
  rcases zero_atMost_iff.1 h with rfl | ⟨q, hq, rfl⟩
  · trivial
  · exact zero_atMost_nearest hq

theorem zero_atMost_add {a b : Number} (ha : zero.AtMost a) (hb : zero.AtMost b) :
    zero.AtMost (add a b) :=
  zero_atMost_rounded (zero_atMost_exactSum ha hb)

/-- A sum is finite only where both of its terms are. -/
theorem isFinite_of_add {a b : Number} (h : (add a b).isFinite = true) :
    a.isFinite = true ∧ b.isFinite = true := by
  cases a <;> cases b <;> first | exact ⟨rfl, rfl⟩ | cases h

theorem isFinite_of_foldl_add {xs : List Number} {a : Number}
    (h : (xs.foldl add a).isFinite = true) :
    a.isFinite = true ∧ ∀ x ∈ xs, x.isFinite = true := by
  induction xs generalizing a with
  | nil => exact ⟨h, List.forall_mem_nil _⟩
  | cons x rest ih =>
    obtain ⟨hsum, hrest⟩ := ih h
    obtain ⟨ha, hx⟩ := isFinite_of_add hsum
    exact ⟨ha, List.forall_mem_cons.2 ⟨hx, hrest⟩⟩

end Binary64
end Rollout
