import Mathlib.Algebra.BigOperators.Ring.Finset
import Mathlib.Algebra.Field.Rat
import Rollout.Proofs.Number.Order

/-
Exact sums. Finite numbers add up as rationals, and an infinity or the value that is no
number is carried along, so the sum does not depend on the order of its terms. Numbers that
are not below zero have the sum of the rationals, unless one of them is infinite.
-/
namespace Rollout
namespace Number

theorem exactSum_comm (a b : Number) : a.exactSum b = b.exactSum a := by
  cases a <;> cases b <;> simp only [exactSum, Rat.add_comm]

theorem exactSum_assoc (a b c : Number) :
    (a.exactSum b).exactSum c = a.exactSum (b.exactSum c) := by
  cases a <;> cases b <;> cases c <;> simp only [exactSum, Rat.add_assoc]

theorem exactSum_right_comm (a b c : Number) :
    (a.exactSum b).exactSum c = (a.exactSum c).exactSum b := by
  rw [exactSum_assoc, exactSum_comm b c, exactSum_assoc]

instance : RightCommutative exactSum := ⟨exactSum_right_comm⟩

/-! ## Totals -/

/-- The rational that a finite number is. -/
def value : Number → ℚ
  | .finite q => q
  | _ => 0

/-- The sum of numbers that are not below zero: infinite if one of them is, and else the sum
of the rationals. -/
def total (xs : List Number) : Number :=
  if .infinity ∈ xs then .infinity else .finite (xs.map value).sum

theorem foldl_exactSum_infinity {xs : List Number} (h : ∀ x ∈ xs, zero.AtMost x) :
    xs.foldl exactSum .infinity = .infinity := by
  induction xs with
  | nil => rfl
  | cons x rest ih =>
    obtain ⟨hx, hrest⟩ := List.forall_mem_cons.1 h
    have hstep : exactSum .infinity x = .infinity := by
      rcases zero_atMost_iff.1 hx with rfl | ⟨q, -, rfl⟩ <;> rfl
    rw [List.foldl_cons, hstep, ih hrest]

theorem foldl_exactSum_finite {xs : List Number} (h : ∀ x ∈ xs, zero.AtMost x) (q : ℚ) :
    xs.foldl exactSum (.finite q) =
      if .infinity ∈ xs then .infinity else .finite (q + (xs.map value).sum) := by
  induction xs generalizing q with
  | nil => simp
  | cons x rest ih =>
    obtain ⟨hx, hrest⟩ := List.forall_mem_cons.1 h
    rcases zero_atMost_iff.1 hx with rfl | ⟨r, -, rfl⟩
    · rw [List.foldl_cons, if_pos List.mem_cons_self]
      exact foldl_exactSum_infinity hrest
    · have hstep : exactSum (.finite q) (.finite r) = .finite (q + r) := rfl
      rw [List.foldl_cons, hstep, ih hrest]
      simp [value, add_assoc]

theorem foldl_exactSum_zero {xs : List Number} (h : ∀ x ∈ xs, zero.AtMost x) :
    xs.foldl exactSum zero = total xs := by
  have hzero : zero = .finite 0 := rfl
  rw [hzero, foldl_exactSum_finite h, zero_add, total]

theorem total_map_ofNat (ns : List Nat) : total (ns.map ofNat) = ofNat ns.sum := by
  have hfinite : Number.infinity ∉ ns.map ofNat := by simp [ofNat]
  have hvalue : value ∘ ofNat = Nat.cast := rfl
  rw [total, if_neg hfinite, ofNat, List.map_map, hvalue, Nat.cast_list_sum]

end Number
end Rollout
