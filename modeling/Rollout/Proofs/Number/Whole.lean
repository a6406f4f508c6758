import Mathlib.Algebra.Order.Ring.Unbundled.Rat
import Rollout.Number.Basic

/-
Whole numbers among the numbers. One that is not below zero is a natural number, no other
is taken for it, and its comparisons are those of the natural numbers.
-/
namespace Rollout
namespace Number

theorem toNat_ofNat (n : Nat) : (ofNat n).toNat = n := by
  rw [ofNat, toNat, Rat.num_natCast, Int.toNat_natCast]

theorem isInteger_ofNat (n : Nat) : (ofNat n).isInteger = true := by
  rw [ofNat, isInteger, Rat.den_natCast]
  rfl

theorem ofNat_lt_ofNat (m n : Nat) : (ofNat m).lt (ofNat n) = decide (m < n) := by
  rw [ofNat, ofNat, lt, decide_eq_decide]
  exact Rat.natCast_lt_natCast

theorem ofNat_ne_notANumber (n : Nat) : ofNat n ≠ .notANumber := by
  intro h
  cases h

/-- A whole number that is not below zero loses nothing as a natural number. -/
theorem ofNat_toNat {x : Number} (hwhole : x.isInteger = true) (hzero : x.lt zero = false) :
    ofNat x.toNat = x := by
  cases x with
  | finite q =>
    have hden : q.den = 1 := eq_of_beq hwhole
    have hnum : 0 ≤ q.num := Rat.num_nonneg.2 (Rat.not_lt.1 (of_decide_eq_false hzero))
    have hcast : ((q.num.toNat : Int) : Rat) = q := by
      rw [Int.toNat_of_nonneg hnum, Rat.coe_int_num_of_den_eq_one hden]
    show Number.finite (q.num.toNat : Rat) = .finite q
    rw [← Rat.intCast_natCast, hcast]
  | infinity => cases hwhole
  | negInfinity => cases hwhole
  | notANumber => cases hwhole

end Number
end Rollout
