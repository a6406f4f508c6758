import Rollout.Number.Decimal
import Rollout.Proofs.Number.Rounding

/-
The range of binary64. A number above zero is rounded to a finite number above zero exactly
if it is more than half the least one and less than half a unit beyond the greatest one; up to
the one bound it vanishes and from the other on it overflows.
-/
namespace Rollout
namespace Binary64

open Number

/-- Half the least positive number. The tie goes to zero. -/
def underflowBound : Rat := scaled 1 (-1075)

/-- The greatest finite number and half a unit: `2 ^ 1024 - 2 ^ 970`. The tie goes to
infinity. -/
def overflowBound : Rat := scaled (2 ^ 54 - 1) 970

theorem underflowBound_eq : underflowBound = (2 : ℚ) ^ (-1075 : ℤ) := by
  rw [underflowBound, scaled_eq, Nat.cast_one, one_mul]

theorem overflowBound_eq : overflowBound = (2 ^ 53 - 1 / 2) * (2 : ℚ) ^ (971 : ℤ) := by
  have hdigits : ((2 ^ 54 - 1 : Nat) : ℚ) = (2 ^ 53 - 1 / 2) * 2 := by norm_num
  rw [overflowBound, scaled_eq, hdigits, mul_assoc, ← zpow_one_add₀ (by norm_num)]
  rfl

theorem underflowBound_pos : 0 < underflowBound := by
  rw [underflowBound_eq]
  exact zpow_pos (by norm_num) _

theorem overflowBound_pos : 0 < overflowBound := by
  rw [overflowBound_eq]
  exact mul_pos (by norm_num) (zpow_pos (by norm_num) _)

theorem overflowBound_lt : overflowBound < (2 : ℚ) ^ (1024 : ℤ) := by
  have hpow : (2 : ℚ) ^ (1024 : ℤ) = 2 ^ 53 * 2 ^ (971 : ℤ) := by
    rw [← zpow_natCast, ← zpow_add₀ (by norm_num)]
    rfl
  rw [overflowBound_eq, hpow]
  exact mul_lt_mul_of_pos_right (by norm_num) (zpow_pos (by norm_num) _)

theorem leastPositive_eq : leastPositive = .finite ((2 : ℚ) ^ leastExponent) := by
  have hscaled : leastPositive = .finite (scaled 1 leastExponent) := by decide +kernel
  rw [hscaled, scaled_eq, Nat.cast_one, one_mul]

/-- Nothing that binary64 has lies between zero and the least unit. -/
theorem Representable.least_le {r : ℚ} (h : Representable r) (hr : 0 < r) :
    (2 : ℚ) ^ leastExponent ≤ r := by
  obtain ⟨m, e, rfl, -, hleast, -⟩ := h
  have hpow : (0 : ℚ) < 2 ^ e := zpow_pos (by norm_num) e
  have hone : (1 : ℚ) ≤ m := by
    have hpos : (0 : ℚ) < m := pos_of_mul_pos_left hr hpow.le
    exact_mod_cast hpos
  calc (2 : ℚ) ^ leastExponent ≤ 2 ^ e := zpow_le_zpow_right₀ (by norm_num) hleast
    _ ≤ m * 2 ^ e := le_mul_of_one_le_left hpow.le hone

/-! ## Units -/

/-- A magnitude is at most half a unit from what it is rounded to. -/
theorem unitCount_near {a b : Nat} (hb : b ≠ 0) (e : Int) :
    (a : ℚ) / b ≤ (unitCount a b e + 1 / 2) * 2 ^ e ∧
      ((unitCount a b e : ℚ) - 1 / 2) * 2 ^ e ≤ (a : ℚ) / b := by
  obtain ⟨n, d, hd, hcount, hvalue⟩ := exists_unitCount_eq (a := a) hb e
  obtain ⟨hhigh, -, hlow, -⟩ := roundDiv_near (a := n) hd
  have hpos : (0 : ℚ) < d := by exact_mod_cast Nat.pos_of_ne_zero hd
  have hhigh' : 2 * (n : ℚ) ≤ d * (2 * roundDiv n d + 1) := by exact_mod_cast hhigh
  have hlow' : 2 * ((d : ℚ) * roundDiv n d) ≤ 2 * n + d := by exact_mod_cast hlow
  rw [hvalue, hcount]
  constructor
  · gcongr
    rw [div_le_iff₀ hpos]
    linarith
  · gcongr
    rw [le_div_iff₀ hpos]
    linarith

section Magnitudes

variable {a b : Nat} (ha : a ≠ 0) (hb : b ≠ 0)
include ha hb

/-- What is rounded to no unit at all is at most half the least one. -/
theorem le_underflowBound (h : nearestMagnitude a b = some 0) : (a : ℚ) / b ≤ underflowBound := by
  rw [nearestMagnitude_eq ha, Option.ite_none_left_eq_some, Option.some.injEq, scaled_eq] at h
  have hunit : (2 : ℚ) ^ unitExponent a b ≠ 0 := (zpow_pos (by norm_num) _).ne'
  have hcount : (unitCount a b (unitExponent a b) : ℚ) = 0 :=
    (mul_eq_zero.1 h.2).resolve_right hunit
  have hhalf : (1 / 2 : ℚ) * 2 ^ unitExponent a b = 2 ^ (unitExponent a b - 1) := by
    rw [zpow_sub_one₀ (by norm_num)]
    ring
  have hnear := (unitCount_near (a := a) hb (unitExponent a b)).1
  rw [hcount, zero_add, hhalf] at hnear
  -- A leading digit below the unit means that the unit is the least one.
  have hexponent := (zpow_le_zpow_iff_right₀ (by norm_num : (1 : ℚ) < 2)).1
    ((binaryExponent_spec ha hb).1.trans hnear)
  have hleast : unitExponent a b - 1 ≤ -1075 := by
    rw [unitExponent, leastExponent] at hexponent ⊢
    omega
  rw [underflowBound_eq]
  exact hnear.trans (zpow_le_zpow_right₀ (by norm_num) hleast)

theorem overflowBound_le (h : nearestMagnitude a b = none) : overflowBound ≤ (a : ℚ) / b := by
  rw [nearestMagnitude_eq ha] at h
  have hover : 971 < unitExponent a b ∨
      unitExponent a b = 971 ∧ Nat.pow 2 53 ≤ unitCount a b (unitExponent a b) := by
    by_contra hfits
    rw [if_neg hfits] at h
    cases h
  -- The leading digit is too high, or it is the highest and the digits round up to the next one.
  rcases hover with hexponent | ⟨hexponent, hcount⟩
  · have hleading : 1024 ≤ binaryExponent a b := by
      rw [unitExponent, leastExponent] at hexponent
      omega
    exact (overflowBound_lt.le.trans (zpow_le_zpow_right₀ (by norm_num) hleading)).trans
      (binaryExponent_spec ha hb).1
  · have hnear := (unitCount_near (a := a) hb (unitExponent a b)).2
    rw [hexponent] at hnear hcount
    have hcount' : (2 : ℚ) ^ 53 ≤ unitCount a b 971 := by exact_mod_cast hcount
    rw [overflowBound_eq]
    refine le_trans ?_ hnear
    gcongr

end Magnitudes

/-! ## Numbers -/

theorem nearest_neg (q : ℚ) : nearest (-q) = Decimal.negated (nearest q) := by
  by_cases hq : q = 0
  · subst hq
    decide +kernel
  have hnum : q.num ≠ 0 := Rat.num_ne_zero.2 hq
  rw [nearest, nearest, Rat.neg_num, Rat.neg_den, Int.natAbs_neg]
  cases nearestMagnitude q.num.natAbs q.den <;> rcases hnum.lt_or_gt with hneg | hpos
  · simp [hneg, hneg.not_gt, Decimal.negated]
  · simp [hpos, hpos.not_gt, Decimal.negated]
  · simp [hneg, hneg.not_gt, Decimal.negated]
  · simp [hpos, hpos.not_gt, Decimal.negated]

theorem nearest_bounds :
    nearest 0 = .zero ∧ nearest underflowBound = .zero ∧ nearest overflowBound = .infinity := by
  decide +kernel

theorem nearest_eq_zero {q : ℚ} (hq : 0 ≤ q) (h : q ≤ underflowBound) : nearest q = .zero := by
  have hbelow := nearest_mono hq h
  rw [nearest_bounds.2.1] at hbelow
  rcases zero_atMost_iff.1 (zero_atMost_nearest hq) with hover | ⟨r, hr, hfinite⟩
  · rw [hover] at hbelow
    exact hbelow.elim
  · rw [hfinite] at hbelow ⊢
    rw [le_antisymm hbelow (by exact_mod_cast hr)]
    rfl

theorem nearest_nonpos {q r : ℚ} (hq : q ≤ 0) (h : nearest q = .finite r) : r ≤ 0 := by
  have hneg : 0 ≤ -q := neg_nonneg.2 hq
  have hflip := nearest_neg q
  rw [h] at hflip
  have habove := zero_atMost_nearest hneg
  rw [hflip] at habove
  exact neg_nonneg.1 (by exact_mod_cast habove)

theorem nearest_eq_infinity_of_le {p q : ℚ} (hp : 0 ≤ p) (h : nearest p = .infinity)
    (hpq : p ≤ q) : nearest q = .infinity := by
  have habove := nearest_mono hp hpq
  rw [h] at habove
  cases hq : nearest q with
  | infinity => rfl
  | _ =>
    rw [hq] at habove
    exact habove.elim

theorem nearest_eq_infinity {q : ℚ} (h : overflowBound ≤ q) : nearest q = .infinity :=
  nearest_eq_infinity_of_le overflowBound_pos.le nearest_bounds.2.2 h

/-- Exactly between the bounds there is something finite and above zero to round to. -/
theorem nearest_pos_iff {q : ℚ} :
    (∃ r, 0 < r ∧ nearest q = .finite r) ↔ underflowBound < q ∧ q < overflowBound := by
  constructor
  · rintro ⟨r, hr, hnearest⟩
    constructor
    · by_contra hsmall
      rcases le_total q 0 with hq | hq
      · exact absurd (nearest_nonpos hq hnearest) hr.not_ge
      · rw [nearest_eq_zero hq (not_lt.1 hsmall)] at hnearest
        exact hr.ne (Number.finite.inj hnearest)
    · by_contra hlarge
      rw [nearest_eq_infinity (not_lt.1 hlarge)] at hnearest
      cases hnearest
  · rintro ⟨hlow, hhigh⟩
    have hq : 0 < q := underflowBound_pos.trans hlow
    have hnum : q.num.natAbs ≠ 0 := Int.natAbs_ne_zero.2 (Rat.num_ne_zero.2 hq.ne')
    have hvalue : (q.num.natAbs : ℚ) / q.den = q := by rw [← abs_eq_div, abs_of_pos hq]
    have hsign : ¬q.num < 0 := Int.not_lt.2 (Rat.num_nonneg.2 hq.le)
    cases hmagnitude : nearestMagnitude q.num.natAbs q.den with
    | none =>
      have hover := overflowBound_le hnum q.den_ne_zero hmagnitude
      rw [hvalue] at hover
      exact absurd hhigh hover.not_gt
    | some r =>
      have hnonneg := (representable_of_nearestMagnitude q.den_ne_zero hmagnitude).nonneg
      have hne : r ≠ 0 := by
        rintro rfl
        have hunder := le_underflowBound hnum q.den_ne_zero hmagnitude
        rw [hvalue] at hunder
        exact absurd hlow hunder.not_gt
      refine ⟨r, hnonneg.lt_of_ne' hne, ?_⟩
      rw [nearest, hmagnitude]
      simp only [if_neg hsign]

end Binary64

end Rollout
