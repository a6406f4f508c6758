import Rollout.Proofs.Number.Binary64
import Rollout.Proofs.Number.Order

/-
Rounding keeps the order. Quotients round in order because only one of two neighbouring whole
numbers is even; magnitudes do because a larger one never has a smaller unit, and where the
units differ a power of two lies between. So a binary64 sum grows with its terms, and adding
something that is not below zero never makes a sum smaller.
-/
namespace Rollout
namespace Binary64

open Number

/-! ## Quotients -/

/-- A quotient is at most half a unit from what it is rounded to, and exactly half a unit only
if that is even. -/
theorem roundDiv_near {a b : Nat} (hb : b ≠ 0) :
    2 * a ≤ b * (2 * roundDiv a b + 1) ∧
      (2 * a = b * (2 * roundDiv a b + 1) → roundDiv a b % 2 = 0) ∧
      2 * (b * roundDiv a b) ≤ 2 * a + b ∧
      (2 * (b * roundDiv a b) = 2 * a + b → roundDiv a b % 2 = 0) := by
  have hsplit : b * (a / b) + a % b = a := Nat.div_add_mod a b
  have hrest : a % b < b := Nat.mod_lt a (Nat.pos_of_ne_zero hb)
  have hlow : b * (2 * (a / b) + 1) = 2 * (b * (a / b)) + b := by ring
  have hhigh : b * (2 * (a / b + 1) + 1) = 2 * (b * (a / b)) + 3 * b := by ring
  have hup : b * (a / b + 1) = b * (a / b) + b := by ring
  simp only [roundDiv]
  split
  · omega
  · split
    · omega
    · split <;> omega

theorem roundDiv_mono {a b c d : Nat} (hb : b ≠ 0) (hd : d ≠ 0) (h : a * d ≤ c * b) :
    roundDiv a b ≤ roundDiv c d := by
  obtain ⟨-, -, hlow, hlowTie⟩ := roundDiv_near (a := a) hb
  obtain ⟨hhigh, hhighTie, -, -⟩ := roundDiv_near (a := c) hd
  by_contra hlt
  -- Then both quotients are the midpoint between two neighbours, and both of these are even.
  have hnext : roundDiv c d + 1 ≤ roundDiv a b := Nat.not_le.1 hlt
  have hpos : 0 < b * d := Nat.mul_pos (Nat.pos_of_ne_zero hb) (Nat.pos_of_ne_zero hd)
  generalize roundDiv a b = m at *
  generalize roundDiv c d = n at *
  have hstep : b * d * n + b * d ≤ b * d * m := by
    rw [← Nat.mul_succ]
    exact Nat.mul_le_mul_left _ hnext
  have hlow' : 2 * (b * d * m) ≤ 2 * (a * d) + b * d := by
    calc 2 * (b * d * m) = 2 * (b * m) * d := by ring
      _ ≤ (2 * a + b) * d := Nat.mul_le_mul_right d hlow
      _ = 2 * (a * d) + b * d := by ring
  have hhigh' : 2 * (c * b) ≤ 2 * (b * d * n) + b * d := by
    calc 2 * (c * b) = 2 * c * b := by ring
      _ ≤ d * (2 * n + 1) * b := Nat.mul_le_mul_right b hhigh
      _ = 2 * (b * d * n) + b * d := by ring
  have hm : m % 2 = 0 := by
    refine hlowTie (Nat.eq_of_mul_eq_mul_right (Nat.pos_of_ne_zero hd) ?_)
    calc 2 * (b * m) * d = 2 * (b * d * m) := by ring
      _ = 2 * (a * d) + b * d := by omega
      _ = (2 * a + b) * d := by ring
  have hn : n % 2 = 0 := by
    refine hhighTie (Nat.eq_of_mul_eq_mul_right (Nat.pos_of_ne_zero hb) ?_)
    calc 2 * c * b = 2 * (c * b) := by ring
      _ = 2 * (b * d * n) + b * d := by omega
      _ = d * (2 * n + 1) * b := by ring
  have hsucc : m = n + 1 := by
    refine Nat.eq_of_mul_eq_mul_left hpos ?_
    rw [Nat.mul_succ]
    omega
  omega

/-! ## Magnitudes -/

theorem unitCount_mono {a b c d : Nat} (hb : b ≠ 0) (hd : d ≠ 0) (e : Int)
    (h : (a : ℚ) / b ≤ (c : ℚ) / d) : unitCount a b e ≤ unitCount c d e := by
  obtain ⟨n, k, hk, hcount, hvalue⟩ := exists_unitCount_eq (a := a) hb e
  obtain ⟨n', k', hk', hcount', hvalue'⟩ := exists_unitCount_eq (a := c) hd e
  have hpow : (0 : ℚ) < 2 ^ e := zpow_pos (by norm_num) e
  have hpos : (0 : ℚ) < k := by exact_mod_cast Nat.pos_of_ne_zero hk
  have hpos' : (0 : ℚ) < k' := by exact_mod_cast Nat.pos_of_ne_zero hk'
  rw [hvalue, hvalue', mul_le_mul_iff_left₀ hpow, div_le_div_iff₀ hpos hpos'] at h
  rw [hcount, hcount']
  exact roundDiv_mono hk hk' (by exact_mod_cast h)

theorem le_unitCount {c d : Nat} (hd : d ≠ 0) {e : Int} {m : Nat}
    (h : (m : ℚ) * 2 ^ e ≤ (c : ℚ) / d) : m ≤ unitCount c d e := by
  obtain ⟨n, k, hk, hcount, hvalue⟩ := exists_unitCount_eq (a := c) hd e
  have hpos : (0 : ℚ) < k := by exact_mod_cast Nat.pos_of_ne_zero hk
  have hpow : (0 : ℚ) < 2 ^ e := zpow_pos (by norm_num) e
  rw [hvalue, mul_le_mul_iff_left₀ hpow, le_div_iff₀ hpos] at h
  have hwhole : roundDiv m 1 = m := by rw [roundDiv_of_dvd (one_dvd m) one_ne_zero, Nat.div_one]
  rw [hcount, ← hwhole]
  refine roundDiv_mono one_ne_zero hk ?_
  rw [Nat.mul_one]
  exact_mod_cast h

section Order

variable {a b c d : Nat} (ha : a ≠ 0) (hb : b ≠ 0) (hc : c ≠ 0) (hd : d ≠ 0)
include ha hb hc hd

/-- Where the unit grows, a power of two lies between what the magnitudes are rounded to. -/
theorem exists_pow_between (hlt : unitExponent a b < unitExponent c d) :
    (unitCount a b (unitExponent a b) : ℚ) * 2 ^ unitExponent a b ≤ 2 ^ (unitExponent c d + 52) ∧
      (2 : ℚ) ^ (unitExponent c d + 52) ≤
        unitCount c d (unitExponent c d) * 2 ^ unitExponent c d := by
  have hhigh := (binaryExponent_spec ha hb).2
  have hlow := (binaryExponent_spec hc hd).1
  have hbelow : binaryExponent a b - 52 ≤ unitExponent a b := le_max_left _ _
  have habove : unitExponent c d = binaryExponent c d - 52 := by
    have hleast : leastExponent ≤ unitExponent a b := le_max_right _ _
    rcases max_choice (binaryExponent c d - 52) leastExponent with hmax | hmax
    · exact hmax
    · have hfloor : unitExponent c d = leastExponent := hmax
      omega
  constructor
  · obtain ⟨k, hk⟩ := Int.eq_ofNat_of_zero_le
      (by omega : 0 ≤ unitExponent c d + 52 - unitExponent a b)
    have hpow : (2 : ℚ) ^ (unitExponent c d + 52) = (2 ^ k : Nat) * 2 ^ unitExponent a b := by
      push_cast
      rw [← zpow_natCast, ← zpow_add₀ (by norm_num), ← hk]
      congr 1
      omega
    have hcount : unitCount a b (unitExponent a b) ≤ 2 ^ k := by
      refine unitCount_le hb ?_
      rw [← hpow]
      exact hhigh.le.trans (zpow_le_zpow_right₀ (by norm_num) (by omega))
    rw [hpow]
    gcongr
  · have hpow : (2 : ℚ) ^ (unitExponent c d + 52) = (2 ^ 52 : Nat) * 2 ^ unitExponent c d := by
      push_cast
      rw [zpow_add₀ (by norm_num), mul_comm]
      norm_num
    have hcount : 2 ^ 52 ≤ unitCount c d (unitExponent c d) := by
      refine le_unitCount hd ?_
      rw [← hpow, habove, sub_add_cancel]
      exact hlow
    rw [hpow]
    gcongr

variable (h : (a : ℚ) / b ≤ (c : ℚ) / d)
include h

theorem binaryExponent_mono : binaryExponent a b ≤ binaryExponent c d := by
  have hlow := (binaryExponent_spec ha hb).1
  have hhigh := (binaryExponent_spec hc hd).2
  have hlt := (zpow_lt_zpow_iff_right₀ (by norm_num : (1 : ℚ) < 2)).1
    (hlow.trans_lt (h.trans_lt hhigh))
  omega

theorem unitExponent_mono : unitExponent a b ≤ unitExponent c d :=
  max_le_max (Int.sub_le_sub_right (binaryExponent_mono ha hb hc hd h) 52) le_rfl

theorem unitCount_mul_pow_mono :
    (unitCount a b (unitExponent a b) : ℚ) * 2 ^ unitExponent a b ≤
      unitCount c d (unitExponent c d) * 2 ^ unitExponent c d := by
  rcases (unitExponent_mono ha hb hc hd h).lt_or_eq with hlt | heq
  · obtain ⟨hbelow, habove⟩ := exists_pow_between ha hb hc hd hlt
    exact hbelow.trans habove
  · rw [heq]
    gcongr
    exact_mod_cast unitCount_mono hb hd (unitExponent c d) h

/-- A smaller magnitude does not overflow if a larger one does not, and stays smaller. -/
theorem nearestMagnitude_mono {s : ℚ} (hs : nearestMagnitude c d = some s) :
    ∃ r, nearestMagnitude a b = some r ∧ r ≤ s := by
  rw [nearestMagnitude_eq hc, Option.ite_none_left_eq_some, Option.some.injEq, scaled_eq] at hs
  obtain ⟨hfits, rfl⟩ := hs
  have hexponent := unitExponent_mono ha hb hc hd h
  have hfits' : ¬(971 < unitExponent a b ∨
      (unitExponent a b = 971 ∧ Nat.pow 2 53 ≤ unitCount a b (unitExponent a b))) := by
    rintro (hover | ⟨htop, hover⟩)
    · omega
    · have heq : unitExponent a b = unitExponent c d := by omega
      have hcount := unitCount_mono hb hd (unitExponent c d) h
      rw [heq] at hover
      exact hfits (.inr ⟨by omega, hover.trans hcount⟩)
  refine ⟨_, by rw [nearestMagnitude_eq ha, if_neg hfits', scaled_eq], ?_⟩
  exact unitCount_mul_pow_mono ha hb hc hd h

end Order

/-! ## Numbers -/

theorem nearest_mono {x y : ℚ} (hx : 0 ≤ x) (h : x ≤ y) : (nearest x).AtMost (nearest y) := by
  -- Zero has no exponent, so the order of magnitudes says nothing about it.
  rcases hx.eq_or_lt with rfl | hpos
  · exact zero_atMost_nearest h
  have hy : 0 < y := hpos.trans_le h
  have hnonneg : ¬x.num < 0 := Int.not_lt.2 (Rat.num_nonneg.2 hx)
  have hnonneg' : ¬y.num < 0 := Int.not_lt.2 (Rat.num_nonneg.2 hy.le)
  cases hmagnitude : nearestMagnitude y.num.natAbs y.den with
  | none =>
    have hover : nearest y = .infinity := by rw [nearest, hmagnitude]; exact if_neg hnonneg'
    rw [hover]
    exact atMost_infinity (zero_atMost_nearest hx)
  | some s =>
    have hdiv : (x.num.natAbs : ℚ) / x.den ≤ (y.num.natAbs : ℚ) / y.den := by
      rwa [← abs_eq_div, ← abs_eq_div, abs_of_pos hpos, abs_of_pos hy]
    obtain ⟨r, hr, hrs⟩ := nearestMagnitude_mono (Int.natAbs_ne_zero.2 (Rat.num_ne_zero.2 hpos.ne'))
      x.den_ne_zero (Int.natAbs_ne_zero.2 (Rat.num_ne_zero.2 hy.ne')) y.den_ne_zero hdiv hmagnitude
    rw [nearest, nearest, hr, hmagnitude]
    simp only [if_neg hnonneg, if_neg hnonneg']
    exact hrs

theorem rounded_mono {a b : Number} (ha : zero.AtMost a) (h : a.AtMost b) :
    (a.rounded nearest).AtMost (b.rounded nearest) := by
  rcases zero_atMost_iff.1 ha with rfl | ⟨x, hx, rfl⟩
  · cases b with
    | infinity => trivial
    | _ => exact h.elim
  · cases b with
    | finite y => exact nearest_mono hx h
    | infinity => exact atMost_infinity (zero_atMost_nearest hx)
    | _ => exact h.elim

theorem isBinary64_rounded (n : Number) : (n.rounded nearest).IsBinary64 := by
  cases n with
  | finite q => exact isBinary64_nearest q
  | _ => trivial

theorem rounded_of_isBinary64 {n : Number} (h : n.IsBinary64) : n.rounded nearest = n := by
  cases n with
  | finite q => exact h
  | _ => rfl

/-! ## Sums -/

/-- A larger term makes no smaller sum. -/
theorem add_mono_left {a b c : Number} (ha : zero.AtMost a) (hab : a.AtMost b)
    (hc : zero.AtMost c) : (add a c).AtMost (add b c) :=
  rounded_mono (zero_atMost_exactSum ha hc) (exactSum_mono_left ha hab hc)

/-- One more term makes no smaller sum, rounded though the sum may be. -/
theorem add_atMost_add {a b c : Number} (ha : zero.AtMost a) (hb : zero.AtMost b)
    (hc : zero.AtMost c) : (add a b).AtMost (add (add a b) c) := by
  have hsum := zero_atMost_add ha hb
  have hheld : (add a b).rounded nearest = add a b :=
    rounded_of_isBinary64 (isBinary64_rounded (a.exactSum b))
  have hrounded := rounded_mono hsum (atMost_exactSum hsum hc)
  rwa [hheld] at hrounded

/-! ## Whole sums -/

/-- Whole numbers add up without rounding as long as the sum is at most `2 ^ 53`. -/
theorem add_ofNat {m n : Nat} (h : m + n ≤ 2 ^ 53) : add (ofNat m) (ofNat n) = ofNat (m + n) := by
  have hsum : (ofNat m).exactSum (ofNat n) = ofNat (m + n) := by
    rw [ofNat, ofNat, exactSum, ofNat, Rat.natCast_add]
  rw [add, hsum, rounded_of_isBinary64 (isBinary64_ofNat h)]

theorem foldl_add_ofNat {ns : List Nat} {m : Nat} (h : m + ns.sum ≤ 2 ^ 53) :
    (ns.map ofNat).foldl add (ofNat m) = ofNat (m + ns.sum) := by
  induction ns generalizing m with
  | nil => rfl
  | cons n rest ih =>
    rw [List.sum_cons, ← Nat.add_assoc] at h
    rw [List.map_cons, List.foldl_cons, add_ofNat (by omega), ih h, List.sum_cons, Nat.add_assoc]

end Binary64
end Rollout
