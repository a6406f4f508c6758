import Mathlib.Algebra.Order.Field.Power
import Mathlib.Tactic.FieldSimp
import Mathlib.Tactic.Linarith
import Mathlib.Tactic.NormNum
import Mathlib.Tactic.Positivity
import Mathlib.Tactic.Ring
import Rollout.Number.Binary64

/-
The numbers binary64 can hold. A magnitude is a whole number of units in the last place,
and the unit depends on the magnitude alone; so a number that is a whole number of units of
any smaller kind is its own rounding, and what rounding gives is such a number.
-/
namespace Rollout

/-- A number that binary64 can hold: rounding leaves it as it is. -/
def Number.IsBinary64 : Number → Prop
  | .finite q => Binary64.nearest q = .finite q
  | _ => True

namespace Binary64

/-! ## Exponents -/

theorem zpow_of_nonneg {e : Int} (h : 0 ≤ e) : ((2 : ℚ) ^ e) = (Nat.pow 2 e.toNat : Nat) := by
  obtain ⟨n, rfl⟩ := Int.eq_ofNat_of_zero_le h
  simp

theorem zpow_of_neg {e : Int} (h : ¬0 ≤ e) : ((2 : ℚ) ^ e) = ((Nat.pow 2 (-e).toNat : Nat) : ℚ)⁻¹ := by
  rw [← zpow_of_nonneg (by omega : 0 ≤ -e), zpow_neg, inv_inv]

theorem scaled_eq (m : Nat) (e : Int) : scaled m e = m * (2 : ℚ) ^ e := by
  rw [scaled]
  split
  case isTrue h => rw [zpow_of_nonneg h, Nat.cast_mul]
  case isFalse h => rw [zpow_of_neg h, Rat.mkRat_eq_div, div_eq_mul_inv, Int.cast_natCast]

theorem zpow_log2_le {n : Nat} (h : n ≠ 0) : (2 : ℚ) ^ (n.log2 : Int) ≤ n := by
  rw [zpow_natCast]
  exact_mod_cast Nat.log2_self_le h

theorem lt_zpow_log2 (n : Nat) : (n : ℚ) < 2 ^ ((n.log2 : Int) + 1) := by
  have h : n < 2 ^ (n.log2 + 1) := Nat.lt_log2_self
  exact_mod_cast h

/-- Whether a quotient reaches a power of two, asked without a fraction. -/
theorem reached_iff {a b : Nat} (hb : b ≠ 0) (k : Int) :
    (if 0 ≤ k then b * Nat.pow 2 k.toNat ≤ a else b ≤ a * Nat.pow 2 (-k).toNat) ↔
      (2 : ℚ) ^ k ≤ (a : ℚ) / b := by
  have hpos : (0 : ℚ) < b := by exact_mod_cast Nat.pos_of_ne_zero hb
  rw [le_div_iff₀ hpos]
  split
  case isTrue h =>
    rw [zpow_of_nonneg h, ← Nat.cast_mul, Nat.cast_le, Nat.mul_comm]
  case isFalse h =>
    have hpow : (0 : ℚ) < (Nat.pow 2 (-k).toNat : Nat) := by
      exact_mod_cast Nat.pow_pos (by decide : 0 < 2)
    rw [zpow_of_neg h, inv_mul_le_iff₀ hpow, ← Nat.cast_mul, Nat.cast_le, Nat.mul_comm]

/-- The exponent is that of the leading binary digit. -/
theorem binaryExponent_spec {a b : Nat} (ha : a ≠ 0) (hb : b ≠ 0) :
    (2 : ℚ) ^ binaryExponent a b ≤ (a : ℚ) / b ∧ (a : ℚ) / b < 2 ^ (binaryExponent a b + 1) := by
  have hpos : (0 : ℚ) < b := by exact_mod_cast Nat.pos_of_ne_zero hb
  have hhigh : (a : ℚ) / b < 2 ^ ((a.log2 : Int) - b.log2 + 1) := by
    rw [div_lt_iff₀ hpos]
    calc (a : ℚ) < 2 ^ ((a.log2 : Int) + 1) := lt_zpow_log2 a
      _ = 2 ^ ((a.log2 : Int) - b.log2 + 1) * 2 ^ (b.log2 : Int) := by
        rw [← zpow_add₀ (by norm_num)]
        ring_nf
      _ ≤ 2 ^ ((a.log2 : Int) - b.log2 + 1) * b := by
        gcongr
        exact zpow_log2_le hb
  have hlow : (2 : ℚ) ^ ((a.log2 : Int) - b.log2 - 1) ≤ (a : ℚ) / b := by
    rw [le_div_iff₀ hpos]
    calc (2 : ℚ) ^ ((a.log2 : Int) - b.log2 - 1) * b
        ≤ 2 ^ ((a.log2 : Int) - b.log2 - 1) * 2 ^ ((b.log2 : Int) + 1) := by
          gcongr
          exact (lt_zpow_log2 b).le
      _ = 2 ^ (a.log2 : Int) := by
        rw [← zpow_add₀ (by norm_num)]
        ring_nf
      _ ≤ a := zpow_log2_le ha
  have hreached := reached_iff (a := a) hb ((a.log2 : Int) - b.log2)
  simp only [binaryExponent, Int.ofNat_eq_natCast]
  by_cases h : (2 : ℚ) ^ ((a.log2 : Int) - b.log2) ≤ (a : ℚ) / b
  · rw [if_pos (hreached.2 h)]
    exact ⟨h, hhigh⟩
  · rw [if_neg (mt hreached.1 h), sub_add_cancel]
    exact ⟨hlow, not_le.1 h⟩

/-! ## Rounding a quotient -/

theorem roundDiv_of_dvd {a b : Nat} (h : b ∣ a) (hb : b ≠ 0) : roundDiv a b = a / b := by
  have hmod : a % b = 0 := Nat.mod_eq_zero_of_dvd h
  have hlt : 2 * (a % b) < b := by omega
  simp only [roundDiv, if_pos hlt]

theorem roundDiv_le {a b m : Nat} (hb : b ≠ 0) (h : a ≤ b * m) : roundDiv a b ≤ m := by
  have hdiv : a / b ≤ m := Nat.div_le_of_le_mul h
  have hup : a % b ≠ 0 → a / b + 1 ≤ m := by
    intro hmod
    have hlt : a < b * m := by
      refine Nat.lt_of_le_of_ne h fun heq => hmod ?_
      rw [heq, Nat.mul_mod_right]
    exact Nat.div_lt_of_lt_mul hlt
  simp only [roundDiv]
  split
  · exact hdiv
  · split
    · exact hup (by omega)
    · split
      · exact hdiv
      · exact hup (by omega)

/-! ## Rounding a magnitude -/

/-- The exponent of the unit that a magnitude is rounded to. -/
def unitExponent (a b : Nat) : Int := max (binaryExponent a b - 52) leastExponent

/-- How many units a magnitude is rounded to. -/
def unitCount (a b : Nat) (e : Int) : Nat :=
  if 0 ≤ e then roundDiv a (b * Nat.pow 2 e.toNat) else roundDiv (a * Nat.pow 2 (-e).toNat) b

theorem nearestMagnitude_eq {a b : Nat} (ha : a ≠ 0) :
    nearestMagnitude a b =
      if 971 < unitExponent a b ∨
          (unitExponent a b = 971 ∧ Nat.pow 2 53 ≤ unitCount a b (unitExponent a b)) then none
      else some (scaled (unitCount a b (unitExponent a b)) (unitExponent a b)) := by
  rw [nearestMagnitude, if_neg ha]
  rfl

/-- A quotient counted in units, both sides whole. -/
theorem exists_unitCount_eq {a b : Nat} (hb : b ≠ 0) (e : Int) :
    ∃ n d, d ≠ 0 ∧ unitCount a b e = roundDiv n d ∧ (a : ℚ) / b = (n : ℚ) / d * 2 ^ e := by
  have hpow (k : Nat) : Nat.pow 2 k ≠ 0 := (Nat.pow_pos (by decide : 0 < 2)).ne'
  have hcast (k : Nat) : ((Nat.pow 2 k : Nat) : ℚ) ≠ 0 := by exact_mod_cast hpow k
  rw [unitCount]
  split
  case isTrue h =>
    refine ⟨a, _, Nat.mul_ne_zero hb (hpow e.toNat), rfl, ?_⟩
    rw [zpow_of_nonneg h, Nat.cast_mul]
    have := hcast e.toNat
    field_simp
  case isFalse h =>
    refine ⟨_, b, hb, rfl, ?_⟩
    rw [zpow_of_neg h, Nat.cast_mul]
    have := hcast (-e).toNat
    field_simp

theorem unitCount_le {a b : Nat} (hb : b ≠ 0) {e : Int} {m : Nat}
    (h : (a : ℚ) / b ≤ m * 2 ^ e) : unitCount a b e ≤ m := by
  obtain ⟨n, d, hd, hcount, hvalue⟩ := exists_unitCount_eq (a := a) hb e
  have hpos : (0 : ℚ) < d := by exact_mod_cast Nat.pos_of_ne_zero hd
  have hpow : (0 : ℚ) < 2 ^ e := zpow_pos (by norm_num) e
  rw [hvalue, mul_le_mul_iff_left₀ hpow, div_le_iff₀ hpos] at h
  rw [hcount]
  refine roundDiv_le hd ?_
  rw [Nat.mul_comm]
  exact_mod_cast h

theorem unitCount_eq {a b : Nat} (hb : b ≠ 0) {e : Int} {m : Nat}
    (h : (a : ℚ) / b = m * 2 ^ e) : unitCount a b e = m := by
  obtain ⟨n, d, hd, hcount, hvalue⟩ := exists_unitCount_eq (a := a) hb e
  have hd' : (d : ℚ) ≠ 0 := by exact_mod_cast hd
  have hpow : (2 : ℚ) ^ e ≠ 0 := (zpow_pos (by norm_num) e).ne'
  rw [hvalue, mul_left_inj' hpow, div_eq_iff hd'] at h
  have hn : n = m * d := by exact_mod_cast h
  rw [hcount, roundDiv_of_dvd ⟨m, by rw [hn, Nat.mul_comm]⟩ hd, hn,
    Nat.mul_div_cancel m (Nat.pos_of_ne_zero hd)]

/-! ## Magnitudes that need no rounding -/

/-- A magnitude of fewer than `2 ^ 53` units of some unit. -/
def Representable (r : ℚ) : Prop :=
  ∃ (m : Nat) (e : Int), r = m * 2 ^ e ∧ m < 2 ^ 53 ∧ -1074 ≤ e ∧ e ≤ 971

theorem representable_zero : Representable 0 := ⟨0, 0, by norm_num, by decide, by decide, by decide⟩

theorem Representable.nonneg {r : ℚ} (h : Representable r) : 0 ≤ r := by
  obtain ⟨m, e, rfl, -⟩ := h
  positivity

/-- A representable magnitude is a whole number of the least units. -/
theorem Representable.exists_units {r : ℚ} (h : Representable r) :
    ∃ n : Nat, r * 2 ^ 1074 = n := by
  obtain ⟨m, e, rfl, -, hleast, -⟩ := h
  obtain ⟨k, hk⟩ := Int.eq_ofNat_of_zero_le (by omega : 0 ≤ e + 1074)
  refine ⟨m * 2 ^ k, ?_⟩
  have he : (2 : ℚ) ^ e * 2 ^ 1074 = 2 ^ k := by
    rw [← zpow_natCast 2 1074, ← zpow_add₀ (by norm_num), ← zpow_natCast, ← hk]
    norm_num
  push_cast
  rw [mul_assoc, he]

theorem unitExponent_le {a b m : Nat} {e : Int} (ha : a ≠ 0) (hb : b ≠ 0)
    (hvalue : (a : ℚ) / b = m * 2 ^ e) (hlt : m < 2 ^ 53) (he : -1074 ≤ e) :
    unitExponent a b ≤ e := by
  have hlow := (binaryExponent_spec ha hb).1
  have hhigh : (a : ℚ) / b < 2 ^ (53 + e) := by
    rw [hvalue, zpow_add₀ (by norm_num)]
    gcongr
    exact_mod_cast hlt
  have hexponent := (zpow_lt_zpow_iff_right₀ (by norm_num : (1 : ℚ) < 2)).1 (hlow.trans_lt hhigh)
  rw [unitExponent, leastExponent]
  omega

/-- A representable magnitude is its own rounding. -/
theorem nearestMagnitude_of_representable {a b : Nat} (hb : b ≠ 0)
    (h : Representable ((a : ℚ) / b)) : nearestMagnitude a b = some ((a : ℚ) / b) := by
  by_cases ha : a = 0
  · simp [ha, nearestMagnitude]
  obtain ⟨m, e, hvalue, hm, hleast, hgreatest⟩ := h
  have hle := unitExponent_le ha hb hvalue hm hleast
  -- Counted in the unit of rounding, which is no larger, the magnitude is still whole.
  obtain ⟨k, hk⟩ := Int.eq_ofNat_of_zero_le (sub_nonneg.2 hle)
  have hunits : (a : ℚ) / b = (m * 2 ^ k : Nat) * 2 ^ unitExponent a b := by
    have he : e = k + unitExponent a b := by omega
    rw [hvalue, he, zpow_add₀ (by norm_num), zpow_natCast]
    push_cast
    ring
  have hcount := unitCount_eq hb hunits
  have hfits : ¬(971 < unitExponent a b ∨
      (unitExponent a b = 971 ∧ Nat.pow 2 53 ≤ unitCount a b (unitExponent a b))) := by
    rintro (hover | ⟨htop, hover⟩)
    · omega
    · obtain rfl : k = 0 := by omega
      rw [hcount, pow_zero, Nat.mul_one] at hover
      exact absurd hm (Nat.not_lt.2 hover)
  rw [nearestMagnitude_eq ha, if_neg hfits, scaled_eq, hcount, ← hunits]

theorem representable_of_nearestMagnitude {a b : Nat} (hb : b ≠ 0) {r : ℚ}
    (h : nearestMagnitude a b = some r) : Representable r := by
  by_cases ha : a = 0
  · rw [nearestMagnitude, if_pos ha, Option.some.injEq] at h
    exact h ▸ representable_zero
  rw [nearestMagnitude_eq ha, Option.ite_none_left_eq_some, Option.some.injEq, scaled_eq] at h
  obtain ⟨hfits, rfl⟩ := h
  have hexponent : unitExponent a b ≤ 971 := by omega
  have hleast : -1074 ≤ unitExponent a b := le_max_right _ _
  have hcount : unitCount a b (unitExponent a b) ≤ 2 ^ 53 := by
    refine unitCount_le hb ?_
    have hhigh := (binaryExponent_spec ha hb).2.le
    refine hhigh.trans ?_
    rw [Nat.cast_pow, Nat.cast_ofNat, ← zpow_natCast, ← zpow_add₀ (by norm_num)]
    refine zpow_le_zpow_right₀ (by norm_num) ?_
    have hunit : binaryExponent a b - 52 ≤ unitExponent a b := le_max_left _ _
    push_cast
    omega
  rcases Nat.lt_or_eq_of_le hcount with hlt | heq
  · exact ⟨_, _, rfl, hlt, hleast, hexponent⟩
  · -- Rounded up to the next power of two, the magnitude has half as many units of the next kind.
    have hroom : unitExponent a b ≠ 971 := fun htop => hfits (.inr ⟨htop, heq.ge⟩)
    refine ⟨2 ^ 52, unitExponent a b + 1, ?_, by decide, by omega, by omega⟩
    rw [heq, zpow_add₀ (by norm_num)]
    push_cast
    ring

/-! ## Numbers that need no rounding -/

theorem abs_eq_div (q : ℚ) : |q| = (q.num.natAbs : ℚ) / q.den := by
  rw [Rat.abs_def, Rat.divInt_eq_div]
  rfl

theorem signed_abs (q : ℚ) : (if q.num < 0 then -|q| else |q|) = q := by
  split
  case isTrue h => rw [abs_of_neg (Rat.num_neg.1 h), neg_neg]
  case isFalse h => rw [abs_of_nonneg (Rat.num_nonneg.1 (Int.not_lt.1 h))]

theorem isBinary64_finite_iff {q : ℚ} : (Number.finite q).IsBinary64 ↔ Representable |q| := by
  rw [Number.IsBinary64, nearest]
  constructor
  · intro h
    cases hmagnitude : nearestMagnitude q.num.natAbs q.den with
    | none =>
      rw [hmagnitude] at h
      dsimp only at h
      split at h <;> cases h
    | some r =>
      rw [hmagnitude] at h
      have hr : Representable r := representable_of_nearestMagnitude q.den_ne_zero hmagnitude
      rw [← Number.finite.inj h]
      split
      · rwa [abs_neg, abs_of_nonneg hr.nonneg]
      · rwa [abs_of_nonneg hr.nonneg]
  · intro h
    rw [abs_eq_div] at h
    rw [nearestMagnitude_of_representable q.den_ne_zero h, ← abs_eq_div]
    simp only [signed_abs]

/-- Rounding again changes nothing. -/
theorem isBinary64_nearest (q : ℚ) : (nearest q).IsBinary64 := by
  rw [nearest]
  cases hmagnitude : nearestMagnitude q.num.natAbs q.den with
  | none =>
    dsimp only
    split <;> exact trivial
  | some r =>
    have hr : Representable r := representable_of_nearestMagnitude q.den_ne_zero hmagnitude
    refine isBinary64_finite_iff.2 ?_
    split
    · rwa [abs_neg, abs_of_nonneg hr.nonneg]
    · rwa [abs_of_nonneg hr.nonneg]

theorem isBinary64_ofNat {n : Nat} (h : n ≤ 2 ^ 53) : (Number.ofNat n).IsBinary64 := by
  refine isBinary64_finite_iff.2 ?_
  rw [Nat.abs_cast]
  rcases h.lt_or_eq with hlt | rfl
  · exact ⟨n, 0, by rw [zpow_zero, mul_one], hlt, by decide, by decide⟩
  · exact ⟨2 ^ 52, 1, by norm_num, by decide, by decide, by decide⟩

end Binary64
end Rollout
