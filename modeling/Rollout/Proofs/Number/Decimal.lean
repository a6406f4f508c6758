import Rollout.Proofs.Number.Range
import Rollout.Number.Shortest

/-
Decimal numerals. Those that are settled by their order of magnitude are out of the range of
binary64, so every numeral is read as the number nearest to its value, and a value that
binary64 can hold is read exactly.
-/
namespace Rollout
namespace Decimal

/-! ## Digits -/

theorem ofDigits_eq (cs : List Char) : ofDigits cs = Nat.ofDigitChars 10 cs 0 := by
  rw [ofDigits, Nat.ofDigitChars_eq_foldl]
  congr 1
  funext acc c
  rw [digitValue, Nat.mul_comm]

theorem ofDigits_append (xs ys : List Char) :
    ofDigits (xs ++ ys) = ofDigits xs * 10 ^ ys.length + ofDigits ys := by
  rw [ofDigits_eq, Nat.ofDigitChars_append, Nat.ofDigitChars_eq_ofDigitChars_zero, ofDigits_eq,
    ofDigits_eq, Nat.mul_comm]

theorem ofDigits_replicate_zero (k : Nat) : ofDigits (List.replicate k '0') = 0 := by
  rw [ofDigits_eq, Nat.ofDigitChars_replicate_zero, Nat.mul_zero]

theorem ofDigits_toDigits (n : Nat) : ofDigits (Nat.toDigits 10 n) = n := by
  rw [ofDigits_eq, Nat.ofDigitChars_ten_toDigits]

theorem digitCount_le_iff {n k : Nat} : digitCount n ≤ k ↔ n < 10 ^ k := by
  rw [digitCount]
  by_cases hn : n = 0
  · simp [hn]
  rw [if_neg hn]
  cases k with
  | zero => simp [hn]
  | succ k => exact Nat.length_toDigits_le_iff (by decide) (Nat.succ_pos k)

theorem lt_pow_digitCount (n : Nat) : n < 10 ^ digitCount n := digitCount_le_iff.1 le_rfl

theorem pow_digitCount_le {n : Nat} (hn : n ≠ 0) : 10 ^ (digitCount n - 1) ≤ n := by
  have hpos : 0 < digitCount n := by
    by_contra hzero
    have hlt := lt_pow_digitCount n
    rw [Nat.le_zero.1 (Nat.not_lt.1 hzero), pow_zero] at hlt
    omega
  by_contra hlt
  have hle := digitCount_le_iff.2 (Nat.not_le.1 hlt)
  omega

theorem takeWhile_digits {ds rest : List Char} (hds : ∀ c ∈ ds, isDigit c = true)
    (hrest : ∀ c, rest.head? = some c → isDigit c = false) :
    (ds ++ rest).takeWhile isDigit = ds ∧ (ds ++ rest).dropWhile isDigit = rest := by
  rw [List.takeWhile_append_of_pos hds, List.dropWhile_append_of_pos hds]
  cases rest with
  | nil => simp
  | cons c more => simp [hrest c rfl]

/-! ## Values -/

theorem Numeral.value_eq (n : Numeral) : n.value = n.digits * (10 : ℚ) ^ n.exponent := by
  rw [value]
  split
  case isTrue h =>
    obtain ⟨k, hk⟩ := Int.eq_ofNat_of_zero_le h
    rw [hk, Int.toNat_natCast, zpow_natCast, Nat.pow_eq]
    push_cast
    rfl
  case isFalse h =>
    obtain ⟨k, hk⟩ := Int.eq_ofNat_of_zero_le (by omega : 0 ≤ -n.exponent)
    have hexponent : n.exponent = -k := by omega
    rw [hk, Int.toNat_natCast, Rat.mkRat_eq_div, hexponent, zpow_neg, zpow_natCast, div_eq_mul_inv,
      Nat.pow_eq]
    push_cast
    rfl

/-- The power of ten just above the value. -/
def Numeral.top (n : Numeral) : Int := n.exponent + Int.ofNat (digitCount n.digits)

theorem Numeral.value_lt (n : Numeral) : n.value < 10 ^ n.top := by
  rw [value_eq, top, zpow_add₀ (by norm_num), mul_comm]
  gcongr
  rw [Int.ofNat_eq_natCast, zpow_natCast]
  exact_mod_cast lt_pow_digitCount n.digits

theorem Numeral.le_value {n : Numeral} (h : n.digits ≠ 0) : 10 ^ (n.top - 1) ≤ n.value := by
  have hpos : 1 ≤ digitCount n.digits := by
    have hlt := lt_pow_digitCount n.digits
    by_contra hzero
    rw [Nat.lt_one_iff.1 (Nat.not_le.1 hzero)] at hlt
    omega
  have htop : n.top - 1 = ((digitCount n.digits - 1 : Nat) : Int) + n.exponent := by
    rw [top, Int.ofNat_eq_natCast]
    omega
  rw [value_eq, htop, zpow_add₀ (by norm_num), zpow_natCast]
  gcongr
  exact_mod_cast pow_digitCount_le h

theorem Numeral.read_eq {n : Numeral} (h : n.digits ≠ 0) :
    n.read =
      if 310 < n.top then .infinity
      else if n.top < -330 then .zero
      else Binary64.nearest n.value := by
  rw [read, if_neg h]
  rfl

theorem overflowBound_le_of_top {n : Numeral} (hd : n.digits ≠ 0) (h : 310 < n.top) :
    Binary64.overflowBound ≤ n.value := by
  have hunits : 2 ^ 1024 < 10 ^ 310 := by decide +kernel
  have hpow : (2 : ℚ) ^ (1024 : ℤ) < 10 ^ (310 : ℤ) := by exact_mod_cast hunits
  have hvalue : (10 : ℚ) ^ (310 : ℤ) ≤ n.value :=
    (zpow_le_zpow_right₀ (by norm_num) (by omega)).trans (n.le_value hd)
  exact ((Binary64.overflowBound_lt.trans hpow).trans_le hvalue).le

theorem le_underflowBound_of_top {n : Numeral} (h : n.top < -330) :
    n.value ≤ Binary64.underflowBound := by
  have hunits : 2 ^ 1075 < 10 ^ 331 := by decide +kernel
  have hpow : (10 : ℚ) ^ (-331 : ℤ) < 2 ^ (-1075 : ℤ) := by
    rw [zpow_neg, zpow_neg]
    refine inv_strictAnti₀ (zpow_pos (by norm_num) _) ?_
    exact_mod_cast hunits
  have hvalue : n.value ≤ (10 : ℚ) ^ (-331 : ℤ) :=
    n.value_lt.le.trans (zpow_le_zpow_right₀ (by norm_num) (by omega))
  rw [Binary64.underflowBound_eq]
  exact hvalue.trans hpow.le

/-- A numeral is read as the number nearest to its value. -/
theorem Numeral.read_eq_nearest (n : Numeral) : n.read = Binary64.nearest n.value := by
  by_cases hd : n.digits = 0
  · have hzero : n.value = 0 := by rw [value_eq, hd, Nat.cast_zero, zero_mul]
    rw [read, if_pos hd, hzero, Binary64.nearest_bounds.1]
  have hpos : 0 < n.value := (zpow_pos (by norm_num) _).trans_le (n.le_value hd)
  rw [read_eq hd]
  split
  case isTrue htop => rw [Binary64.nearest_eq_infinity (overflowBound_le_of_top hd htop)]
  case isFalse =>
    split
    case isTrue htop => rw [Binary64.nearest_eq_zero hpos.le (le_underflowBound_of_top htop)]
    case isFalse => rfl

/-- Zeros at the end of the digits are the same as a larger exponent. -/
theorem read_scale (d k : Nat) (e : Int) :
    (⟨d * 10 ^ k, e⟩ : Numeral).read = (⟨d, e + k⟩ : Numeral).read := by
  have hvalue : (⟨d * 10 ^ k, e⟩ : Numeral).value = (⟨d, e + k⟩ : Numeral).value := by
    simp only [Numeral.value_eq]
    rw [zpow_add₀ (by norm_num), zpow_natCast]
    push_cast
    ring
  rw [Numeral.read_eq_nearest, Numeral.read_eq_nearest, hvalue]

/-- A value that binary64 can hold is read exactly. -/
theorem read_of_representable {n : Numeral} (h : Binary64.Representable n.value) :
    n.read = .finite n.value := by
  rw [Numeral.read_eq_nearest]
  exact Binary64.isBinary64_finite_iff.2 (by rwa [abs_of_nonneg h.nonneg])

/-- Whatever is read, binary64 can hold it. -/
theorem isBinary64_read (n : Numeral) : n.read.IsBinary64 := by
  rw [Numeral.read_eq_nearest]
  exact Binary64.isBinary64_nearest _

theorem isBinary64_negated {n : Number} (h : n.IsBinary64) : (negated n).IsBinary64 := by
  cases n with
  | finite q =>
    rw [negated, Binary64.isBinary64_finite_iff, abs_neg]
    exact Binary64.isBinary64_finite_iff.1 h
  | _ => exact trivial

end Decimal
end Rollout
