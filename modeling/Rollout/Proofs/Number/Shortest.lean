import Mathlib.Data.Nat.Prime.Basic
import Mathlib.Data.List.TakeWhile
import Rollout.Proofs.Number.Decimal

/-
The shortest numeral of a number reads back as it. A short numeral is only taken after it
has been read; where there is none the exact one is taken, which every number has that
binary64 can hold. Its digits are then written without the zeros at their end.
-/
namespace Rollout
namespace Shortest

open Binary64 Decimal

/-! ## Numerals -/

theorem readsBack_of_ofCount? {a b count : Nat} {n : Numeral} (h : ofCount? a b count = some n) :
    readsBack a b n = true := by
  simp only [ofCount?] at h
  split at h
  case h_1 hlow hhigh =>
    split at h
    · rwa [← Option.some.inj h]
    · split at h
      · rwa [← Option.some.inj h]
      · split at h
        · rwa [← Option.some.inj h]
        · rwa [← Option.some.inj h]
  case h_2 hlow hhigh => rwa [← Option.some.inj h]
  case h_3 hlow hhigh => rwa [← Option.some.inj h]
  case h_4 => cases h

/-- The denominator of a number that binary64 can hold is a power of two. -/
theorem exists_two_pow_of_representable {a b : Nat} (hb : b ≠ 0) (hcoprime : a.Coprime b)
    (h : Representable ((a : ℚ) / b)) : ∃ j, b = 2 ^ j := by
  obtain ⟨n, hn⟩ := h.exists_units
  generalize 1074 = k at hn
  have hb' : (b : ℚ) ≠ 0 := by exact_mod_cast hb
  have hunits : a * 2 ^ k = n * b := by
    rw [div_mul_eq_mul_div, div_eq_iff hb'] at hn
    exact_mod_cast hn
  have hdvd : b ∣ 2 ^ k := hcoprime.symm.dvd_of_dvd_mul_left ⟨n, by rw [hunits, Nat.mul_comm]⟩
  obtain ⟨j, -, hj⟩ := (Nat.dvd_prime_pow Nat.prime_two).1 hdvd
  exact ⟨j, hj⟩

theorem value_exactNumeral (a j : Nat) : (exactNumeral a (2 ^ j)).value = (a : ℚ) / (2 ^ j : Nat) := by
  have hten : 10 ^ j = 5 ^ j * 2 ^ j := by rw [← Nat.mul_pow]
  have hdigits : a * 10 ^ j / 2 ^ j = a * 5 ^ j := by
    rw [hten, ← Nat.mul_assoc, Nat.mul_div_cancel _ (Nat.pow_pos (by decide))]
  rw [Numeral.value_eq, exactNumeral, Nat.log2_two_pow]
  simp only [Nat.pow_eq, hdigits, Int.ofNat_eq_natCast, zpow_neg, zpow_natCast]
  have hcast : (10 : ℚ) ^ j = 5 ^ j * 2 ^ j := by exact_mod_cast hten
  rw [hcast]
  push_cast
  field_simp

/-- What is written for a number reads back as the number. -/
theorem read_shortestNumeral {a b : Nat} (hb : b ≠ 0) (hcoprime : a.Coprime b)
    (h : Representable ((a : ℚ) / b)) : (shortestNumeral a b).read = .finite ((a : ℚ) / b) := by
  rw [shortestNumeral]
  cases hshort : (List.range 17).findSome? fun k => ofCount? a b (k + 1) with
  | some n =>
    obtain ⟨k, -, hk⟩ := List.exists_of_findSome?_eq_some hshort
    have hread := eq_of_beq (readsBack_of_ofCount? hk)
    rw [Option.getD_some, hread, Rat.mkRat_eq_div, Int.cast_natCast]
  | none =>
    obtain ⟨j, rfl⟩ := exists_two_pow_of_representable hb hcoprime h
    have hvalue := value_exactNumeral a j
    rw [Option.getD_none, read_of_representable (hvalue ▸ h), hvalue]

/-! ## Digits -/

/-- The first digit of a number above zero is not zero. -/
theorem head?_toDigits {n : Nat} (hn : n ≠ 0) : (Nat.toDigits 10 n).head? ≠ some '0' := by
  induction n using Nat.strong_induction_on with
  | _ n ih =>
    rw [Nat.toDigits_eq_if (by decide)]
    split
    case isTrue => simpa using hn
    case isFalse h =>
      have hrest := ih (n / 10) (by omega) (by omega)
      rwa [List.head?_append_of_ne_nil _ Nat.toDigits_ne_nil]

/-- Only zeros at the end are left out. -/
theorem exists_toDigits_eq (n : Nat) :
    ∃ k, Nat.toDigits 10 n = significantDigits n ++ List.replicate k '0' := by
  have hsplit := List.takeWhile_append_dropWhile (p := (· == '0')) (l := (Nat.toDigits 10 n).reverse)
  have hzeros : (Nat.toDigits 10 n).reverse.takeWhile (· == '0') =
      List.replicate ((Nat.toDigits 10 n).reverse.takeWhile (· == '0')).length '0' := by
    rw [List.eq_replicate_iff]
    exact ⟨rfl, fun c hc => eq_of_beq (List.mem_takeWhile_imp (p := (· == '0')) hc)⟩
  refine ⟨((Nat.toDigits 10 n).reverse.takeWhile (· == '0')).length, ?_⟩
  rw [significantDigits, ← List.reverse_inj, List.reverse_append, List.reverse_reverse,
    List.reverse_replicate, ← hzeros]
  exact hsplit.symm

/-- Digits as they are written: at least one, the first one not zero. -/
structure Written (ds : List Char) : Prop where
  digits : ∀ c ∈ ds, isDigit c = true
  ne_nil : ds ≠ []
  head?_ne : ds.head? ≠ some '0'

theorem isDigit_of_mem_toDigits {n : Nat} {c : Char} (h : c ∈ Nat.toDigits 10 n) :
    isDigit c = true := by
  have hdigit := Nat.isDigit_of_mem_toDigits (by decide) (by decide) h
  rw [Char.isDigit, Bool.and_eq_true, decide_eq_true_iff, decide_eq_true_iff] at hdigit
  rw [isDigit, Bool.and_eq_true, decide_eq_true_iff, decide_eq_true_iff]
  exact hdigit

theorem written_significantDigits {n : Nat} (hn : n ≠ 0) : Written (significantDigits n) := by
  obtain ⟨k, hk⟩ := exists_toDigits_eq n
  have hne : significantDigits n ≠ [] := by
    intro hnil
    have hzero := ofDigits_toDigits n
    rw [hk, hnil, List.nil_append, ofDigits_replicate_zero] at hzero
    exact hn hzero.symm
  refine ⟨fun c hc => isDigit_of_mem_toDigits (n := n) ?_, hne, ?_⟩
  · rw [hk]
    exact List.mem_append_left _ hc
  · have hhead := head?_toDigits hn
    rwa [hk, List.head?_append_of_ne_nil _ hne] at hhead

/-- The digits that are written and the power of ten behind them are the numeral again. -/
theorem read_significantDigits {n : Nat} (hn : n ≠ 0) (e : Int) :
    (⟨ofDigits (significantDigits n),
      e + Int.ofNat (digitCount n) - (significantDigits n).length⟩ : Numeral).read =
        (⟨n, e⟩ : Numeral).read := by
  obtain ⟨k, hk⟩ := exists_toDigits_eq n
  have hvalue : n = ofDigits (significantDigits n) * 10 ^ k := by
    have h := ofDigits_toDigits n
    rw [hk, ofDigits_append, ofDigits_replicate_zero, List.length_replicate, Nat.add_zero] at h
    exact h.symm
  have hcount : digitCount n = (significantDigits n).length + k := by
    rw [digitCount, if_neg hn, hk, List.length_append, List.length_replicate]
  have hexponent : e + Int.ofNat (digitCount n) - (significantDigits n).length = e + k := by
    rw [hcount, Int.ofNat_eq_natCast]
    omega
  rw [hexponent, ← read_scale, ← hvalue]

/-- The text of a magnitude above zero is laid out from digits that read back as it. -/
theorem exists_layOut_eq {a b : Nat} (ha : a ≠ 0) (hb : b ≠ 0) (hcoprime : a.Coprime b)
    (h : Representable ((a : ℚ) / b)) :
    ∃ ds point, magnitudeText a b = layOut ds point ∧ Written ds ∧
      (⟨ofDigits ds, point - ds.length⟩ : Numeral).read = .finite ((a : ℚ) / b) := by
  have hread := read_shortestNumeral hb hcoprime h
  have hdigits : (shortestNumeral a b).digits ≠ 0 := by
    intro hzero
    have hvalue : (a : ℚ) / b ≠ 0 := by positivity
    rw [Numeral.read, if_pos hzero] at hread
    exact hvalue (Number.finite.inj hread).symm
  refine ⟨_, _, rfl, written_significantDigits hdigits, ?_⟩
  rw [read_significantDigits hdigits, hread]

end Shortest
end Rollout
