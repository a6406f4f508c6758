import Rollout.Proofs.Json.Number

/-
Strings in JSON texts. Every character is read back from what is written for it, so a quoted
string is read as it was, whatever stands behind it.
-/
namespace Rollout
namespace Json

/-! ## Strings -/

theorem hexNumber_hexDigit : ∀ n < 0x20,
    hexNumber 0 ['0', '0', hexDigit (n / 16), hexDigit (n % 16)] = some n := by decide

theorem joinUnit_of_lt {u : Nat} (h : u < 0x20) : joinUnit none u = ([Char.ofNat u], none) := by
  have hhigh : isHighSurrogate u = false := by
    rw [isHighSurrogate, Bool.and_eq_false_iff, decide_eq_false_iff_not]
    omega
  have hlow : isLowSurrogate u = false := by
    rw [isLowSurrogate, Bool.and_eq_false_iff, decide_eq_false_iff_not]
    omega
  simp [joinUnit, hhigh, hlow, owed]

theorem eq_ofNat_of_toNat {c : Char} {n : Nat} (h : c.toNat = n) : c = Char.ofNat n := by
  rw [← h, Char.ofNat_toNat]

/-- A character is read back from what is written for it. -/
theorem readString_escapeChar {tail cs rest : List Char} (c : Char)
    (h : readString none tail = some (cs, rest)) :
    readString none (escapeChar c ++ tail) = some (c :: cs, rest) := by
  have hletter {e x : Char} (hx : escaped e = some x) (hu : e ≠ 'u') :
      readString none ('\\' :: e :: tail) = some (x :: cs, rest) := by
    rw [readString]
    · simp [hx, h, owed]
    · intro _ _ _ _ _ he
      exact absurd he hu
  rw [escapeChar]
  by_cases hquote : c = '"'
  · subst hquote
    exact hletter rfl (by decide)
  by_cases hslash : c = '\\'
  · subst hslash
    exact hletter rfl (by decide)
  simp only [if_neg hquote, if_neg hslash]
  by_cases hb : c.toNat = 0x08
  · rw [if_pos hb, eq_ofNat_of_toNat hb]
    exact hletter rfl (by decide)
  by_cases ht : c.toNat = 0x09
  · rw [if_neg hb, if_pos ht, eq_ofNat_of_toNat ht]
    exact hletter rfl (by decide)
  by_cases hn : c.toNat = 0x0A
  · rw [if_neg hb, if_neg ht, if_pos hn, eq_ofNat_of_toNat hn]
    exact hletter rfl (by decide)
  by_cases hf : c.toNat = 0x0C
  · rw [if_neg hb, if_neg ht, if_neg hn, if_pos hf, eq_ofNat_of_toNat hf]
    exact hletter rfl (by decide)
  by_cases hr : c.toNat = 0x0D
  · rw [if_neg hb, if_neg ht, if_neg hn, if_neg hf, if_pos hr, eq_ofNat_of_toNat hr]
    exact hletter rfl (by decide)
  rw [if_neg hb, if_neg ht, if_neg hn, if_neg hf, if_neg hr]
  by_cases hlow : c.toNat < 0x20
  · rw [if_pos hlow]
    simp only [List.cons_append, List.nil_append]
    rw [readString, hexNumber_hexDigit _ hlow, Option.bind_some, joinUnit_of_lt hlow]
    simp [h, Char.ofNat_toNat]
  · rw [if_neg hlow, List.singleton_append, readString]
    · simp [hlow, hslash, h, owed]
    · exact fun hc => hquote hc
    · exact fun _ _ _ _ _ hc => absurd hc hslash
    · exact fun _ _ hc => absurd hc hslash

theorem readString_quoted (s rest : List Char) :
    readString none (s.flatMap escapeChar ++ '"' :: rest) = some (s, rest) := by
  induction s with
  | nil => rfl
  | cons c cs ih =>
    rw [List.flatMap_cons, List.append_assoc]
    exact readString_escapeChar c ih

end Json
end Rollout
