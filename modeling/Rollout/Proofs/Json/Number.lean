import Rollout.Json.Printer
import Rollout.Json.Reader
import Rollout.Proofs.Number.Shortest

/-
Numbers in JSON texts. Whichever of the four layouts a number is written in, the reader finds
the same digits and the same power of ten in it, and stops where the number ends.
-/
namespace Rollout
namespace Json

open Decimal Shortest

/-- What can stand behind a number: nothing that would go on with it. -/
def EndsNumber (rest : List Char) : Prop :=
  ∀ c, rest.head? = some c → isDigit c = false ∧ c ≠ '.' ∧ c ≠ 'e' ∧ c ≠ 'E'

variable {ds rest : List Char}

/-! ## Parts of a number -/

theorem readWhole_written (hds : Written ds)
    (hrest : ∀ c, rest.head? = some c → isDigit c = false) :
    readWhole (ds ++ rest) = some (ds, rest) := by
  obtain ⟨htake, hdrop⟩ := takeWhile_digits hds.digits hrest
  obtain ⟨c, more, rfl⟩ := List.exists_cons_of_ne_nil hds.ne_nil
  have hc : c ≠ '0' := fun h => hds.head?_ne (by rw [h]; rfl)
  rw [List.cons_append] at htake hdrop ⊢
  rw [readWhole]
  · simp [htake, hdrop]
  · intro _ h
    exact hc (List.cons.inj h).1

theorem readFraction_point (hds : ∀ c ∈ ds, isDigit c = true) (hne : ds ≠ [])
    (hrest : ∀ c, rest.head? = some c → isDigit c = false) :
    readFraction ('.' :: (ds ++ rest)) = some (ds, rest) := by
  obtain ⟨htake, hdrop⟩ := takeWhile_digits hds hrest
  simp [readFraction, htake, hdrop, hne]

theorem readFraction_none (hrest : rest.head? ≠ some '.') : readFraction rest = some ([], rest) := by
  unfold readFraction
  split
  · exact absurd rfl hrest
  · rfl

theorem readExponentPart_none (hrest : ∀ c, rest.head? = some c → c ≠ 'e' ∧ c ≠ 'E') :
    readExponentPart rest = some (0, rest) := by
  cases rest with
  | nil => rfl
  | cons c more =>
    obtain ⟨he, hE⟩ := hrest c rfl
    simp [readExponentPart, he, hE]

theorem readExponentPart_signed (hds : ∀ c ∈ ds, isDigit c = true) (hne : ds ≠ [])
    (hrest : ∀ c, rest.head? = some c → isDigit c = false) (negative : Bool) :
    readExponentPart ('e' :: (if negative then '-' else '+') :: (ds ++ rest)) =
      some (if negative then -Int.ofNat (ofDigits ds) else Int.ofNat (ofDigits ds), rest) := by
  obtain ⟨htake, hdrop⟩ := takeWhile_digits hds hrest
  cases negative <;> simp [readExponentPart, htake, hdrop, hne]

/-! ## Layouts -/

theorem EndsNumber.not_digit (h : EndsNumber rest) : ∀ c, rest.head? = some c → isDigit c = false :=
  fun c hc => (h c hc).1

theorem EndsNumber.readExponentPart (h : EndsNumber rest) :
    Json.readExponentPart rest = some (0, rest) :=
  readExponentPart_none fun c hc => (h c hc).2.2

theorem EndsNumber.readFraction (h : EndsNumber rest) : Json.readFraction rest = some ([], rest) :=
  readFraction_none fun hpoint => (h '.' hpoint).2.1 rfl

theorem readUnsigned_of_parts {cs whole fraction afterWhole afterFraction : List Char}
    {exponent : Int} (hwhole : readWhole cs = some (whole, afterWhole))
    (hfraction : Json.readFraction afterWhole = some (fraction, afterFraction))
    (hexponent : Json.readExponentPart afterFraction = some (exponent, rest)) :
    readUnsigned cs = some ((numeral whole fraction exponent).read, rest) := by
  simp [readUnsigned, hwhole, hfraction, hexponent]

/-- Digits with zeros behind them. -/
theorem readUnsigned_whole (hds : Written ds) (hrest : EndsNumber rest) (k : Nat) :
    readUnsigned (ds ++ List.replicate k '0' ++ rest) =
      some ((⟨ofDigits ds, k⟩ : Numeral).read, rest) := by
  have hwritten : Written (ds ++ List.replicate k '0') := by
    refine ⟨fun c hc => ?_, by simp [hds.ne_nil], ?_⟩
    · rcases List.mem_append.1 hc with hc | hc
      · exact hds.digits c hc
      · rw [List.eq_of_mem_replicate hc]
        decide
    · rw [List.head?_append_of_ne_nil _ hds.ne_nil]
      exact hds.head?_ne
  rw [readUnsigned_of_parts (readWhole_written hwritten hrest.not_digit) hrest.readFraction
    hrest.readExponentPart]
  have hdigits : ofDigits (ds ++ List.replicate k '0' ++ []) = ofDigits ds * 10 ^ k := by
    rw [List.append_nil, ofDigits_append, ofDigits_replicate_zero, List.length_replicate,
      Nat.add_zero]
  rw [numeral, hdigits, read_scale]
  simp

theorem not_digit_point (cs : List Char) :
    ∀ c, ('.' :: cs).head? = some c → isDigit c = false := by
  intro c hc
  obtain rfl := Option.some.inj hc
  decide

theorem not_digit_e (cs : List Char) : ∀ c, ('e' :: cs).head? = some c → isDigit c = false := by
  intro c hc
  obtain rfl := Option.some.inj hc
  decide

/-- A point among the digits. -/
theorem readUnsigned_point {whole fraction : List Char} (hwhole : Written whole)
    (hfraction : ∀ c ∈ fraction, isDigit c = true) (hne : fraction ≠ []) (hrest : EndsNumber rest) :
    readUnsigned (whole ++ '.' :: fraction ++ rest) =
      some ((⟨ofDigits (whole ++ fraction), -fraction.length⟩ : Numeral).read, rest) := by
  rw [List.append_assoc, List.cons_append]
  rw [readUnsigned_of_parts (readWhole_written hwhole (not_digit_point _))
    (readFraction_point hfraction hne hrest.not_digit) hrest.readExponentPart]
  simp [numeral]

/-- A point before all digits. -/
theorem readUnsigned_zeroPoint {fraction : List Char}
    (hfraction : ∀ c ∈ fraction, isDigit c = true) (hne : fraction ≠ []) (hrest : EndsNumber rest) :
    readUnsigned ('0' :: '.' :: (fraction ++ rest)) =
      some ((⟨ofDigits fraction, -fraction.length⟩ : Numeral).read, rest) := by
  have hdigits : ofDigits (['0'] ++ fraction) = ofDigits fraction := by
    rw [ofDigits_append, show ofDigits ['0'] = 0 from rfl, Nat.zero_mul, Nat.zero_add]
  have hwhole : readWhole ('0' :: '.' :: (fraction ++ rest)) =
      some (['0'], '.' :: (fraction ++ rest)) := rfl
  rw [readUnsigned_of_parts hwhole (readFraction_point hfraction hne hrest.not_digit)
    hrest.readExponentPart, numeral, hdigits]
  simp

theorem isDigit_toDigits (n : Nat) : ∀ c ∈ Nat.toDigits 10 n, isDigit c = true :=
  fun _ hc => isDigit_of_mem_toDigits hc

/-- One digit before the point, and an exponent. -/
theorem readUnsigned_scientific (hds : Written ds) (hrest : EndsNumber rest) (point : Int) :
    readUnsigned (scientific ds point ++ rest) =
      some ((⟨ofDigits ds, point - ds.length⟩ : Numeral).read, rest) := by
  have hexponent : readExponentPart
      ('e' :: (if point - 1 < 0 then '-' else '+') ::
        (Nat.toDigits 10 (point - 1).natAbs ++ rest)) = some (point - 1, rest) := by
    have hread := readExponentPart_signed (isDigit_toDigits (point - 1).natAbs)
      Nat.toDigits_ne_nil hrest.not_digit (decide (point - 1 < 0))
    simp only [decide_eq_true_eq, ofDigits_toDigits, Int.ofNat_eq_natCast] at hread
    rw [hread]
    congr 2
    split <;> omega
  obtain ⟨first, more, rfl⟩ := List.exists_cons_of_ne_nil hds.ne_nil
  have hfirst : Written [first] :=
    ⟨fun c hc => hds.digits c (List.mem_cons.2 (.inl (List.mem_singleton.1 hc))), by simp,
      hds.head?_ne⟩
  have hmore : ∀ c ∈ more, isDigit c = true := fun c hc => hds.digits c (List.mem_cons_of_mem _ hc)
  cases more with
  | nil =>
    have hshape : scientific [first] point ++ rest = [first] ++
        'e' :: (if point - 1 < 0 then '-' else '+') ::
          (Nat.toDigits 10 (point - 1).natAbs ++ rest) := by
      simp [scientific]
    rw [hshape, readUnsigned_of_parts (readWhole_written hfirst (not_digit_e _))
      (readFraction_none (by simp)) hexponent]
    simp [numeral]
  | cons second others =>
    have hshape : scientific (first :: second :: others) point ++ rest = [first] ++
        '.' :: (second :: others ++ 'e' :: (if point - 1 < 0 then '-' else '+') ::
          (Nat.toDigits 10 (point - 1).natAbs ++ rest)) := by
      simp [scientific]
    rw [hshape, readUnsigned_of_parts (readWhole_written hfirst (not_digit_point _))
      (readFraction_point hmore (by simp) (not_digit_e _)) hexponent, numeral]
    congr 4
    simp only [List.length_cons, Int.ofNat_eq_natCast]
    omega

/-- Whatever the layout, the reader finds the digits and their power of ten. -/
theorem readUnsigned_layOut (hds : Written ds) (hrest : EndsNumber rest) (point : Int) :
    readUnsigned (layOut ds point ++ rest) =
      some ((⟨ofDigits ds, point - ds.length⟩ : Numeral).read, rest) := by
  have hcount : 0 < ds.length := List.length_pos_iff.2 hds.ne_nil
  rw [layOut]
  simp only [Int.ofNat_eq_natCast]
  by_cases hwhole : (ds.length : Int) ≤ point ∧ point ≤ 21
  · rw [if_pos hwhole, readUnsigned_whole hds hrest, Int.toNat_of_nonneg (by omega)]
  rw [if_neg hwhole]
  by_cases hpoint : 0 < point ∧ point ≤ 21
  · have htake : Written (ds.take point.toNat) := by
      refine ⟨fun c hc => hds.digits c (List.mem_of_mem_take hc), ?_, ?_⟩
      · rw [Ne, List.take_eq_nil_iff, not_or]
        exact ⟨by omega, hds.ne_nil⟩
      · rw [List.head?_take, if_neg (by omega)]
        exact hds.head?_ne
    have hdrop : ds.drop point.toNat ≠ [] := by
      rw [Ne, List.drop_eq_nil_iff]
      omega
    rw [if_pos hpoint, readUnsigned_point htake (fun c hc => hds.digits c (List.mem_of_mem_drop hc))
      hdrop hrest, List.take_append_drop, List.length_drop]
    congr 4
    omega
  rw [if_neg hpoint]
  by_cases hsmall : -6 < point ∧ point ≤ 0
  · have hdigits : ∀ c ∈ List.replicate (-point).toNat '0' ++ ds, isDigit c = true := by
      intro c hc
      rcases List.mem_append.1 hc with hc | hc
      · rw [List.eq_of_mem_replicate hc]
        decide
      · exact hds.digits c hc
    rw [if_pos hsmall, List.cons_append, List.cons_append,
      readUnsigned_zeroPoint hdigits (by simp [hds.ne_nil]) hrest, ofDigits_append,
      ofDigits_replicate_zero, Nat.zero_mul, Nat.zero_add, List.length_append,
      List.length_replicate]
    congr 4
    push_cast
    omega
  · rw [if_neg hsmall]
    exact readUnsigned_scientific hds hrest point

/-! ## Numbers -/

theorem readUnsigned_eq_none {c : Char} (hc : isDigit c = false) (cs : List Char) :
    readUnsigned (c :: cs) = none := by
  have hwhole : readWhole (c :: cs) = none := by
    rw [readWhole]
    · simp [hc]
    · intro _ h
      rw [(List.cons.inj h).1] at hc
      cases hc
  simp [readUnsigned, hwhole]

theorem readNumber_of_readUnsigned {cs : List Char} {n : Number}
    (h : readUnsigned cs = some (n, rest)) : readNumber cs = some (n, rest) := by
  unfold readNumber
  split
  · cases h.symm.trans (readUnsigned_eq_none (by decide) _)
  · exact h

/-- A finite number reads back as it is written. -/
theorem readNumber_numberChars {q : ℚ} (hq : (Number.finite q).IsBinary64)
    (hrest : EndsNumber rest) :
    readNumber (numberChars (.finite q) ++ rest) = some (.finite q, rest) := by
  simp only [numberChars, Number.isFinite, if_true, Number.text]
  by_cases hzero : q.num = 0
  · have hread : readUnsigned ('0' :: rest) = some (.finite q, rest) := by
      rw [readUnsigned_of_parts rfl hrest.readFraction hrest.readExponentPart,
        Rat.num_eq_zero.1 hzero]
      rfl
    rw [if_pos hzero]
    exact readNumber_of_readUnsigned hread
  · have hrepresentable := Binary64.isBinary64_finite_iff.1 hq
    rw [Binary64.abs_eq_div] at hrepresentable
    obtain ⟨ds, point, htext, hds, hvalue⟩ := exists_layOut_eq (Int.natAbs_ne_zero.2 hzero)
      q.den_ne_zero q.reduced hrepresentable
    have hread := readUnsigned_layOut hds hrest point
    rw [hvalue, ← Binary64.abs_eq_div] at hread
    rw [if_neg hzero, htext, String.toList_ofList]
    by_cases hneg : q.num < 0
    · rw [if_pos hneg, List.cons_append, readNumber, hread]
      simp only [Option.map_some, negated, abs_of_neg (Rat.num_neg.1 hneg), neg_neg]
    · rw [if_neg hneg, readNumber_of_readUnsigned hread,
        abs_of_nonneg (Rat.num_nonneg.1 (Int.not_lt.1 hneg))]

end Json
end Rollout
