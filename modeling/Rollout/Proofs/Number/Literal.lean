import Mathlib.Data.List.TakeWhile
import Rollout.Proofs.Number.Decimal

/-
Decimal literals as a grammar, part by part, each part with what it denotes. The reader takes
exactly the texts of the grammar, in full, and reads each as the number nearest to the
rational that the text denotes.
-/
namespace Rollout
namespace Decimal

/-! ## The grammar -/

def Digits (cs : List Char) : Prop := cs ≠ [] ∧ ∀ c ∈ cs, isDigit c = true

/-- A sign, which may be missing. -/
inductive Sign : List Char → Int → Prop
  | none : Sign [] 1
  | plus : Sign ['+'] 1
  | minus : Sign ['-'] (-1)

/-- Digits with an optional fraction, which may be empty, or a bare fraction, which may not. -/
inductive Mantissa : List Char → ℚ → Prop
  | whole {ds : List Char} (hds : Digits ds) : Mantissa ds (ofDigits ds)
  | pointed {ds fs : List Char} (hds : Digits ds) (hfs : ∀ c ∈ fs, isDigit c = true) :
      Mantissa (ds ++ '.' :: fs) (ofDigits ds + ofDigits fs / 10 ^ fs.length)
  | bare {fs : List Char} (hfs : Digits fs) :
      Mantissa ('.' :: fs) (ofDigits fs / 10 ^ fs.length)

/-- An exponent behind its mark, which may be missing. -/
inductive Exponent : List Char → Int → Prop
  | none : Exponent [] 0
  | marked {mark : Char} {sign ds : List Char} {s : Int} (hmark : mark = 'e' ∨ mark = 'E')
      (hs : Sign sign s) (hds : Digits ds) : Exponent (mark :: (sign ++ ds)) (s * ofDigits ds)

inductive Unsigned : List Char → ℚ → Prop
  | mk {mantissa exponent : List Char} {m : ℚ} {e : Int} (hm : Mantissa mantissa m)
      (he : Exponent exponent e) : Unsigned (mantissa ++ exponent) (m * 10 ^ e)

/-- A text that is a decimal literal in full, with the rational it denotes. -/
inductive Literal : List Char → ℚ → Prop
  | mk {sign unsigned : List Char} {s : Int} {q : ℚ} (hs : Sign sign s) (hu : Unsigned unsigned q) :
      Literal (sign ++ unsigned) (s * q)

/-! ## Exponents -/

variable {cs ds : List Char}

instance (cs : List Char) : Decidable (Digits cs) := inferInstanceAs (Decidable (_ ∧ _))

theorem not_digits_iff : (ds.isEmpty || !ds.all isDigit) = true ↔ ¬Digits ds := by
  simp only [Digits, Bool.or_eq_true, List.isEmpty_iff, Bool.not_eq_true', List.all_eq_false]
  grind

theorem Digits.head_ne {c d : Char} {rest : List Char} (h : Digits (c :: rest))
    (hd : isDigit d = false) : c ≠ d := by
  rintro rfl
  have hc := h.2 c List.mem_cons_self
  rw [hd] at hc
  cases hc

/-- What digits behind a sign are read as. -/
def signed? (s : Int) (ds : List Char) : Option Int :=
  if Digits ds then some (s * ofDigits ds) else none

theorem signed?_eq_some_iff {s e : Int} : signed? s ds = some e ↔ Digits ds ∧ e = s * ofDigits ds := by
  rw [signed?, Option.ite_none_right_eq_some, Option.some.injEq, eq_comm]

theorem readExponent_minus (ds : List Char) : readExponent ('-' :: ds) = signed? (-1) ds := by
  simp only [readExponent, signed?, not_digits_iff, ite_not, if_true, neg_one_mul]
  rfl

theorem readExponent_plus (ds : List Char) : readExponent ('+' :: ds) = signed? 1 ds := by
  simp only [readExponent, signed?, not_digits_iff, ite_not, Bool.false_eq_true, if_false, one_mul]
  rfl

theorem readExponent_bare (hminus : cs.head? ≠ some '-') (hplus : cs.head? ≠ some '+') :
    readExponent cs = signed? 1 cs := by
  unfold readExponent
  split
  · exact absurd rfl hminus
  · exact absurd rfl hplus
  · simp only [signed?, not_digits_iff, ite_not, Bool.false_eq_true, if_false, one_mul]
    rfl

theorem readExponent_eq_some_iff {e : Int} :
    readExponent cs = some e ↔
      ∃ sign ds s, Sign sign s ∧ Digits ds ∧ cs = sign ++ ds ∧ e = s * ofDigits ds := by
  constructor
  · intro h
    by_cases hminus : cs.head? = some '-'
    · obtain ⟨ds, rfl⟩ := List.head?_eq_some_iff.1 hminus
      rw [readExponent_minus, signed?_eq_some_iff] at h
      exact ⟨_, ds, _, .minus, h.1, rfl, h.2⟩
    by_cases hplus : cs.head? = some '+'
    · obtain ⟨ds, rfl⟩ := List.head?_eq_some_iff.1 hplus
      rw [readExponent_plus, signed?_eq_some_iff] at h
      exact ⟨_, ds, _, .plus, h.1, rfl, h.2⟩
    · rw [readExponent_bare hminus hplus, signed?_eq_some_iff] at h
      exact ⟨_, cs, _, .none, h.1, rfl, h.2⟩
  · rintro ⟨sign, ds, s, hs, hds, rfl, rfl⟩
    cases hs with
    | minus => exact (readExponent_minus ds).trans (signed?_eq_some_iff.2 ⟨hds, rfl⟩)
    | plus => exact (readExponent_plus ds).trans (signed?_eq_some_iff.2 ⟨hds, rfl⟩)
    | none =>
      obtain ⟨c, rest, rfl⟩ := List.exists_cons_of_ne_nil hds.1
      have hminus : c ≠ '-' := hds.head_ne (by decide)
      have hplus : c ≠ '+' := hds.head_ne (by decide)
      rw [List.nil_append, readExponent_bare (by simpa using hminus) (by simpa using hplus)]
      exact signed?_eq_some_iff.2 ⟨hds, rfl⟩

/-- What stands behind the digits of a literal. -/
def exponentPart? : List Char → Option Int
  | [] => some 0
  | c :: more => if c = 'e' ∨ c = 'E' then readExponent more else none

theorem exponentPart?_eq_some_iff {e : Int} : exponentPart? cs = some e ↔ Exponent cs e := by
  constructor
  · intro h
    cases cs with
    | nil =>
      obtain rfl := Option.some.inj h
      exact .none
    | cons c more =>
      rw [exponentPart?, Option.ite_none_right_eq_some] at h
      obtain ⟨sign, ds, s, hs, hds, rfl, rfl⟩ := readExponent_eq_some_iff.1 h.2
      exact .marked h.1 hs hds
  · intro h
    cases h with
    | none => rfl
    | marked hmark hs hds =>
      rw [exponentPart?, if_pos hmark]
      exact readExponent_eq_some_iff.2 ⟨_, _, _, hs, hds, rfl, rfl⟩

theorem Exponent.head_exponent {e : Int} (h : Exponent cs e) :
    ∀ c, cs.head? = some c → isDigit c = false ∧ c ≠ '.' := by
  intro c hc
  cases h with
  | none => cases hc
  | marked hmark hs hds =>
    obtain rfl := Option.some.inj hc
    rcases hmark with rfl | rfl <;> decide

/-! ## Literals without a sign -/

theorem ofDigits_nil : ofDigits [] = 0 := rfl

theorem readUnsigned_of_point {more : List Char} (h : cs.dropWhile isDigit = '.' :: more) :
    readUnsigned cs =
      if cs.takeWhile isDigit = [] ∧ more.takeWhile isDigit = [] then none
      else (exponentPart? (more.dropWhile isDigit)).map
        (numeral (cs.takeWhile isDigit) (more.takeWhile isDigit)) := by
  simp only [readUnsigned, h]
  cases more.dropWhile isDigit with
  | nil => simp [exponentPart?]
  | cons c rest => by_cases hmark : c = 'e' ∨ c = 'E' <;> simp [exponentPart?, hmark]

theorem readUnsigned_of_no_point (h : (cs.dropWhile isDigit).head? ≠ some '.') :
    readUnsigned cs =
      if cs.takeWhile isDigit = [] then none
      else (exponentPart? (cs.dropWhile isDigit)).map (numeral (cs.takeWhile isDigit) []) := by
  rw [readUnsigned]
  cases htail : cs.dropWhile isDigit with
  | nil => simp [exponentPart?]
  | cons c rest =>
    have hpoint : c ≠ '.' := fun heq => h (by rw [htail, heq]; rfl)
    by_cases hmark : c = 'e' ∨ c = 'E' <;> simp [exponentPart?, hmark, hpoint]

theorem value_numeral (whole fraction : List Char) (e : Int) :
    (numeral whole fraction e).value =
      (ofDigits whole + ofDigits fraction / 10 ^ fraction.length) * (10 : ℚ) ^ e := by
  have hten : (10 : ℚ) ^ fraction.length ≠ 0 := by positivity
  rw [Numeral.value_eq, numeral, ofDigits_append, Int.ofNat_eq_natCast, zpow_sub₀ (by norm_num),
    zpow_natCast]
  push_cast
  field_simp

theorem digits_takeWhile (h : cs.takeWhile isDigit ≠ []) : Digits (cs.takeWhile isDigit) :=
  ⟨h, fun _ hc => List.mem_takeWhile_imp hc⟩

/-- Every literal that is read is one of the grammar. -/
theorem unsigned_of_readUnsigned {n : Numeral} (h : readUnsigned cs = some n) :
    Unsigned cs n.value := by
  have hsplit : cs.takeWhile isDigit ++ cs.dropWhile isDigit = cs := List.takeWhile_append_dropWhile
  by_cases hpoint : (cs.dropWhile isDigit).head? = some '.'
  · obtain ⟨more, hmore⟩ := List.head?_eq_some_iff.1 hpoint
    have hfraction : more.takeWhile isDigit ++ more.dropWhile isDigit = more :=
      List.takeWhile_append_dropWhile
    rw [readUnsigned_of_point hmore, Option.ite_none_left_eq_some, Option.map_eq_some_iff] at h
    obtain ⟨hdigits, e, he, rfl⟩ := h
    rw [exponentPart?_eq_some_iff] at he
    rw [hmore] at hsplit
    rw [value_numeral]
    -- The digits before the point may be missing, but then not those behind it.
    by_cases hwhole : cs.takeWhile isDigit = []
    · have hm := Mantissa.bare (digits_takeWhile fun hnone => hdigits ⟨hwhole, hnone⟩)
      have hu := Unsigned.mk hm he
      rw [List.cons_append, hfraction, ← List.nil_append ('.' :: more), ← hwhole, hsplit] at hu
      rw [hwhole, ofDigits_nil, Nat.cast_zero, zero_add]
      exact hu
    · have hm := Mantissa.pointed (digits_takeWhile hwhole)
        fun c (hc : c ∈ more.takeWhile isDigit) => List.mem_takeWhile_imp hc
      have hu := Unsigned.mk hm he
      rw [List.append_assoc, List.cons_append, hfraction, hsplit] at hu
      exact hu
  · rw [readUnsigned_of_no_point hpoint, Option.ite_none_left_eq_some, Option.map_eq_some_iff] at h
    obtain ⟨hdigits, e, he, rfl⟩ := h
    rw [exponentPart?_eq_some_iff] at he
    have hu := Unsigned.mk (Mantissa.whole (digits_takeWhile hdigits)) he
    rw [hsplit] at hu
    rw [value_numeral, ofDigits_nil, Nat.cast_zero, zero_div, add_zero]
    exact hu

theorem readUnsigned_whole {ex : List Char} {e : Int} (hds : Digits ds) (he : Exponent ex e) :
    readUnsigned (ds ++ ex) = some (numeral ds [] e) := by
  obtain ⟨htake, hdrop⟩ := takeWhile_digits hds.2 fun c hc => (he.head_exponent c hc).1
  have hpoint : ex.head? ≠ some '.' := fun h => (he.head_exponent '.' h).2 rfl
  rw [readUnsigned_of_no_point (by rwa [hdrop]), htake, hdrop, if_neg hds.1,
    exponentPart?_eq_some_iff.2 he, Option.map_some]

theorem readUnsigned_pointed {fs ex : List Char} {e : Int} (hds : ∀ c ∈ ds, isDigit c = true)
    (hfs : ∀ c ∈ fs, isDigit c = true) (hne : ds ≠ [] ∨ fs ≠ []) (he : Exponent ex e) :
    readUnsigned (ds ++ '.' :: (fs ++ ex)) = some (numeral ds fs e) := by
  have hpoint : ∀ c, ('.' :: (fs ++ ex)).head? = some c → isDigit c = false := by
    intro c hc
    obtain rfl := Option.some.inj hc
    decide
  obtain ⟨htake, hdrop⟩ := takeWhile_digits hds hpoint
  obtain ⟨hfraction, hrest⟩ := takeWhile_digits hfs fun c hc => (he.head_exponent c hc).1
  rw [readUnsigned_of_point hdrop, htake, hfraction, hrest, if_neg (not_and_or.2 hne),
    exponentPart?_eq_some_iff.2 he, Option.map_some]

/-- Every literal of the grammar is read, as what it denotes. -/
theorem Unsigned.exists_read {q : ℚ} (h : Unsigned cs q) :
    ∃ n, readUnsigned cs = some n ∧ n.value = q := by
  obtain ⟨hm, he⟩ := h
  cases hm with
  | whole hds =>
    refine ⟨_, readUnsigned_whole hds he, ?_⟩
    rw [value_numeral, ofDigits_nil, Nat.cast_zero, zero_div, add_zero]
  | pointed hds hfs =>
    rw [List.append_assoc, List.cons_append]
    exact ⟨_, readUnsigned_pointed hds.2 hfs (.inl hds.1) he, value_numeral _ _ _⟩
  | bare hfs =>
    have hread := readUnsigned_pointed (List.forall_mem_nil _) hfs.2 (.inr hfs.1) he
    refine ⟨_, hread, ?_⟩
    rw [value_numeral, ofDigits_nil, Nat.cast_zero, zero_add]

/-! ## Literals -/

theorem Unsigned.head_unsigned {q : ℚ} (h : Unsigned cs q) :
    cs.head? ≠ some '-' ∧ cs.head? ≠ some '+' := by
  have hdigits : ∀ {ds more : List Char}, Digits ds →
      (ds ++ more).head? ≠ some '-' ∧ (ds ++ more).head? ≠ some '+' := by
    intro ds more hds
    obtain ⟨c, rest, rfl⟩ := List.exists_cons_of_ne_nil hds.1
    have hminus : c ≠ '-' := hds.head_ne (by decide)
    have hplus : c ≠ '+' := hds.head_ne (by decide)
    simpa using ⟨hminus, hplus⟩
  obtain ⟨hm, he⟩ := h
  cases hm with
  | whole hds => exact hdigits hds
  | pointed hds hfs =>
    rw [List.append_assoc]
    exact hdigits hds
  | bare hfs => simp

variable {s : String}

theorem readLiteral_minus (h : s.toList = '-' :: cs) :
    readLiteral s = (readUnsigned cs).map fun n => negated n.read := by
  simp only [readLiteral, h]

theorem readLiteral_plus (h : s.toList = '+' :: cs) :
    readLiteral s = (readUnsigned cs).map Numeral.read := by
  simp only [readLiteral, h]

theorem readLiteral_bare (hminus : s.toList.head? ≠ some '-') (hplus : s.toList.head? ≠ some '+') :
    readLiteral s = (readUnsigned s.toList).map Numeral.read := by
  unfold readLiteral
  split
  case h_1 cs heq => exact absurd (by rw [heq]; rfl) hminus
  case h_2 cs heq => exact absurd (by rw [heq]; rfl) hplus
  case h_3 => rfl

theorem unnegated_read (n : Numeral) : n.read = Binary64.nearest ((1 : Int) * n.value) := by
  rw [Numeral.read_eq_nearest, Int.cast_one, one_mul]

theorem negated_read (n : Numeral) :
    negated n.read = Binary64.nearest ((-1 : Int) * n.value) := by
  rw [Numeral.read_eq_nearest, Int.cast_neg, Int.cast_one, neg_one_mul, Binary64.nearest_neg]

/-- A text is read exactly if it is a literal in full, as the number nearest to what it
denotes. -/
theorem readLiteral_eq_some_iff {x : Number} :
    readLiteral s = some x ↔ ∃ q, Literal s.toList q ∧ Binary64.nearest q = x := by
  constructor
  · intro h
    by_cases hminus : s.toList.head? = some '-'
    · obtain ⟨cs, hcs⟩ := List.head?_eq_some_iff.1 hminus
      rw [readLiteral_minus hcs, Option.map_eq_some_iff] at h
      obtain ⟨n, hread, rfl⟩ := h
      rw [hcs]
      exact ⟨_, .mk .minus (unsigned_of_readUnsigned hread), (negated_read n).symm⟩
    by_cases hplus : s.toList.head? = some '+'
    · obtain ⟨cs, hcs⟩ := List.head?_eq_some_iff.1 hplus
      rw [readLiteral_plus hcs, Option.map_eq_some_iff] at h
      obtain ⟨n, hread, rfl⟩ := h
      rw [hcs]
      exact ⟨_, .mk .plus (unsigned_of_readUnsigned hread), (unnegated_read n).symm⟩
    · rw [readLiteral_bare hminus hplus, Option.map_eq_some_iff] at h
      obtain ⟨n, hread, rfl⟩ := h
      exact ⟨_, .mk .none (unsigned_of_readUnsigned hread), (unnegated_read n).symm⟩
  · rintro ⟨q, hliteral, rfl⟩
    generalize hcs : s.toList = cs at hliteral
    obtain ⟨hs, hu⟩ := hliteral
    obtain ⟨n, hread, rfl⟩ := hu.exists_read
    cases hs with
    | minus =>
      rw [List.singleton_append] at hcs
      rw [readLiteral_minus hcs, hread, Option.map_some, negated_read]
    | plus =>
      rw [List.singleton_append] at hcs
      rw [readLiteral_plus hcs, hread, Option.map_some, unnegated_read]
    | none =>
      -- Without a sign the rest is read as it stands, since no mantissa begins with one.
      have hhead := hu.head_unsigned
      rw [List.nil_append] at hcs
      rw [readLiteral_bare (hcs ▸ hhead.1) (hcs ▸ hhead.2), hcs, hread, Option.map_some,
        unnegated_read]

end Decimal
end Rollout
