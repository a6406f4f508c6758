import Rollout.Log.Entry

/-
A log entry is one line. The text of a value on one line holds no line break, whatever the
value: strings escape theirs, and digits and words have none.
-/
namespace Rollout

theorem not_mem_toDigits {c : Char} (hc : c.isDigit = false) (n : Nat) :
    c ∉ Nat.toDigits 10 n := fun hmem => by
  rw [Nat.isDigit_of_mem_toDigits (by decide) (by decide) hmem] at hc
  cases hc

namespace Shortest

theorem newline_not_mem_significantDigits (n : Nat) : '\n' ∉ significantDigits n := by
  intro hmem
  have hmem' := (List.dropWhile_sublist _).mem (List.mem_reverse.1 hmem)
  exact not_mem_toDigits (by decide) n (List.mem_reverse.1 hmem')

theorem newline_not_mem_scientific {digits : List Char} (h : '\n' ∉ digits) (point : Int) :
    '\n' ∉ scientific digits point := by
  have hexponent := not_mem_toDigits (c := '\n') (by decide) (point - 1).natAbs
  have htail : '\n' ∉ 'e' :: (if point - 1 < 0 then '-' else '+') ::
      Nat.toDigits 10 (point - 1).natAbs := by
    simp only [List.mem_cons, not_or]
    refine ⟨by decide, ?_, hexponent⟩
    split <;> decide
  cases digits with
  | nil => exact htail
  | cons first more =>
    obtain ⟨hfirst, hmore⟩ := not_or.1 (fun hmem => h (List.mem_cons.2 hmem))
    cases more with
    | nil => exact fun hmem => (List.mem_cons.1 hmem).elim hfirst htail
    | cons second others =>
      have hmantissa : '\n' ∉ first :: '.' :: second :: others := by
        simp only [List.mem_cons, not_or] at hmore ⊢
        exact ⟨hfirst, by decide, hmore⟩
      exact fun hmem => (List.mem_append.1 hmem).elim hmantissa htail

theorem newline_not_mem_layOut {digits : List Char} (h : '\n' ∉ digits) (point : Int) :
    '\n' ∉ layOut digits point := by
  have htake (k : Nat) : '\n' ∉ digits.take k := fun hmem => h (List.mem_of_mem_take hmem)
  have hdrop (k : Nat) : '\n' ∉ digits.drop k := fun hmem => h (List.mem_of_mem_drop hmem)
  rw [layOut]
  split
  · simp [h]
  split
  · simp [htake, hdrop]
  split
  · simp [h]
  · exact newline_not_mem_scientific h point

end Shortest

namespace Json

theorem newline_not_mem_numberChars (n : Number) : '\n' ∉ numberChars n := by
  cases n with
  | finite q =>
    have hbody := Shortest.newline_not_mem_layOut
      (Shortest.newline_not_mem_significantDigits
        (Shortest.shortestNumeral q.num.natAbs q.den).digits)
    simp only [numberChars, Number.isFinite, if_true, Number.text, Shortest.magnitudeText,
      Shortest.magnitudeBy]
    split
    · decide
    · split <;> simp [hbody]
  | infinity => decide
  | negInfinity => decide
  | notANumber => decide

theorem hexDigit_ne_newline : ∀ n < 16, hexDigit n ≠ '\n' := by decide

theorem newline_not_mem_escapeChar (c : Char) : '\n' ∉ escapeChar c := by
  by_cases hnewline : c = '\n'
  · subst hnewline
    decide
  have hlow : c.toNat < 0x20 → '\n' ≠ hexDigit (c.toNat / 16) ∧ '\n' ≠ hexDigit (c.toNat % 16) :=
    fun h => ⟨(hexDigit_ne_newline _ (by omega)).symm, (hexDigit_ne_newline _ (by omega)).symm⟩
  rw [escapeChar]
  repeat' split
  all_goals simp_all [Ne.symm hnewline]

theorem newline_not_mem_quoted (s : String) : '\n' ∉ quoted s := by
  simp [quoted, newline_not_mem_escapeChar]

mutual

/-- A one-line text is one line. -/
theorem newline_not_mem_chars : ∀ v : Json, '\n' ∉ chars v
  | .null => by decide
  | .bool true => by decide
  | .bool false => by decide
  | .number n => newline_not_mem_numberChars n
  | .text s => newline_not_mem_quoted s
  | .array items => by simp [chars, newline_not_mem_itemChars items]
  | .object members => by simp [chars, newline_not_mem_memberChars members]
  | .foreign _ shown => by simp [chars, newline_not_mem_chars shown]

theorem newline_not_mem_itemChars : ∀ items : List Json, '\n' ∉ itemChars items
  | [] => by simp [itemChars]
  | [v] => newline_not_mem_chars v
  | v :: w :: rest => by
    simp [itemChars, newline_not_mem_chars v, newline_not_mem_itemChars (w :: rest)]

theorem newline_not_mem_memberChars : ∀ members : List (String × Json), '\n' ∉ memberChars members
  | [] => by simp [memberChars]
  | [(k, v)] => by simp [memberChars, newline_not_mem_quoted, newline_not_mem_chars v]
  | (k, v) :: m :: rest => by
    simp [memberChars, newline_not_mem_quoted, newline_not_mem_chars v,
      newline_not_mem_memberChars (m :: rest)]

end

end Json

namespace Log

/-- A log line is the text of an object, with one line break, at its end. -/
theorem Entry.line_eq (e : Entry) (time : String) :
    ∃ cs, (e.line time).toList = '\x7b' :: (cs ++ ['\n']) ∧ '\n' ∉ cs := by
  have hmembers := Json.newline_not_mem_memberChars (e.members time)
  refine ⟨Json.memberChars (e.members time) ++ ['\x7d'], ?_, by simp [hmembers]⟩
  simp [line, Json.chars]

end Log
end Rollout
