/-
Decoding of UTF-8 bytes that never fails. Each longest beginning of a sequence that
no character has becomes one replacement character, and reading resumes at the
byte that broke the sequence.
-/
namespace Rollout
namespace Text

/-- A sequence under way: the code so far, how many bytes are still missing, and
the range the next byte has to be in. -/
structure Utf8Partial where
  code : Nat
  missing : Nat
  least : Nat
  greatest : Nat

def replacement : Char := Char.ofNat 0xFFFD

/-- What a byte at the start of a character gives: a whole character, or a
sequence under way. -/
def utf8Start (byte : Nat) : Char ⊕ Utf8Partial :=
  if byte < 0x80 then .inl (Char.ofNat byte)
  else if byte < 0xC2 then .inl replacement
  else if byte < 0xE0 then .inr ⟨byte - 0xC0, 1, 0x80, 0xBF⟩
  else if byte = 0xE0 then .inr ⟨0, 2, 0xA0, 0xBF⟩
  else if byte = 0xED then .inr ⟨0xD, 2, 0x80, 0x9F⟩
  else if byte < 0xF0 then .inr ⟨byte - 0xE0, 2, 0x80, 0xBF⟩
  else if byte = 0xF0 then .inr ⟨0, 3, 0x90, 0xBF⟩
  else if byte < 0xF4 then .inr ⟨byte - 0xF0, 3, 0x80, 0xBF⟩
  else if byte = 0xF4 then .inr ⟨4, 3, 0x80, 0x8F⟩
  else .inl replacement

def decodeUtf8From : Option Utf8Partial → List Nat → List Char
  | none, [] => []
  | some _, [] => [replacement]
  | none, byte :: rest =>
    match utf8Start byte with
    | .inl c => c :: decodeUtf8From none rest
    | .inr p => decodeUtf8From (some p) rest
  | some p, byte :: rest =>
    if p.least ≤ byte ∧ byte ≤ p.greatest then
      let code := p.code * 64 + (byte - 0x80)
      if p.missing ≤ 1 then Char.ofNat code :: decodeUtf8From none rest
      else decodeUtf8From (some ⟨code, p.missing - 1, 0x80, 0xBF⟩) rest
    else
      match utf8Start byte with
      | .inl c => replacement :: c :: decodeUtf8From none rest
      | .inr q => replacement :: decodeUtf8From (some q) rest

/-- The text that UTF-8 bytes stand for. -/
def ofUtf8 (bytes : List Nat) : String := String.ofList (decodeUtf8From none bytes)

end Text
end Rollout
