/-
Bytes written in base 64. Both alphabets are read, characters of neither are passed over,
and the first padding character ends the text.
-/
namespace Rollout
namespace Text

/-- The six bits a character stands for. -/
def sextet? (c : Char) : Option Nat :=
  if decide ('A' ≤ c) && decide (c ≤ 'Z') then some (c.toNat - 'A'.toNat)
  else if decide ('a' ≤ c) && decide (c ≤ 'z') then some (c.toNat - 'a'.toNat + 26)
  else if decide ('0' ≤ c) && decide (c ≤ '9') then some (c.toNat - '0'.toNat + 52)
  else if c = '+' || c = '-' then some 62
  else if c = '/' || c = '_' then some 63
  else none

/-- The bytes of sextets, four of which make three bytes. Bits that make no whole byte at
the end are dropped. -/
def bytesOfSextets : List Nat → List Nat
  | a :: b :: c :: d :: rest =>
    (a * 4 + b / 16) :: (b % 16 * 16 + c / 4) :: (c % 4 * 64 + d) :: bytesOfSextets rest
  | [a, b, c] => [a * 4 + b / 16, b % 16 * 16 + c / 4]
  | [a, b] => [a * 4 + b / 16]
  | _ => []

/-- The bytes a text in base 64 stands for. -/
def ofBase64 (s : String) : List Nat :=
  bytesOfSextets ((s.toList.takeWhile (· != '=')).filterMap sextet?)

def sextetChar (n : Nat) : Char :=
  if n < 26 then Char.ofNat ('A'.toNat + n)
  else if n < 52 then Char.ofNat ('a'.toNat + (n - 26))
  else if n < 62 then Char.ofNat ('0'.toNat + (n - 52))
  else if n = 62 then '+'
  else '/'

/-- Bytes in base 64, padded to whole groups of four characters. -/
def toBase64 : List Nat → List Char
  | a :: b :: c :: rest =>
    sextetChar (a / 4) :: sextetChar (a % 4 * 16 + b / 16) :: sextetChar (b % 16 * 4 + c / 64)
      :: sextetChar (c % 64) :: toBase64 rest
  | [a, b] => [sextetChar (a / 4), sextetChar (a % 4 * 16 + b / 16), sextetChar (b % 16 * 4), '=']
  | [a] => [sextetChar (a / 4), sextetChar (a % 4 * 16), '=', '=']
  | [] => []

end Text
end Rollout
