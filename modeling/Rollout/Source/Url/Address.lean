import Rollout.Json.Reader
import Rollout.Source.Path

/-
Numeric addresses in URLs. An address of four bytes is written with up to four numbers, the
last of which fills the bytes that are left; one of eight groups is written in hexadecimal,
with one gap of zeros at most, and may end with four decimal bytes.
-/
namespace Rollout
namespace Source
namespace Url

/-! ## Four bytes -/

/-- The number that digits of a base write, zero for no digits. -/
def digitsIn? (base : Nat) (ds : List Char) : Option Nat :=
  let values := ds.map Json.hexValue
  if values.all fun v => v.any (· < base) then
    some (values.foldl (fun acc v => acc * base + v.getD 0) 0)
  else none

/-- The number of a part: hexadecimal behind `0x`, octal behind another zero. -/
def partNumber? : List Char → Option Nat
  | [] => none
  | '0' :: c :: ds => if c = 'x' || c = 'X' then digitsIn? 16 ds else digitsIn? 8 (c :: ds)
  | ds => digitsIn? 10 ds

/-- The parts of a host that count: an empty one at the end does not. -/
def countingParts (parts : List (List Char)) : List (List Char) :=
  if parts.getLast? = some [] then parts.dropLast else parts

/-- Whether a host means to be an address of four bytes: its last part is a number. -/
def endsInNumber (parts : List (List Char)) : Bool :=
  match (countingParts parts).getLast? with
  | some part => (!part.isEmpty && part.all Decimal.isDigit) || (partNumber? part).isSome
  | none => false

/-- Whether numbers make up four bytes: one each, and the rest for the last. -/
def makeFourBytes (numbers : List Nat) : Bool :=
  match numbers.reverse with
  | [] => false
  | last :: others =>
    decide (others.length < 4) && others.all (· < 256)
      && decide (last < Nat.pow 256 (4 - others.length))

def isFourBytes (parts : List (List Char)) : Bool :=
  ((countingParts parts).mapM partNumber?).any makeFourBytes

/-! ## Eight groups -/

def isHexGroup (cs : List Char) : Bool :=
  !cs.isEmpty && decide (cs.length ≤ 4) && cs.all fun c => (Json.hexValue c).isSome

/-- Whether a text is a byte in decimal, without leading zeros. -/
def isDecimalByte (cs : List Char) : Bool :=
  !cs.isEmpty && cs.all Decimal.isDigit && decide (Decimal.ofDigits cs < 256)
    && (cs.length = 1 || cs.head? != some '0')

def isDottedBytes (cs : List Char) : Bool :=
  let parts := splitAt (· = '.') cs
  parts.length = 4 && parts.all isDecimalByte

/-- How many groups there are, four decimal bytes at the end counting for two. -/
def groupCount? (dotted : Bool) : List (List Char) → Option Nat
  | [] => some 0
  | [g] => if isHexGroup g then some 1 else if dotted && isDottedBytes g then some 2 else none
  | g :: rest => if isHexGroup g then (groupCount? dotted rest).map (· + 1) else none

/-- The groups of a text between colons; an empty text has none. -/
def groups (cs : List Char) : List (List Char) :=
  if cs.isEmpty then [] else splitAt (· = ':') cs

/-- What stands before and behind the first pair of colons. -/
def aroundGap? : List Char → Option (List Char × List Char)
  | ':' :: ':' :: rest => some ([], rest)
  | c :: rest => (aroundGap? rest).map fun (before, behind) => (c :: before, behind)
  | [] => none

/-- A gap stands for one group at least. -/
def isEightGroups (cs : List Char) : Bool :=
  match aroundGap? cs with
  | none => groupCount? true (groups cs) = some 8
  | some (before, behind) =>
    match groupCount? false (groups before), groupCount? true (groups behind) with
    | some a, some b => decide (a + b < 8)
    | _, _ => false

end Url
end Source
end Rollout
