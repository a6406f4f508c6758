import Rollout.Source.Url.Address
import Rollout.Source.Url.Letters
import Rollout.Source.Url.Punycode
import Rollout.Text.Utf8

/-
Hosts of URLs. The host of a URL of the common schemes is a name or an address, in any case
and with any of its characters in code; other schemes take any text that could not be
mistaken for more than a host.
-/
namespace Rollout
namespace Source
namespace Url

/-- Characters that no host holds. -/
def isForbidden (c : Char) : Bool :=
  [0x00, 0x09, 0x0A, 0x0D].contains c.toNat
    || [' ', '#', '/', ':', '<', '>', '?', '@', '[', '\\', ']', '^', '|'].contains c

/-- Characters that no name holds. -/
def isForbiddenInName (c : Char) : Bool :=
  isForbidden c || decide (c.toNat < 0x20) || c = '%' || c.toNat = 0x7F

/-- The bytes of a text with its percent codes resolved. What is no code stands for
itself. -/
def decodedBytes : List Char → List Nat
  | [] => []
  | '%' :: a :: b :: rest =>
    match Json.hexValue a, Json.hexValue b with
    | some high, some low => (high * 16 + low) :: decodedBytes rest
    | _, _ => '%'.toNat :: decodedBytes (a :: b :: rest)
  | c :: rest => (String.singleton c).toUTF8.toList.map UInt8.toNat ++ decodedBytes rest

/-- Whether codes are those of a part that has to be written in code. -/
def needCode (codes : List Nat) : Bool :=
  codes.any (0x80 ≤ ·) && !codes.any (holds refusedRanges)

/-- Whether a part of a name is none: it starts with a mark that belongs to the character
before it, or is in code without need. -/
def isBadPart (part : List Char) : Bool :=
  (match part with
    | c :: _ => holds [(0x300, 0x36F)] c.toNat
    | [] => false)
    || (match Json.strip ['x', 'n', '-', '-'] part with
      | some code => !(ofPunycode? code).any needCode
      | none => false)

/-- The normal form of a name or an address of four bytes. -/
def name? (cs : List Char) : Option (List Char) :=
  let normal := cs.flatMap standsFor
  let parts := splitAt (· = '.') normal
  if cs.any (fun c => holds refusedRanges c.toNat) || normal.isEmpty
      || normal.any isForbiddenInName || parts.any isBadPart then none
  else if endsInNumber parts && !isFourBytes parts then none
  else some normal

/-- The normal form of a host. -/
def host? (common : Bool) (cs : List Char) : Option (List Char) :=
  match cs with
  | '[' :: inside =>
    if inside.getLast? = some ']' && isEightGroups inside.dropLast then some cs else none
  | _ =>
    if common then name? (Text.ofUtf8 (decodedBytes cs)).toList
    else if cs.any isForbidden then none
    else some cs

end Url
end Source
end Rollout
