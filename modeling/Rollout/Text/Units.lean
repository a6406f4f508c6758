/-
Order of texts by their UTF-16 code units. Identifiers are compared this way
everywhere, so a character outside the basic plane sorts by its surrogate pair:
after U+D7FF and before U+E000.
-/
namespace Rollout
namespace Text

/-- The UTF-16 code units of one character: itself, or a surrogate pair. -/
def unitsOf (c : Char) : List Nat :=
  if c.toNat < 0x10000 then [c.toNat]
  else
    [0xD800 + (c.toNat - 0x10000) / 0x400, 0xDC00 + (c.toNat - 0x10000) % 0x400]

/-- The UTF-16 code units of a text. -/
def units (s : String) : List Nat := s.toList.flatMap unitsOf

/-- How many UTF-16 code units characters take. -/
def unitCount (cs : List Char) : Nat :=
  cs.foldl (fun n c => if c.toNat < 0x10000 then n + 1 else n + 2) 0

/-- The characters of UTF-16 code units. A surrogate without its partner is replaced. -/
def ofUnits : List Nat → List Char
  | [] => []
  | [u] => [if 0xD800 ≤ u ∧ u < 0xE000 then Char.ofNat 0xFFFD else Char.ofNat u]
  | u :: v :: rest =>
    if 0xD800 ≤ u ∧ u < 0xDC00 ∧ 0xDC00 ≤ v ∧ v < 0xE000 then
      Char.ofNat (0x10000 + (u - 0xD800) * 0x400 + (v - 0xDC00)) :: ofUnits rest
    else
      (if 0xD800 ≤ u ∧ u < 0xE000 then Char.ofNat 0xFFFD else Char.ofNat u) :: ofUnits (v :: rest)

/-- Strict order of texts: the first differing code unit decides, and a proper
beginning comes first. -/
def precedes (a b : String) : Bool := decide (units a < units b)

end Text
end Rollout
