import Rollout.Text.Units

/-
Texts as messages show them: in quotes that they do not contain, if there are any, with
escapes for control characters. A long text is shown line by line, and cut off in the end.
-/
namespace Rollout
namespace Text

/-- Whether a text starts a template somewhere. -/
def hasTemplate : List Char → Bool
  | '$' :: '\x7b' :: _ => true
  | _ :: rest => hasTemplate rest
  | [] => false

/-- The quotes for a text: single ones, double ones where it contains single ones, and
backquotes where it contains both. The backquote is no choice where it would start a
template. -/
def quoteFor (cs : List Char) : Char :=
  let backquote := Char.ofNat 0x60
  if !cs.contains '\'' then '\''
  else if !cs.contains '"' then '"'
  else if !cs.contains backquote && !hasTemplate cs then backquote
  else '\''

/-- A digit of a code in capitals. -/
def capitalHex (n : Nat) : Char :=
  Char.ofNat (if n < 10 then '0'.toNat + n else 'A'.toNat + (n - 10))

/-- A character inside quotes. -/
def shownChar (quote c : Char) : List Char :=
  let n := c.toNat
  if c = quote && quote = '\'' then ['\\', '\'']
  else if c = '\\' then ['\\', '\\']
  else if n = 0x08 then ['\\', 'b']
  else if n = 0x09 then ['\\', 't']
  else if n = 0x0A then ['\\', 'n']
  else if n = 0x0C then ['\\', 'f']
  else if n = 0x0D then ['\\', 'r']
  else if n < 0x20 || (0x7F ≤ n && n < 0xA0) then
    ['\\', 'x', capitalHex (n / 16), capitalHex (n % 16)]
  else [c]

def shownLine (cs : List Char) : List Char :=
  let quote := quoteFor cs
  quote :: (cs.flatMap (shownChar quote) ++ [quote])

/-- The lines of a text, each with the break that ends it. -/
def brokenLines : List Char → List (List Char)
  | [] => []
  | c :: rest =>
    if c = '\n' then [c] :: brokenLines rest
    else
      match brokenLines rest with
      | line :: more => (c :: line) :: more
      | [] => [[c]]

/-- The longest text that is shown as a whole, in UTF-16 code units. -/
def longestWhole : Nat := 124

/-- The longest display. -/
def longestDisplay : Nat := 128

/-- The display of a text. -/
def shown (s : String) : String :=
  let cs := s.toList
  let display :=
    if longestWhole < unitCount cs then
      [' ', '+', '\n', ' ', ' '].intercalate ((brokenLines cs).map shownLine)
    else shownLine cs
  let all := display.flatMap unitsOf
  if longestDisplay < all.length then String.ofList (ofUnits (all.take longestDisplay)) ++ "..."
  else String.ofList display

end Text
end Rollout
