import Rollout.Json.Printer
import Rollout.Yaml.Character
import Rollout.Yaml.Folding
import Rollout.Yaml.Node

/-
Texts as they are written inside flow collections: without quotes where that reads back as
the same text, and else in single or double quotes. Long texts are folded, and so are line
breaks, except in keys, which stay on their line.
-/
namespace Rollout
namespace Yaml
namespace FlowForm

/-- Where something is written. -/
structure Place where
  /-- The indentation of further lines. -/
  indent : Nat
  /-- Where the first line starts, if something stands before it. -/
  start : Option Nat
  /-- Whether it is a key, which has to stay on one line. -/
  isKey : Bool

def margin (indent : Nat) : List Char := List.replicate indent ' '

/-- Folds a text at a place. Keys are not folded. -/
def folded (quoted : Bool) (p : Place) (cs : List Char) : List Char :=
  if p.isKey then cs
  else Text.ofUnits (Folding.fold quoted p.indent p.start (cs.flatMap Text.unitsOf))

/-! ## Double quotes -/

/-- The escape of a control character, whose code has two hexadecimal digits. -/
def controlEscape (high low : Char) : List Char :=
  if high = '0' && low = '0' then ['\\', '0']
  else if high = '0' && low = '7' then ['\\', 'a']
  else if high = '0' && low = 'b' then ['\\', 'v']
  else if high = '1' && low = 'b' then ['\\', 'e']
  else ['\\', 'x', high, low]

/-- Splits a JSON string into its characters and escapes, control characters in the escapes
that YAML has for them. -/
def pieces : List Char → List (List Char)
  | '\\' :: 'u' :: '0' :: '0' :: high :: low :: rest => controlEscape high low :: pieces rest
  | '\\' :: c :: rest => ['\\', c] :: pieces rest
  | c :: rest => [c] :: pieces rest
  | [] => []

def lineEscape : List Char := ['\\', 'n']

/-- Writes out the line breaks of a quoted text, one more than there are, since folding takes
one away. The last one stays an escape. Blanks next to a break need a backslash to be kept. -/
def spread (indent : Nat) (written behindBreak : Bool) : List (List Char) → List Char
  | [] => []
  | piece :: rest =>
    let next := rest.head?.getD []
    if piece = lineEscape && written && next != ['"'] then
      (if behindBreak then ['\n'] else ['\n', '\n']) ++ spread indent written true rest
    else
      let before :=
        if !behindBreak then []
        else if piece = [' '] then margin indent ++ ['\\']
        else margin indent
      let own := if piece = [' '] && next = lineEscape then ['\\', ' '] else piece
      before ++ own ++ spread indent written false rest

/-- The least length of a quoted text over several lines, in UTF-16 code units. -/
def leastOverLines : Nat := 40

def doubleQuoted (p : Place) (s : String) : List Char :=
  let json := Json.quoted s
  let written := !p.isKey && decide (leastOverLines ≤ Text.unitCount json)
  folded true p (spread p.indent written false (pieces json))

/-! ## Single quotes -/

/-- Whether two neighbours in a text have a property. -/
def anyPair (p : Char → Char → Bool) : List Char → Bool
  | a :: b :: rest => p a b || anyPair p (b :: rest)
  | _ => false

/-- Adds a line break and the indentation behind the line breaks of a text. -/
def spaced (indent : Nat) : List Char → List Char
  | [] => []
  | '\n' :: rest =>
    if rest.head? = some '\n' then '\n' :: spaced indent rest
    else '\n' :: '\n' :: (margin indent ++ spaced indent rest)
  | c :: rest => c :: spaced indent rest

/-- Writes a text in single quotes. Blanks next to a break and breaks in keys need double
quotes. -/
def singleQuoted (p : Place) (s : String) : List Char :=
  let cs := s.toList
  if (p.isKey && cs.contains '\n')
      || anyPair (fun a b => (isBlank a && b = '\n') || (a = '\n' && isBlank b)) cs then
    doubleQuoted p s
  else
    let inside := cs.flatMap fun c => if c = '\'' then ['\'', '\''] else [c]
    folded false p ('\'' :: (spaced p.indent inside ++ ['\'']))

/-- Writes a text in the quotes that it does not contain, double ones if in doubt. -/
def quoted (p : Place) (s : String) : List Char :=
  let cs := s.toList
  if cs.contains '"' && !cs.contains '\'' then singleQuoted p s else doubleQuoted p s

/-! ## No quotes -/

/-- Characters that no unquoted text starts with. -/
def isStartMark (c : Char) : Bool :=
  isGap c && c != '\r' || isFlowMark c || ['#', '&', '*', '!', '|', '>', '\'', '"', '%', '@'].contains c
    || c.toNat = 0x60

/-- Whether a text is safe without quotes, as far as its characters are concerned. -/
def isSafe (cs : List Char) : Bool :=
  let isGapMark (c : Char) : Bool := isBlank c || c = '\n'
  let badStart : Bool :=
    match cs with
    | [] => false
    | c :: rest =>
      isStartMark c || ((c = '?' || c = '-') && (rest.isEmpty || rest.head?.any isBlank))
  let badPair (a b : Char) : Bool :=
    ((a = '\n' || a = ':') && isBlank b) || (isBlank a && b = '\n') || (isGapMark a && b = '#')
  !badStart && !anyPair badPair cs
    && !cs.getLast?.any (fun c => isGapMark c || c = ':' || c = '-') && !cs.any isFlowMark

/-- Whether a text without quotes would be read as something else. -/
def hasForm (version : Version) (s : String) : Bool :=
  (Form.ofVersion version).any (fun f => (f.read s).isSome) || (version = .older && s = mergeText)

/-- Writes a text without quotes if it is safe. The flag tells whether forms of other values
have to be quoted. -/
def plain (version : Version) (guarded : Bool) (p : Place) (s : String) : List Char :=
  let cs := s.toList
  if (p.isKey && cs.contains '\n') || !isSafe cs || (guarded && hasForm version s) then quoted p s
  else folded false p (spaced p.indent cs)

/-- Whether a text holds control characters, which only double quotes can hold. -/
def hasControl (cs : List Char) : Bool :=
  cs.any fun c =>
    let n := c.toNat
    (n < 0x20 && n != 0x09 && n != 0x0A) || (0x7F ≤ n && n ≤ 0x9F)

/-- Writes a text in the style it had. Flow collections have no block style. -/
def text (version : Version) (guarded : Bool) (p : Place) (style : Style) (s : String) : List Char :=
  if hasControl s.toList then doubleQuoted p s
  else
    match style with
    | .plain => plain version guarded p s
    | .singleQuoted => singleQuoted p s
    | .doubleQuoted => doubleQuoted p s
    | .block => quoted p s

end FlowForm
end Yaml
end Rollout
