import Rollout.Json.Basic
import Rollout.Number.Shortest

/-
Texts of document values: on one line, or laid out with two blanks per level. A
string escapes quotes, backslashes and control characters and nothing else, so a
one-line text holds no line break. Numbers that are not finite are written as null.
-/
namespace Rollout
namespace Json

def hexDigit (n : Nat) : Char :=
  if n < 10 then Char.ofNat ('0'.toNat + n) else Char.ofNat ('a'.toNat + (n - 10))

/-- One character inside a string. -/
def escapeChar (c : Char) : List Char :=
  if c = '"' then ['\\', '"']
  else if c = '\\' then ['\\', '\\']
  else if c.toNat = 0x08 then ['\\', 'b']
  else if c.toNat = 0x09 then ['\\', 't']
  else if c.toNat = 0x0A then ['\\', 'n']
  else if c.toNat = 0x0C then ['\\', 'f']
  else if c.toNat = 0x0D then ['\\', 'r']
  else if c.toNat < 0x20 then
    ['\\', 'u', '0', '0', hexDigit (c.toNat / 16), hexDigit (c.toNat % 16)]
  else [c]

def quoted (s : String) : List Char := '"' :: (s.toList.flatMap escapeChar ++ ['"'])

def numberChars (n : Number) : List Char :=
  if n.isFinite then n.text.toList else "null".toList

mutual

/-- The text on one line. -/
def chars : Json → List Char
  | .null => "null".toList
  | .bool true => "true".toList
  | .bool false => "false".toList
  | .number n => numberChars n
  | .text s => quoted s
  | .array items => '[' :: (itemChars items ++ [']'])
  | .object members => '\x7b' :: (memberChars members ++ ['\x7d'])
  | .foreign _ shown => chars shown

def itemChars : List Json → List Char
  | [] => []
  | [v] => chars v
  | v :: rest => chars v ++ ',' :: itemChars rest

def memberChars : List (String × Json) → List Char
  | [] => []
  | [(k, v)] => quoted k ++ ':' :: chars v
  | (k, v) :: rest => quoted k ++ ':' :: (chars v ++ ',' :: memberChars rest)

end

/-- A line break followed by the indentation of a level. -/
def newLine (level : Nat) : List Char := '\n' :: List.replicate (2 * level) ' '

mutual

/-- The text laid out over lines, for a value that starts at the given level. -/
def laidOut (level : Nat) : Json → List Char
  | .array [] => ['[', ']']
  | .object [] => ['\x7b', '\x7d']
  | .array items => '[' :: (laidOutItems (level + 1) items ++ newLine level ++ [']'])
  | .object members =>
    '\x7b' :: (laidOutMembers (level + 1) members ++ newLine level ++ ['\x7d'])
  | .null => "null".toList
  | .bool true => "true".toList
  | .bool false => "false".toList
  | .number n => numberChars n
  | .text s => quoted s
  | .foreign _ shown => laidOut level shown

def laidOutItems (level : Nat) : List Json → List Char
  | [] => []
  | [v] => newLine level ++ laidOut level v
  | v :: rest => newLine level ++ laidOut level v ++ ',' :: laidOutItems level rest

def laidOutMembers (level : Nat) : List (String × Json) → List Char
  | [] => []
  | [(k, v)] => newLine level ++ quoted k ++ ':' :: ' ' :: laidOut level v
  | (k, v) :: rest =>
    newLine level ++ quoted k ++ ':' :: ' ' :: (laidOut level v ++ ',' :: laidOutMembers level rest)

end

def compact (v : Json) : String := String.ofList (chars v)

def pretty (v : Json) : String := String.ofList (laidOut 0 v)

end Json
end Rollout
