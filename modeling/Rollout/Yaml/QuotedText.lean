import Rollout.Json.Reader
import Rollout.Yaml.Character
import Rollout.Yaml.Fault

/-
The texts of scalars that flow over lines: plain ones and those in quotes. A single line
break becomes a blank, and of several the first is dropped; blanks around line breaks are
no part of the text. In double quotes escapes are resolved too.
-/
namespace Rollout
namespace Yaml

/-! ## Folding -/

/-- The lines of a text. -/
def splitLines : List Char → List (List Char)
  | [] => [[]]
  | '\n' :: rest => [] :: splitLines rest
  | c :: rest =>
    match splitLines rest with
    | line :: more => (c :: line) :: more
    | [] => [[c]]

/-- What a run of line breaks becomes. -/
def foldedBreaks (breaks : Nat) : List Char :=
  if breaks ≤ 1 then [' '] else List.replicate (breaks - 1) '\n'

/-- A line without the carriage return and the blanks at its end. -/
def trimEnd (line : List Char) : List Char :=
  let reversed := line.reverse
  ((if reversed.head? = some '\r' then reversed.tail else reversed).dropWhile isBlank).reverse

/-- Joins the lines behind the first one. Empty lines become line breaks, and the last
line keeps the blanks at its end. -/
def joinLines : Nat → List (List Char) → List Char
  | _, [] => []
  | breaks, [last] => foldedBreaks breaks ++ last.dropWhile isBlank
  | breaks, line :: more =>
    let inner := trimEnd (line.dropWhile isBlank)
    if inner.isEmpty then joinLines (breaks + 1) more
    else foldedBreaks breaks ++ inner ++ joinLines 1 more

/-- The text of lines after folding. The first line keeps the blanks at its start. -/
def foldLines (cs : List Char) : List Char :=
  match splitLines cs with
  | [] => []
  | [only] => only
  | first :: more => trimEnd first ++ joinLines 1 more

/-! ## Plain scalars -/

/-- Characters that no plain scalar starts with. -/
def isReserved (c : Char) : Bool :=
  c = '\t' || c = ',' || c = '%' || c = '|' || c = '>' || c = '@' || c.toNat = 0x60

def plainText (source : List Char) : Except Fault (List Char) :=
  match source with
  | c :: _ => if isReserved c then .error (.badStart c) else .ok (foldLines source)
  | [] => .ok []

/-! ## Single quotes -/

/-- Whether a quoted scalar ends with its quote. -/
def isClosed (source : List Char) : Bool :=
  decide (2 ≤ source.length) && source.getLast? = source.head?

/-- In single quotes a quote is written twice. -/
def undouble : List Char → List Char
  | '\'' :: '\'' :: rest => '\'' :: undouble rest
  | c :: rest => c :: undouble rest
  | [] => []

def singleText (source : List Char) : Except Fault (List Char) :=
  if isClosed source then .ok (undouble (foldLines (source.tail.dropLast)))
  else .error .unterminated

/-! ## Double quotes -/

/-- The character a one-letter escape stands for. -/
def escapeLetter (c : Char) : Option Char :=
  if c = '0' then some (Char.ofNat 0x00)
  else if c = 'a' then some (Char.ofNat 0x07)
  else if c = 'b' then some (Char.ofNat 0x08)
  else if c = 'e' then some (Char.ofNat 0x1B)
  else if c = 'f' then some (Char.ofNat 0x0C)
  else if c = 'n' then some '\n'
  else if c = 'r' then some '\r'
  else if c = 't' then some '\t'
  else if c = 'v' then some (Char.ofNat 0x0B)
  else if c = 'N' then some (Char.ofNat 0x85)
  else if c = '_' then some (Char.ofNat 0xA0)
  else if c = 'L' then some (Char.ofNat 0x2028)
  else if c = 'P' then some (Char.ofNat 0x2029)
  else if c = ' ' || c = '"' || c = '/' || c = '\\' || c = '\t' then some c
  else none

/-- How many hexadecimal digits an escape takes. -/
def escapeDigits (c : Char) : Option Nat :=
  if c = 'x' then some 2 else if c = 'u' then some 4 else if c = 'U' then some 8 else none

/-- Joins a code to a high surrogate before it, as far as it can be part of a pair. -/
def joinCode (high : Option Nat) (n : Nat) : List Char × Option Nat :=
  if n < 0x10000 then Json.joinUnit high n else (Json.owed high ++ [Char.ofNat n], none)

/-- The blanks and line breaks in front: how many characters, and how many line breaks. -/
def gapRun (seen breaks : Nat) : List Char → Nat × Nat
  | '\n' :: rest => gapRun (seen + 1) (breaks + 1) rest
  | '\r' :: '\n' :: rest => gapRun (seen + 2) (breaks + 1) rest
  | ' ' :: rest => gapRun (seen + 1) breaks rest
  | '\t' :: rest => gapRun (seen + 1) breaks rest
  | _ => (seen, breaks)

/-- What the front of a text in double quotes leads to: characters, a waiting surrogate, and
how many characters of the source were taken. -/
structure Unescaped where
  chars : List Char
  high : Option Nat
  taken : Nat

/-- An escape, behind its backslash. An escaped line break joins its lines. -/
def escapePiece (high : Option Nat) (c : Char) (rest : List Char) : Except Fault Unescaped :=
  match escapeLetter c with
  | some x => .ok ⟨Json.owed high ++ [x], none, 2⟩
  | none =>
    if c = '\n' then .ok ⟨Json.owed high, none, 2 + blanks rest⟩
    else if c = '\r' && rest.head? = some '\n' then
      .ok ⟨Json.owed high, none, 3 + blanks rest.tail⟩
    else
      match escapeDigits c with
      | none => .error .badEscape
      | some count =>
        let digits := rest.take count
        match (if digits.length = count then Json.hexNumber 0 digits else none) with
        | none => .error .badEscape
        | some n =>
          if n < 0x110000 then
            let (settled, high') := joinCode high n
            .ok ⟨settled, high', count + 2⟩
          else .error .badEscape

/-- The piece at the front of a text in double quotes. -/
def doublePiece (high : Option Nat) (c : Char) (rest : List Char) : Except Fault Unescaped :=
  match c, rest with
  | '\\', e :: more => escapePiece high e more
  | '\r', '\n' :: _ => .ok ⟨[], high, 1⟩
  | '\n', _ =>
    let (count, breaks) := gapRun 0 0 rest
    .ok ⟨Json.owed high ++ foldedBreaks (breaks + 1), none, 1 + count⟩
  | _, _ =>
    if isBlank c then
      let run := rest.takeWhile isBlank
      let behind := rest.drop run.length
      if !behind.isEmpty && endsLine behind then .ok ⟨[], high, 1 + run.length⟩
      else .ok ⟨Json.owed high ++ c :: run, none, 1 + run.length⟩
    else .ok ⟨Json.owed high ++ [c], none, 1⟩

/-- The text in front of a closing quote, piece by piece. The quote itself may be taken by
an escape. -/
def doublePieces : Nat → Option Nat → List Char → Except Fault (List Char)
  | _, high, [] => .ok (Json.owed high)
  | _, high, [_] => .ok (Json.owed high)
  | 0, _, _ => .error .badEscape
  | fuel + 1, high, c :: rest =>
    match doublePiece high c rest with
    | .error f => .error f
    | .ok piece =>
      (doublePieces fuel piece.high ((c :: rest).drop piece.taken)).map (piece.chars ++ ·)

def doubleText (source : List Char) : Except Fault (List Char) :=
  if isClosed source then doublePieces source.length none source.tail else .error .unterminated

end Yaml
end Rollout
