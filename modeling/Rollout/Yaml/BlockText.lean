import Rollout.Number.Decimal
import Rollout.Yaml.QuotedText
import Rollout.Yaml.Token

/-
The texts of block scalars. The header tells whether lines are folded, what becomes of the
line breaks at the end, and how far the content is indented; without an indentation of its
own the first line that is not empty tells it.
-/
namespace Rollout
namespace Yaml

inductive Chomp where
  | clip | strip | keep
  deriving DecidableEq

/-- The header of a block scalar. -/
structure BlockHeader where
  folded : Bool
  chomp : Chomp
  indent : Option Nat

namespace BlockHeader

/-- Reads the indicators behind the mark. Each sort stands once at most. -/
def indicators (h : BlockHeader) (chomped : Bool) : List Char → Except Fault BlockHeader
  | [] => .ok h
  | c :: rest =>
    if c = '-' && !chomped then indicators { h with chomp := .strip } true rest
    else if c = '+' && !chomped then indicators { h with chomp := .keep } true rest
    else if decide ('1' ≤ c) && decide (c ≤ '9') && h.indent.isNone then
      indicators { h with indent := some (Decimal.digitValue c) } chomped rest
    else .error .blockHeader

def ofText (cs : List Char) : Except Fault BlockHeader :=
  match cs with
  | c :: rest => indicators ⟨c = '>', .clip, none⟩ false rest
  | [] => .error .blockHeader

/-- The comment behind a header. Nothing else may stand there. -/
def comment (spaced : Bool) (found : Option (List Char)) :
    List Token → Except Fault (Option (List Char))
  | [] => .ok found
  | t :: rest =>
    match t.kind with
    | .space => comment true found rest
    | .newline => comment spaced found rest
    | .comment => if spaced then comment spaced (some t.text.tail) rest else .error .missingSpace
    | _ => .error (.unexpected (String.ofList t.text))

end BlockHeader

/-- A line as its indentation and what follows. -/
structure BlockLine where
  indent : Nat
  text : List Char

namespace BlockLine

def ofChars (cs : List Char) : BlockLine := ⟨spaces cs, cs.dropWhile (· = ' ')⟩

def isEmpty (l : BlockLine) : Bool := l.text.isEmpty || l.text = ['\r']

/-- The blanks that stand beyond an indentation. -/
def beyond (indent : Nat) (l : BlockLine) : List Char := List.replicate (l.indent - indent) ' '

/-- A line without the carriage return at its end. -/
def withoutReturn (l : BlockLine) : BlockLine :=
  if l.text.getLast? = some '\r' then ⟨l.indent, l.text.dropLast⟩ else l

end BlockLine

namespace BlockText

/-- The indentation of the content, from the indentation known so far, and how many empty
lines come before the content. A content line may not be indented less than an empty line
before it. -/
def contentIndent (given : Bool) (seen indent : Nat) :
    List BlockLine → Except Fault (Nat × Nat)
  | [] => .ok (indent, 0)
  | l :: rest =>
    if l.isEmpty then
      contentIndent given (seen + 1) (if given then indent else max indent l.indent) rest
    else if l.indent < indent then .error .indentation
    else .ok (if given then indent else l.indent, seen)

/-- Joins the lines of a literal scalar. -/
def literal (indent : Nat) : List BlockLine → List Char
  | [] => []
  | [l] => l.beyond indent ++ l.text
  | l :: rest => l.beyond indent ++ l.text ++ '\n' :: literal indent rest

/-- Joins the lines of a folded scalar. `gap` is what stands before the next line, and
`further` tells whether the line before it was indented further. -/
def folded (indent : Nat) (gap : List Char) (further : Bool) : List BlockLine → List Char
  | [] => []
  | l :: rest =>
    if indent < l.indent || l.text.head? = some '\t' then
      let before :=
        if gap = [' '] then ['\n'] else if !further && gap = ['\n'] then ['\n', '\n'] else gap
      before ++ l.beyond indent ++ l.text ++ folded indent ['\n'] true rest
    else if l.text.isEmpty then
      if gap = ['\n'] then '\n' :: folded indent gap further rest
      else folded indent ['\n'] further rest
    else gap ++ l.text ++ folded indent [' '] false rest

/-- The text of empty lines only. -/
def ofEmpty (h : BlockHeader) (lines : List BlockLine) : List Char :=
  if h.chomp = .keep && !lines.isEmpty then List.replicate (max 1 (lines.length - 1)) '\n' else []

/-- The end of a text: nothing, one line break, or all the empty lines. -/
def ending (h : BlockHeader) (indent : Nat) (empty : List BlockLine) (body : List Char) : List Char :=
  match h.chomp with
  | .strip => []
  | .clip => ['\n']
  | .keep =>
    let tail := empty.flatMap fun l => '\n' :: l.beyond indent
    if (body ++ tail).getLast? = some '\n' then tail else tail ++ ['\n']

/-- The text of a block scalar in a collection of the given indentation. Only at the root of
a document may the content be indented by nothing. -/
def ofSource (h : BlockHeader) (around : Nat) (atRoot : Bool) (source : List Char) :
    Except Fault (List Char) := do
  let lines := if source.isEmpty then [] else (splitLines source).map BlockLine.ofChars
  let trailing := (lines.reverse.takeWhile BlockLine.isEmpty).length
  if trailing = lines.length then return ofEmpty h lines
  else
    let (indent, leading) ←
      contentIndent h.indent.isSome 0 (around + h.indent.getD 0) lines
    if indent = 0 && !atRoot then throw .indentation
    else
      let empty := (lines.reverse.takeWhile fun l => l.isEmpty && decide (l.indent ≤ indent)).reverse
      let content := ((lines.take (lines.length - empty.length)).drop leading).map BlockLine.withoutReturn
      if content.any fun l => !l.text.isEmpty && decide (l.indent < indent) then throw .indentation
      else
        let before := (lines.take leading).flatMap fun l => l.beyond indent ++ ['\n']
        let body := before ++ (if h.folded then folded indent [] false content else literal indent content)
        return body ++ ending h indent empty body

end BlockText
end Yaml
end Rollout
