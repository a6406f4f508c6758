import Rollout.Yaml.Character

/-
Tokens of YAML texts. The tokens of a text follow one another without gaps: blanks, line
breaks and comments are tokens too. The one token without text marks the place where a
document begins.
-/
namespace Rollout
namespace Yaml

inductive Kind where
  | byteOrderMark
  | directive
  /-- A document begins here, with or without a marker. -/
  | document
  | documentStart
  | documentEnd
  | newline
  | space
  | comment
  | dash
  | question
  | colon
  | comma
  | openSequence
  | closeSequence
  | openMapping
  | closeMapping
  | anchor
  | tag
  | reference
  /-- A plain scalar, or the text of a block scalar. -/
  | plain
  | singleQuoted
  | doubleQuoted
  | blockHeader
  deriving DecidableEq

/-- A token with the place where it starts, in UTF-16 code units, and the indentation of
its line as far as it was known there. -/
structure Token where
  kind : Kind
  text : List Char
  offset : Nat
  indent : Nat

namespace Token

/-- Where a token ends. -/
def finish (t : Token) : Nat := t.offset + Text.unitCount t.text

/-- Whether a token holds no content and is no mark. -/
def isFiller (t : Token) : Bool := t.kind = .space || t.kind = .comment || t.kind = .newline

end Token

/-- Whether a token of a kind is among tokens. -/
def includes (kind : Kind) (ts : List Token) : Bool := ts.any (·.kind = kind)

/-- The kind of a scalar that is told by its first character. -/
def Kind.ofFirst? : Char → Option Kind
  | ' ' | '\t' => some .space
  | '#' => some .comment
  | '%' => some .directive
  | '*' => some .reference
  | '&' => some .anchor
  | '!' => some .tag
  | '\'' => some .singleQuoted
  | '"' => some .doubleQuoted
  | '|' | '>' => some .blockHeader
  | _ => none

/-- The kind of token a text is on its own, if it is any. -/
def Kind.ofText? : List Char → Option Kind
  | [] => some .newline
  | ['-', '-', '-'] => some .documentStart
  | ['.', '.', '.'] => some .documentEnd
  | ['-'] => some .dash
  | ['?'] => some .question
  | [':'] => some .colon
  | [','] => some .comma
  | ['['] => some .openSequence
  | [']'] => some .closeSequence
  | ['\x7b'] => some .openMapping
  | ['\x7d'] => some .closeMapping
  | c :: _ => Kind.ofFirst? c

end Yaml
end Rollout
