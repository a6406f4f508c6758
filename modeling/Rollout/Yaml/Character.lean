import Rollout.Text.Units

/-
Characters and lines of YAML texts: what ends a token, where a line ends, and which
lines go on with what was begun on the line before.
-/
namespace Rollout
namespace Yaml

def isBlank (c : Char) : Bool := c = ' ' || c = '\t'

/-- Blanks and the characters of line breaks, which end every token. -/
def isGap (c : Char) : Bool := isBlank c || c = '\n' || c = '\r'

/-- The marks of flow collections. -/
def isFlowMark (c : Char) : Bool := c = ',' || c = '[' || c = ']' || c = '\x7b' || c = '\x7d'

/-- Whether an indicator ends here: at a gap or the end of the text, and inside a flow
collection at its marks too. -/
def endsToken (inFlow : Bool) : List Char → Bool
  | [] => true
  | c :: _ => isGap c || (inFlow && isFlowMark c)

/-- Whether a line ends here. A carriage return counts only as part of a line break. -/
def endsLine : List Char → Bool
  | [] => true
  | '\n' :: _ => true
  | '\r' :: '\n' :: _ => true
  | _ => false

/-- The rest of a line. -/
def lineRest : List Char → List Char
  | [] => []
  | '\n' :: _ => []
  | '\r' :: '\n' :: _ => []
  | c :: rest => c :: lineRest rest

/-- How many blanks stand in front. -/
def blanks (cs : List Char) : Nat := (cs.takeWhile isBlank).length

/-- How many spaces stand in front. -/
def spaces (cs : List Char) : Nat := (cs.takeWhile (· = ' ')).length

/-- Whether a line that starts here starts or ends a document. -/
def isMarker : List Char → Bool
  | '-' :: '-' :: '-' :: rest => endsToken false rest
  | '.' :: '.' :: '.' :: rest => endsToken false rest
  | _ => false

/-- Whether a line that starts here goes on with a scalar begun before it. It does when it
is empty or indented as far as the floor; where the floor is zero, when it is no document
marker. -/
def continues (floor : Nat) (cs : List Char) : Bool :=
  if floor = 0 then !isMarker cs
  else
    let behind := cs.dropWhile (· = ' ')
    decide (floor ≤ spaces cs) || (!behind.isEmpty && endsLine behind)

end Yaml
end Rollout
