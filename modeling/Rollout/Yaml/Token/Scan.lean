import Rollout.Yaml.Fault
import Rollout.Yaml.Token

/-
Splitting a YAML text into tokens. The indentation that continued lines have to keep, the
floor, follows the innermost block collection; inside flow collections lines only have to
stay above it.

Every round either takes characters off the text or passes from one place to the next, so
a small multiple of the length of the text bounds their number.
-/
namespace Rollout
namespace Yaml

/-- The place a round of the scan starts at. -/
inductive Place where
  /-- Between documents. -/
  | stream
  | lineStart
  /-- Behind the indentation of a line, where indicators of block collections stand. -/
  | blockStart
  /-- Inside a document, outside flow collections. -/
  | content
  /-- Inside a flow collection. -/
  | flow

/-- A text under way: what is left of it, and the tokens so far with the latest first. -/
structure Scan where
  rest : List Char
  offset : Nat
  /-- The least indentation of a line that continues the node under way. -/
  floor : Nat
  /-- The column of the innermost block collection on this line. -/
  column : Nat
  /-- How many flow collections are open. -/
  depth : Nat
  /-- Whether a colon right here follows a quote or a bracket. -/
  closed : Bool
  tokens : List Token

namespace Scan

def start (cs : List Char) : Scan := ⟨cs, 0, 0, 0, 0, false, []⟩

/-- Takes a token of so many characters. -/
def take (s : Scan) (kind : Kind) (count : Nat) : Scan :=
  let text := s.rest.take count
  { s with
    rest := s.rest.drop count
    offset := s.offset + Text.unitCount text
    tokens := ⟨kind, text, s.offset, 0⟩ :: s.tokens }

/-- Takes a token unless it is empty. -/
def takeSome (s : Scan) (kind : Kind) (count : Nat) : Scan :=
  if count = 0 then s else s.take kind count

def takeBlanks (s : Scan) : Scan := s.takeSome .space (blanks s.rest)

def takeSpaces (s : Scan) : Scan := s.takeSome .space (spaces s.rest)

/-- Takes a line break, if one is here. -/
def takeBreak (s : Scan) : Scan :=
  match s.rest with
  | '\n' :: _ => s.take .newline 1
  | '\r' :: '\n' :: _ => s.take .newline 2
  | _ => s

/-- Takes the rest of the line as a comment. -/
def takeComment (s : Scan) : Scan := s.takeSome .comment (lineRest s.rest).length

/-! ## Properties and indicators -/

/-- How many characters of an anchor or alias follow its sign. -/
def nameLength (cs : List Char) : Nat :=
  (cs.takeWhile fun c => !(isGap c || isFlowMark c)).length

def isTagChar (c : Char) : Bool := c.isAlphanum || "-#;/?:@&=+$_.!~*'()".toList.contains c

def isHexDigit (c : Char) : Bool :=
  c.isDigit || (decide ('a' ≤ c) && decide (c ≤ 'f')) || (decide ('A' ≤ c) && decide (c ≤ 'F'))

/-- How many characters of a tag follow its sign. -/
def shortTagLength : List Char → Nat
  | '%' :: a :: b :: rest => if isHexDigit a && isHexDigit b then shortTagLength rest + 3 else 0
  | c :: rest => if isTagChar c then shortTagLength rest + 1 else 0
  | [] => 0

/-- How many characters of a tag follow its sign, which may be a tag in angle brackets. -/
def tagLength (cs : List Char) : Nat :=
  match cs with
  | '<' :: rest =>
    let inside := (rest.takeWhile fun c => !(isGap c || c = '>')).length
    if (rest.drop inside).head? = some '>' then inside + 2 else inside + 1
  | _ => shortTagLength cs

/-- Takes properties and the indicators `-`, `?` and `:` with the blanks behind them. -/
def takeIndicators : Nat → Scan → Scan
  | 0, s => s
  | fuel + 1, s =>
    match s.rest with
    | '!' :: rest => takeIndicators fuel (s.take .tag (1 + tagLength rest)).takeBlanks
    | '&' :: rest => takeIndicators fuel (s.take .anchor (1 + nameLength rest)).takeBlanks
    | c :: rest =>
      let inFlow := decide (0 < s.depth)
      if (c = '-' || c = '?' || c = ':') && endsToken inFlow rest then
        let kind : Kind := if c = '-' then .dash else if c = '?' then .question else .colon
        let s' := if inFlow then { s with closed := false } else { s with floor := s.column + 1 }
        takeIndicators fuel (s'.take kind 1).takeBlanks
      else s
    | [] => s

/-! ## Scalars -/

/-- How many characters a plain scalar has. `seen` counts the characters gone through and
`kept` those up to the last one that is no blank. -/
def plainLength (inFlow : Bool) (floor seen kept : Nat) : List Char → Nat
  | [] => kept
  | '\r' :: '\n' :: rest =>
    if stops rest || !continues floor rest then kept
    else plainLength inFlow floor (seen + 2) kept rest
  | c :: rest =>
    if c = ':' then
      if endsToken inFlow rest then kept else plainLength inFlow floor (seen + 1) (seen + 1) rest
    else if isGap c then
      let kept' := if c = '\r' then seen + 1 else kept
      if stops rest || (c = '\n' && !continues floor rest) then kept'
      else plainLength inFlow floor (seen + 1) kept' rest
    else if inFlow && isFlowMark c then kept
    else plainLength inFlow floor (seen + 1) (seen + 1) rest
where
  /-- Whether a blank is followed by a comment or a flow mark. -/
  stops (rest : List Char) : Bool :=
    match rest with
    | [] => false
    | c :: _ => c = '#' || (inFlow && isFlowMark c)

/-- How many characters stand before the closing quote. -/
def contentLength? (quote : Char) (escaped : Bool) (seen : Nat) : List Char → Option Nat
  | [] => none
  | c :: rest =>
    if escaped then contentLength? quote false (seen + 1) rest
    else if c = quote then
      match quote, rest with
      | '\'', '\'' :: more => contentLength? quote false (seen + 2) more
      | _, _ => some seen
    else contentLength? quote (quote = '"' && c = '\\') (seen + 1) rest

/-- Where, among the first characters, a line ends that is not continued. -/
def brokenAt? (floor seen : Nat) : Nat → List Char → Option Nat
  | 0, _ => none
  | _, [] => none
  | count + 1, '\n' :: rest =>
    if continues floor rest then brokenAt? floor (seen + 1) count rest else some seen
  | count + 1, _ :: rest => brokenAt? floor (seen + 1) count rest

/-- How many characters a quoted scalar has, its quotes among them. Without a closing quote
it takes all that is left, and a line that is not continued cuts it off. -/
def quotedLength (floor : Nat) (quote : Char) (rest : List Char) : Nat :=
  match contentLength? quote false 0 rest with
  | none => rest.length + 1
  | some count =>
    match brokenAt? floor 0 count rest with
    | none => count + 2
    | some line => if 0 < line && (rest.drop (line - 1)).head? = some '\r' then line else line + 1

/-- What the header of a block scalar tells the scan: whether blank lines at the end are
kept, and the indentation it gives. -/
def headerHints (keep : Bool) (indent : Option Nat) : List Char → Bool × Option Nat
  | '+' :: rest => headerHints true indent rest
  | '-' :: rest => headerHints keep indent rest
  | c :: rest =>
    if decide ('1' ≤ c) && decide (c ≤ '9') then
      headerHints keep (some (c.toNat - '0'.toNat)) rest
    else (keep, indent)
  | [] => (keep, indent)

/-- The empty lines in front of a block scalar: how many characters they have, and the
indentation of the line behind them. -/
def emptyLines (seen ended indent : Nat) : List Char → Nat × Nat
  | ' ' :: rest => emptyLines (seen + 1) ended (indent + 1) rest
  | '\n' :: rest => emptyLines (seen + 1) (seen + 1) 0 rest
  | '\r' :: '\n' :: rest => emptyLines (seen + 2) (seen + 2) 0 rest
  | _ => (ended, indent)

/-- How many characters the lines have that keep the floor. -/
def linesLength (floor : Nat) (seen : Nat) : List Char → Nat
  | [] => seen
  | '\n' :: rest => if continues floor rest then linesLength floor (seen + 1) rest else seen + 1
  | _ :: rest => linesLength floor (seen + 1) rest

/-- Drops empty lines, none of them longer than `indent`, from the end of lines that are
held in reverse and without their last line break. Whether one was dropped is told too. -/
def dropEmptyLines (indent : Nat) : Nat → Bool → List Char → Bool × List Char
  | 0, dropped, cs => (dropped, cs)
  | fuel + 1, dropped, cs =>
    let line := if cs.head? = some '\r' then cs.tail else cs
    let count := spaces line
    match line.drop count with
    | '\n' :: more =>
      if count ≤ indent then dropEmptyLines indent fuel true more else (dropped, cs)
    | _ => (dropped, cs)

/-- How many characters belong to a block scalar whose lines take `count` of them. Lines
that start with too little indentation and a tab are taken in, since nothing else can begin
there; empty lines at the end are left out unless they are kept. -/
def trimmedLength (keep : Bool) (indent count : Nat) (cs : List Char) : Nat :=
  let own := (cs.take count).reverse
  let ended := own.head? = some '\n'
  let after := cs.drop count
  let behind := after.dropWhile (· = ' ')
  if behind.head? = some '\t' then
    count + spaces after + (behind.takeWhile isGap).length
  else if keep then count
  else
    let (dropped, kept) := dropEmptyLines indent count false (if ended then own.tail else own)
    if dropped || ended then kept.length + 1 else kept.length

/-- Takes the lines of a block scalar behind the line of its header. -/
def takeBlock (s : Scan) (keep : Bool) (given : Option Nat) : Scan :=
  let (empty, indent) := emptyLines 0 0 0 s.rest
  if s.floor ≤ indent then
    let floor :=
      match given with
      | none => indent
      | some n => n - 1 + (if s.floor = 0 then 1 else s.floor)
    let first := s.rest.drop empty
    let count := if continues floor first then linesLength floor empty first else empty
    { s with floor := floor }.take .plain (trimmedLength keep indent count s.rest)
  else s.take .plain (trimmedLength keep indent empty s.rest)

/-! ## Rounds -/

/-- A comment ends a directive where a blank stands before it. -/
def directiveLength (seen kept : Nat) (blank : Bool) : List Char → Nat
  | [] => kept
  | c :: rest =>
    if c = '#' && blank then kept
    else if isBlank c then directiveLength (seen + 1) kept true rest
    else directiveLength (seen + 1) (seen + 1) false rest

/-- A line outside documents: a directive, a comment, an empty line, or the first line of
a document. -/
def streamRound (s : Scan) : Place × Scan :=
  let s := if s.rest.head?.any (·.toNat = 0xFEFF) then s.take .byteOrderMark 1 else s
  let behind := s.rest.dropWhile isBlank
  if s.rest.head? = some '%' then
    let s' := (s.take .directive (directiveLength 0 0 false (lineRest s.rest))).takeBlanks
    (.stream, s'.takeComment.takeBreak)
  else if endsLine behind || behind.head? = some '#' then
    (.stream, s.takeBlanks.takeComment.takeBreak)
  else (.lineStart, s.take .document 0)

/-- The start of a line inside a document. A line that ends behind its first character
leaves the floor as it is. -/
def lineRound (s : Scan) : Place × Scan :=
  if isMarker s.rest then
    let starts := s.rest.head? = some '-'
    let s' := s.take (if starts then .documentStart else .documentEnd) 3
    (if starts then .content else .stream, { s' with column := 0, floor := 0 })
  else
    let column := spaces s.rest
    let s' := s.takeSpaces
    let floor :=
      if column < s'.floor && !endsToken false (s'.rest.drop 1) then column else s'.floor
    (.blockStart, { s' with column := column, floor := floor })

/-- Indicators of block collections in front of a line. -/
def blockRound (s : Scan) : Place × Scan :=
  match s.rest with
  | c :: rest =>
    if (c = '-' || c = '?' || c = ':') && endsToken false rest then
      let kind : Kind := if c = '-' then .dash else if c = '?' then .question else .colon
      let s' := (s.take kind 1).takeBlanks
      (.blockStart, { s' with floor := s.column + 1, column := s.column + 1 + blanks rest })
    else (.content, s)
  | [] => (.content, s)

/-- What follows a scalar. -/
def behindScalar (s : Scan) : Place := if s.depth = 0 then .content else .flow

def takePlain (s : Scan) : Place × Scan :=
  (s.behindScalar, s.take .plain (plainLength (decide (0 < s.depth)) s.floor 0 0 s.rest))

def takeQuoted (s : Scan) (quote : Char) (rest : List Char) : Place × Scan :=
  (s.behindScalar,
    s.take (if quote = '"' then .doubleQuoted else .singleQuoted) (quotedLength s.floor quote rest))

/-- Takes the header of a block scalar and its lines. Whatever stands behind the header on
its line becomes one token. -/
def takeBlockScalar (s : Scan) : Except Fault (Place × Scan) :=
  let (keep, given) := headerHints false none (s.rest.drop 1)
  let header := (s.rest.takeWhile fun c => !(isGap c || c = '#')).length
  let s := (s.take .blockHeader header).takeBlanks
  let behind := lineRest s.rest
  let finished (s : Scan) : Except Fault (Place × Scan) :=
    .ok (.lineStart, s.takeBreak.takeBlock keep given)
  if behind.isEmpty then finished s
  else
    match Kind.ofText? behind with
    | some kind => finished (s.take kind behind.length)
    | none => .error .blockHeader

/-- A token of a document outside flow collections. -/
def contentRound (fuel : Nat) (s : Scan) : Except Fault (Place × Scan) :=
  let s := s.takeBlanks.takeIndicators fuel
  if endsLine s.rest then .ok (.lineStart, s.takeBreak)
  else
    match s.rest with
    | '#' :: _ => .ok (.lineStart, s.takeComment.takeBreak)
    | '[' :: _ => .ok (.flow, { s.take .openSequence 1 with depth := 1, closed := false })
    | '\x7b' :: _ => .ok (.flow, { s.take .openMapping 1 with depth := 1, closed := false })
    | ']' :: _ => .ok (.content, s.take .closeSequence 1)
    | '\x7d' :: _ => .ok (.content, s.take .closeMapping 1)
    | '*' :: rest => .ok (.content, s.take .reference (1 + nameLength rest))
    | '"' :: rest => .ok (s.takeQuoted '"' rest)
    | '\'' :: rest => .ok (s.takeQuoted '\'' rest)
    | '|' :: _ => s.takeBlockScalar
    | '>' :: _ => s.takeBlockScalar
    | _ => .ok s.takePlain

/-- Takes blanks and line breaks inside a flow collection, and tells the indentation of the
last line that starts among them. -/
def takeGap : Nat → Option Nat → Scan → Option Nat × Scan
  | 0, indent, s => (indent, s)
  | fuel + 1, indent, s =>
    if s.rest.head?.any isBlank then takeGap fuel indent s.takeBlanks
    else if !s.rest.isEmpty && endsLine s.rest then
      let s' := s.takeBreak
      let column := spaces s'.rest
      takeGap fuel (some column) { s'.takeSpaces with column := column }
    else (indent, s)

/-- Takes commas with the blanks behind them. -/
def takeCommas : Nat → Scan → Scan
  | 0, s => s
  | fuel + 1, s =>
    match s.rest with
    | ',' :: _ => takeCommas fuel { (s.take .comma 1).takeBlanks with closed := false }
    | _ => s

/-- Whether a line inside a flow collection is indented too little. The bracket that ends
the outermost collection may stand one column before the floor, and comments anywhere. -/
def underIndented (s : Scan) (indent : Nat) : Bool :=
  let ends := s.depth = 1 && (s.rest.head? = some ']' || s.rest.head? = some '\x7d')
  let low := decide (indent < s.floor) && s.rest.head? != some '#'
  (low || (indent = 0 && isMarker s.rest)) && !(ends && indent + 1 = s.floor)

/-- Ends a flow collection. -/
def takeEnd (s : Scan) (kind : Kind) : Place × Scan :=
  let s' := { s.take kind 1 with closed := true, depth := s.depth - 1 }
  (if s'.depth = 0 then .content else .flow, s')

/-- A token inside a flow collection, with the gap and the commas before it. -/
def flowRound (fuel : Nat) (s : Scan) : Except Fault (Place × Scan) :=
  let (indent, s) := takeGap fuel none s
  if indent.any s.underIndented then .error .indentation
  else
    let s := (takeCommas fuel s).takeIndicators fuel
    if endsLine s.rest then .ok (.flow, s)
    else
      match s.rest with
      | '#' :: _ => .ok (.flow, s.takeComment)
      | '[' :: _ => .ok (.flow, { s.take .openSequence 1 with depth := s.depth + 1, closed := false })
      | '\x7b' :: _ => .ok (.flow, { s.take .openMapping 1 with depth := s.depth + 1, closed := false })
      | ']' :: _ => .ok (s.takeEnd .closeSequence)
      | '\x7d' :: _ => .ok (s.takeEnd .closeMapping)
      | '*' :: rest => .ok (.flow, s.take .reference (1 + nameLength rest))
      | '"' :: rest => .ok ({ s with closed := true }.takeQuoted '"' rest)
      | '\'' :: rest => .ok ({ s with closed := true }.takeQuoted '\'' rest)
      | ':' :: rest =>
        if s.closed || endsToken false rest || rest.head? = some ',' then
          .ok (.flow, ({ s with closed := false }.take .colon 1).takeBlanks)
        else .ok { s with closed := false }.takePlain
      | _ => .ok { s with closed := false }.takePlain

def round (fuel : Nat) (s : Scan) : Place → Except Fault (Place × Scan)
  | .stream => .ok s.streamRound
  | .lineStart => .ok s.lineRound
  | .blockStart => .ok s.blockRound
  | .content => s.contentRound fuel
  | .flow => s.flowRound fuel

/-- Goes on until the text has been used up. -/
def run : Nat → Place → Scan → Except Fault (List Token)
  | 0, _, _ => .error .tooDeep
  | fuel + 1, place, s =>
    if s.rest.isEmpty then .ok s.tokens.reverse
    else
      match s.round fuel place with
      | .ok (place', s') => run fuel place' s'
      | .error f => .error f

end Scan

/-- The tokens of a text. -/
def tokens (cs : List Char) : Except Fault (List Token) :=
  Scan.run (5 * cs.length + 5) .stream (Scan.start cs)

end Yaml
end Rollout
