import Rollout.Text.Blank
import Rollout.Yaml.Directive
import Rollout.Yaml.FlowForm.Scalar

/-
The flow form of nodes. A collection that is a key has no value of its own that could be a
key, and its text stands for it: the collection as it would be written on one line, or over
several where the line is too long or there are comments.
-/
namespace Rollout
namespace Yaml
namespace FlowForm

/-! ## Comments -/

def linesOf : List Char → List (List Char)
  | [] => [[]]
  | '\n' :: rest => [] :: linesOf rest
  | c :: rest =>
    match linesOf rest with
    | line :: more => (c :: line) :: more
    | [] => [[c]]

/-- The lines of a note, written as comments. -/
def comment (note : String) : List (List Char) :=
  (linesOf note.toList).map fun line =>
    if line.isEmpty then [] else if line = [' '] then ['#'] else '#' :: line

def joined (lines : List (List Char)) : List Char := ['\n'].intercalate lines

/-- Indents all lines that are not empty. -/
def indented (indent : Nat) (lines : List (List Char)) : List Char :=
  joined (lines.map fun line => if line.isEmpty then [] else margin indent ++ line)

/-- A comment behind a text: on its line, or below it if the comment has several lines. -/
def commentBehind (indent : Nat) (cs : List Char) (note : String) : List Char :=
  match comment note with
  | [line] => cs ++ (if cs.getLast? = some ' ' then line else ' ' :: line)
  | lines => cs ++ '\n' :: indented indent lines

/-! ## Properties -/

/-- An anchor's name is refused where reading would end it. -/
def checkName (name : String) : Except Fault Unit :=
  if name.toList.any fun c => decide (c.toNat < 0x1A) || Text.isBlankChar c || isFlowMark c then
    .error (.badName name)
  else .ok ()

/-- The anchor and the tag in front of a node. -/
def props (d : Directives) (h : Head) : Except Fault (List Char) := do
  let anchor ← (match h.anchor with
    | some a => do
      checkName a.name
      return ['&' :: a.name.toList]
    | none => return [])
  let tag := match h.tag with
    | some t => [d.tagText t]
    | none => []
  return [' '].intercalate (anchor ++ tag)

/-- Properties move the start of what follows them. -/
def startBehind (properties : List Char) (start : Option Nat) : Option Nat :=
  if properties.isEmpty then start else some (start.getD 0 + Text.unitCount properties + 1)

/-- A node behind its properties: on their line if it is a scalar or a flow collection. -/
def behindProps (indent : Nat) (properties : List Char) (isScalar : Bool) (cs : List Char) :
    List Char :=
  if properties.isEmpty then cs
  else if isScalar || cs.head? = some '[' || cs.head? = some '\x7b' then properties ++ ' ' :: cs
  else properties ++ '\n' :: (margin indent ++ cs)

/-! ## Lines of collections -/

/-- The lines of a collection under way, the latest first, whether they have to be broken,
and where the next item starts. -/
structure Lines where
  lines : List (List Char)
  broken : Bool
  start : Option Nat

/-- What stands around an item: lines above it, a comment behind it, and whether it cannot
share its line. -/
structure Around where
  spaced : Bool
  before : Option String
  after : Option String
  alone : Bool

def Around.ofNode (n : Node) : Around :=
  ⟨n.notes.spaced, n.notes.before, n.notes.after, n.notes.after.isSome⟩

/-- An entry has the lines above its key and the comment behind its value. -/
def Around.ofEntry (key : Node) (value : Option Node) : Around where
  spaced := key.notes.spaced
  before := key.notes.before
  after := match value with
    | some v => v.notes.after
    | none => key.notes.after
  alone := key.notes.after.isSome
    || value.any fun v => v.notes.after.isSome || v.notes.before.isSome

/-- Adds an item to a collection with the given indentation, whose items are further in by a
step. All but the last have a comma behind them, in front of a comment. -/
def Lines.add (indent step : Nat) (isLast : Bool) (a : Around) (cs : List Char) (g : Lines) : Lines :=
  let above := (if a.spaced then [[]] else [])
    ++ (match a.before with
      | some note => [(indented indent (comment note)).dropWhile Text.isBlankChar]
      | none => [])
  let line := if isLast then cs else cs ++ [',']
  let whole := match a.after with
    | some note => commentBehind (indent + step) line note
    | none => line
  { g with
    lines := whole :: (above.reverse ++ g.lines)
    broken := g.broken || a.alone || !above.isEmpty || cs.contains '\n' }

/-- Puts the brackets of a collection around its lines. -/
def Lines.enclosed (indent : Nat) (opening closing : Char) (g : Lines) : List Char :=
  let lines := g.lines.reverse
  let width := lines.foldl (fun n line => n + Text.unitCount line + 2) 2
  if lines.isEmpty then [opening, closing]
  else if g.broken || Folding.lineWidth < width then
    opening :: (lines.flatMap fun line =>
        '\n' :: (if line.isEmpty then [] else margin (indent + 2) ++ line))
      ++ '\n' :: (margin indent ++ [closing])
  else opening :: ' ' :: ([' '].intercalate lines ++ [' ', closing])

/-! ## Entries -/

/-- Keys other than scalars on a line need a question mark. -/
def isExplicit : Node → Bool
  | .scalar _ s => s.style = .block
  | _ => true

def isScalar : Node → Bool
  | .scalar .. => true
  | _ => false

def isCollection : Node → Bool
  | .scalar .. | .repetition .. => false
  | _ => true

/-- A key without a value. -/
def loneKey (key : Node) (cs : List Char) : List Char :=
  if cs.isEmpty then ['?'] else if isExplicit key then '?' :: ' ' :: cs else cs

/-- A key up to its colon. -/
def keyColon (indent : Nat) (key : Node) (cs : List Char) : List Char :=
  let noted (cs : List Char) : List Char :=
    match key.notes.after with
    | some note => commentBehind (indent + 2) cs note
    | none => cs
  if isExplicit key then '?' :: ' ' :: (noted cs ++ '\n' :: (margin indent ++ [':']))
  else noted (cs ++ [':'])

/-- Where a value starts. A scalar on the line of its key starts behind it. -/
def valueStart (key value : Node) (behindKey : Option Nat) (keyText : List Char) : Option Nat :=
  if !isExplicit key && key.notes.after.isNone && isScalar value then
    some (Text.unitCount keyText + 1)
  else behindKey

/-- Whether the first line of a text holds properties and nothing else. -/
def hasOwnPropsLine (cs : List Char) : Bool :=
  let line := cs.takeWhile (· != '\n')
  match line with
  | '&' :: _ =>
    match line.dropWhile (· != ' ') with
    | [] => true
    | _ :: more => more.head? = some '!' && !more.contains ' '
  | '!' :: _ => !line.contains ' '
  | _ => false

/-- What separates a value from its key. -/
def separator (indent : Nat) (key value : Node) (cs : List Char) : List Char :=
  let n := value.notes
  if key.notes.after.isSome || n.spaced || n.before.isSome then
    (if n.spaced then ['\n'] else [])
      ++ (match n.before with
        | some note => '\n' :: indented indent (comment note)
        | none => [])
      ++ '\n' :: margin indent
  else if !isExplicit key && isCollection value then
    if cs.contains '\n' && !hasOwnPropsLine cs then '\n' :: margin indent else [' ']
  else if cs.isEmpty || cs.head? = some '\n' then []
  else [' ']

/-! ## Nodes -/

/-- The step from a collection to its items, in a mapping and in a sequence. -/
def mappingStep : Nat := 2

def sequenceStep : Nat := 4

mutual

/-- A node with its properties at a place, and where something behind it would start. -/
def node (d : Directives) (p : Place) : Node → Except Fault (List Char × Option Nat)
  | .repetition name _ _ => do
    checkName name
    return ('*' :: name.toList, p.start)
  | .scalar h s => do
    let properties ← props d h
    let start := startBehind properties p.start
    let cs ← scalar d.version h.tag { p with start := start } s
    return (behindProps p.indent properties true cs, start)
  | .sequence h items => do
    let properties ← props d h
    let start := startBehind properties p.start
    let g ← sequenceItems d p.indent ⟨[], false, start⟩ items
    let cs := (misfit? d.version h.tag).getD (g.enclosed p.indent '[' ']')
    return (behindProps p.indent properties false cs, start)
  | .mapping h sort entries => do
    let properties ← props d h
    let start := startBehind properties p.start
    let keysOnly := sort = .set || entries.all fun e => e.2.isNone
    let g ← entryItems d p.indent mappingStep keysOnly ⟨[], false, start⟩ entries
    let cs := (misfit? d.version h.tag).getD (g.enclosed p.indent '\x7b' '\x7d')
    return (behindProps p.indent properties false cs, start)
  | .pairs h _ entries => do
    let properties ← props d h
    let start := startBehind properties p.start
    let g ← entryItems d p.indent sequenceStep false ⟨[], false, start⟩ entries
    return (behindProps p.indent properties false (g.enclosed p.indent '[' ']'), start)

/-- The items of a sequence with the given indentation. -/
def sequenceItems (d : Directives) (indent : Nat) (g : Lines) : List Node → Except Fault Lines
  | [] => .ok g
  | item :: rest => do
    let (cs, start) ← node d ⟨indent + sequenceStep, g.start, false⟩ item
    sequenceItems d indent
      { g.add indent sequenceStep rest.isEmpty (.ofNode item) cs with start := start } rest

/-- The entries of a collection with the given indentation. Where there are only keys, those
are no longer confined to a line. -/
def entryItems (d : Directives) (indent step : Nat) (keysOnly : Bool) (g : Lines) :
    List (Node × Option Node) → Except Fault Lines
  | [] => .ok g
  | (key, none) :: rest => do
    let inside := indent + step + 2
    let (cs, _) ← node d ⟨inside, g.start, !isExplicit key && !keysOnly⟩ key
    entryItems d indent step keysOnly
      (g.add indent step rest.isEmpty (.ofEntry key none) (loneKey key cs)) rest
  | (key, some value) :: rest => do
    let inside := indent + step + 2
    let (cs, behindKey) ← node d ⟨inside, g.start, !isExplicit key && !keysOnly⟩ key
    let around := Around.ofEntry key (some value)
    if keysOnly then
      entryItems d indent step keysOnly (g.add indent step rest.isEmpty around (loneKey key cs)) rest
    else
      let start := keyColon (indent + step) key cs
      let (vs, _) ← node d ⟨inside, valueStart key value behindKey start, false⟩ value
      let whole := start ++ separator inside key value vs ++ vs
      entryItems d indent step keysOnly (g.add indent step rest.isEmpty around whole) rest

end

/-- The text of a key that is no simple value. A collection stands without its own
properties. -/
def keyText (d : Directives) (n : Node) : Except Fault String := do
  let bare := match n with
    | .repetition name offset notes => .repetition name offset notes
    | .scalar h s => .scalar { h with anchor := none, tag := none } s
    | .sequence _ items => .sequence {} items
    | .mapping _ sort entries => .mapping {} sort entries
    | .pairs _ sort entries => .pairs {} sort entries
  match n with
  | .scalar _ ⟨⟨.instant i, _, _⟩, _, _⟩ => return i.longText
  | .scalar _ ⟨⟨.bytes values, _, _⟩, _, _⟩ => return Text.ofUtf8 values
  | _ =>
    let (cs, _) ← node d ⟨0, none, false⟩ bare
    return String.ofList cs

end FlowForm
end Yaml
end Rollout
