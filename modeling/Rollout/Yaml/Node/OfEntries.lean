import Rollout.Yaml.Node.OfLeaf

/-
The entries of collections. Here the rules of the format are checked: where entries start,
what may be a key, what separates the entries of flow collections.

The node of an outline is put together from the nodes of the outlines inside it. How those
are found is a parameter of every step, so that no definition here recurs on outlines.
-/
namespace Rollout
namespace Yaml

/-- How the node of an outline inside another one is found. The flag tells whether the node
is a key. -/
abbrev Inner := Outline → Props → Bool → Except Fault Composed

/-- The entries of a collection under way, the latest first, with the comment on it and
where it ends so far. -/
structure Gathering (α : Type) where
  entries : List α
  comment : Option String
  offset : Nat
  /-- Where comments behind the last entry end. -/
  commentFinish : Option Nat

def Gathering.finish {α : Type} (g : Gathering α) : Nat := g.commentFinish.getD g.offset

def Gathering.start {α : Type} (offset : Nat) : Gathering α := ⟨[], none, offset, none⟩

namespace Node

/-! ## Block collections -/

/-- Whether an outline runs over several lines. A block collection always does. -/
def hasBreak : Nat → Outline → Bool
  | 0, _ => true
  | depth + 1, o =>
    match o with
    | .leaf _ text _ _ tail => text.contains '\n' || includes .newline tail
    | .flow _ _ slots _ =>
      slots.any fun s =>
        includes .newline s.start || s.between.any (includes .newline)
          || s.key.any (hasBreak depth) || s.value.any (hasBreak depth)
    | _ => true

/-- Checks the key of an entry that no question mark announces. -/
def checkKey (depth : Nat) (indent : Nat) (key : Option Outline) (props : Props) : Except Fault Unit :=
  match key with
  | none => if props.newlineBehind.isSome then .error .keyOverLines else .ok ()
  | some o =>
    match o with
    | .sequence .. => .error .indentation
    | _ =>
      if o.indent != indent then .error .indentation
      else if props.newlineBehind.isSome || hasBreak depth o then .error .keyOverLines
      else .ok ()

/-- The greatest distance of a colon from the start of its key, in UTF-16 code units. -/
def greatestKey : Nat := 1024

/-- Checks the value of an entry that no question mark announces. -/
def checkValue (start : Nat) (colon : Token) (value : Option Outline) (props : Props) :
    Except Fault Unit :=
  let nested : Bool := match value with
    | some (.mapping ..) => true
    | _ => false
  if nested && !props.hasNewline then .error .nestedOnOneLine
  else if start + greatestKey < colon.offset then .error .keyTooLong
  else .ok ()

/-- Adds an entry of a block mapping. An entry without a colon and without properties holds
only comments. -/
def addEntry (inner : Inner) (d : Directives) (depth indent : Nat)
    (g : Gathering (Node × Option Node)) (s : Slot Outline) :
    Except Fault (Gathering (Node × Option Node)) := do
  let props ← Props.read
    { inFlow := false, indicator := .question, next := .ofKey s.key s.between, offset := g.offset,
      around := indent, fresh := true } s.start
  let implicit := props.found.isNone
  if implicit && props.anchor.isNone && props.tag.isNone && s.between.isNone then
    match s.key with
    | some (.sequence ..) => throw .indentation
    | some o => if o.indent != indent then throw .indentation
    | none => pure ()
    return { g with comment := addNote g.comment props.comment, commentFinish := some props.finish }
  else
    match props.found with
    | none => checkKey depth indent s.key props
    | some mark => if mark.indent != indent then throw .indentation
    let key ← (match s.key with
      | some o => inner o props true
      | none => ofNothing d true s.start props)
    if g.entries.any fun e => e.1.sameKey key.node then throw .duplicateKey
    let isBlockKey : Bool := match s.key with
      | none | some (.block ..) => true
      | _ => false
    let between := s.between.getD []
    let valueProps ← Props.read
      { inFlow := false, indicator := .colon, next := .ofValue s.value, offset := key.finish,
        around := indent, fresh := isBlockKey } between
    match valueProps.found with
    | some colon =>
      if implicit then checkValue props.start colon s.value valueProps
      let value ← (match s.value with
        | some o => inner o valueProps false
        | none => ofNothing d false between valueProps)
      return { g with entries := (key.node, some value.node) :: g.entries, offset := value.finish }
    | none =>
      if implicit then throw (.missing "a colon")
      let node := key.node.addAfter valueProps.comment
      return { g with entries := (node, none) :: g.entries, offset := valueProps.finish }

/-- The entries of a block mapping. Comments that seem to end it may not come before further
entries. -/
def blockEntries (inner : Inner) (d : Directives) (depth offset indent : Nat)
    (slots : List (Slot Outline)) : Except Fault (Gathering (Node × Option Node)) := do
  let g ← slots.reverse.foldlM (addEntry inner d depth indent) (.start offset)
  if g.commentFinish.any (· < g.offset) then throw .misplacedComment
  else return { g with entries := g.entries.reverse }

/-- Adds an item of a block sequence. -/
def addItem (inner : Inner) (d : Directives) (indent : Nat) (g : Gathering Node)
    (s : Slot Outline) : Except Fault (Gathering Node) := do
  let props ← Props.read
    { inFlow := false, indicator := .dash, next := .ofValue s.value, offset := g.offset,
      around := indent, fresh := true } s.start
  if props.found.isNone then
    if props.anchor.isSome || props.tag.isSome || s.value.isSome then throw .indentation
    else
      return { g with
        comment := (noteOf props.comment).or g.comment, commentFinish := some props.finish }
  else
    let item ← (match s.value with
      | some o => inner o props false
      | none => ofNothing d false s.start props)
    return { g with entries := item.node :: g.entries, offset := item.finish }

def blockItems (inner : Inner) (d : Directives) (offset indent : Nat) (slots : List (Slot Outline)) :
    Except Fault (Gathering Node) := do
  let g ← slots.reverse.foldlM (addItem inner d indent) (.start offset)
  return { g with entries := g.entries.reverse }

/-! ## Flow collections -/

/-- The comment on the line of a comma, which belongs to the entry before it. -/
def commaComment (start : List Token) : List Char :=
  match start.dropWhile fun t => t.kind = .comma || t.kind = .space with
  | t :: _ => if t.kind = .comment then t.text.tail else []
  | [] => []

/-- Puts a comment behind the latest entry: behind its value, if it has one. -/
def noteEntry (cs : List Char) : List (Node × Option Node) → List (Node × Option Node)
  | (k, some v) :: more => (k, some (v.addAfter cs)) :: more
  | (k, none) :: more => (k.addAfter cs, none) :: more
  | [] => []

/-- The place of an entry in its collection. -/
structure Position where
  isFirst : Bool
  isLast : Bool

/-- Checks the comma in front of an entry of a flow collection: all entries but the first
have one. -/
def checkComma (p : Position) (props : Props) : Except Fault Unit :=
  if p.isFirst && props.comma then .error (.unexpected ",")
  else if !p.isFirst && !props.comma then .error (.missing "a comma")
  else .ok ()

/-- Checks the colon of a pair that stands in a flow sequence without a question mark. -/
def checkPair (start : Nat) (colon : Token) (between : List Token) : Except Fault Unit :=
  if (between.reverse.takeWhile (·.kind != .colon)).any (·.kind = .newline) then .error .keyOverLines
  else if start + greatestKey < colon.offset then .error .keyTooLong
  else .ok ()

/-- The key and the value of an entry of a flow collection, and where the entry ends. -/
def flowPair (inner : Inner) (d : Directives) (isMapping : Bool) (props : Props) (s : Slot Outline) :
    Except Fault ((Node × Option Node) × Nat) := do
  if (s.key.any Outline.isBlockCollection || s.value.any Outline.isBlockCollection) then
    throw .blockInFlow
  let between := s.between.getD []
  let key ← (match s.key with
    | some o => inner o props true
    | none => ofNothing d true s.start props)
  let valueProps ← Props.read
    { inFlow := true, indicator := .colon, next := .ofValue s.value, offset := key.finish,
      around := 0, fresh := false } between
  match s.value, valueProps.found with
  | some _, none => throw (.missing "a comma or a colon")
  | none, none => return ((key.node.addAfter valueProps.comment, none), valueProps.finish)
  | value, some colon =>
    if !isMapping && props.found.isNone then checkPair props.start colon between
    let v ← (match value with
      | some o => inner o valueProps false
      | none => ofNothing d false between valueProps)
    return ((key.node, some v.node), v.finish)

/-- Adds an entry of a flow collection. The items of a sequence are held as keys without
values, pairs among them as mappings of one entry. -/
def addFlowEntry (inner : Inner) (d : Directives) (depth : Nat) (isMapping : Bool) (p : Position)
    (g : Gathering (Node × Option Node)) (s : Slot Outline) :
    Except Fault (Gathering (Node × Option Node)) := do
  let props ← Props.read
    { inFlow := true, indicator := .question, next := .ofKey s.key s.between, offset := g.offset,
      around := 0, fresh := false } s.start
  let implicit := props.found.isNone
  if implicit && props.anchor.isNone && props.tag.isNone && s.between.isNone && s.value.isNone then
    if p.isFirst && props.comma then throw (.unexpected ",")
    else if !p.isLast then throw (.missing "an item")
    else return { g with comment := addNote g.comment props.comment, offset := props.finish }
  else
    if implicit && !isMapping && s.key.any (hasBreak depth) then throw .keyOverLines
    checkComma p props
    let early :=
      if p.isFirst || props.comment.isEmpty then [] else commaComment s.start.reverse
    let entries := if early.isEmpty then g.entries else noteEntry early g.entries
    let props :=
      if early.isEmpty then props
      else { props with comment := props.comment.drop (early.length + 1) }
    if !isMapping && s.between.isNone && implicit then
      if s.value.any Outline.isBlockCollection then throw .blockInFlow
      let item ← (match s.value with
        | some o => inner o props false
        | none => ofNothing d false [] props)
      return { g with entries := (item.node, none) :: entries, offset := item.finish }
    else
      let (pair, finish) ← flowPair inner d isMapping props s
      if isMapping then
        if entries.any fun e => e.1.sameKey pair.1 then throw .duplicateKey
        return { g with entries := pair :: entries, offset := finish }
      else
        return { g with entries := (.mapping {} .record [pair], none) :: entries, offset := finish }

/-- Adds the entries of a flow collection one after the other. -/
def addFlowEntries (inner : Inner) (d : Directives) (depth : Nat) (isMapping isFirst : Bool)
    (g : Gathering (Node × Option Node)) :
    List (Slot Outline) → Except Fault (Gathering (Node × Option Node))
  | [] => .ok { g with entries := g.entries.reverse }
  | s :: rest =>
    match addFlowEntry inner d depth isMapping ⟨isFirst, rest.isEmpty⟩ g s with
    | .ok g' => addFlowEntries inner d depth isMapping false g' rest
    | .error f => .error f

/-- The entries of a flow collection, with the comments behind its end. -/
def flowEntries (inner : Inner) (d : Directives) (depth : Nat) (opening : Token)
    (slots : List (Slot Outline)) (tail : List Token) :
    Except Fault (Gathering (Node × Option Node)) := do
  let isMapping := opening.kind = .openMapping
  let g ← addFlowEntries inner d depth isMapping true (.start opening.finish) slots.reverse
  match tail.reverse with
  | [] => throw .unterminated
  | closing :: behind =>
    if closing.kind != (if isMapping then .closeMapping else .closeSequence) then throw .unterminated
    let after ← tailComment true behind.reverse
    return { g with comment := addNote g.comment after, offset := tailFinish closing.finish behind }

end Node
end Yaml
end Rollout
