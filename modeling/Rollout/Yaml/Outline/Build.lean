import Rollout.Yaml.Fault
import Rollout.Yaml.Outline

/-
Building the outline of a text, token by token. The nodes that are still open form a stack
with the innermost on top. A token either finds its place in the topmost node or closes it
and goes on to the one below, so the height of the stack bounds the search.

Which mapping or sequence a token belongs to is told by the indentation of its line: a
collection takes the tokens of lines that are indented as far as itself.
-/
namespace Rollout
namespace Yaml

/-- Something that is still open. -/
inductive Frame where
  | document (d : DocumentOutline)
  | node (o : Outline)
  | documentEnd (tail : List Token)

namespace Frame

/-- The indentation of the block scalars in a frame. -/
def indent : Frame → Nat
  | .node o => o.indent
  | _ => 0

/-- Splits off the properties at the end of tokens. They belong to the first key of a
mapping when that mapping turns out to start behind them. The blanks before them stay. -/
def splitProps (ts : List Token) : List Token × List Token :=
  let starts (t : Token) : Bool :=
    t.kind = .documentStart || t.kind = .question || t.kind = .colon || t.kind = .dash
      || t.kind = .newline
  let own := ts.takeWhile (!starts ·)
  let props := (own.reverse.dropWhile (·.kind = .space)).reverse
  (props, ts.drop props.length)

/-- Takes the properties that stand in front of the next node. -/
def takeProps : Frame → List Token × Frame
  | .document d =>
    let (props, left) := splitProps d.start
    (props, .document { d with start := left })
  | .node (.mapping o n (s :: more)) =>
    let (props, left) := splitProps s.front
    (props, .node (.mapping o n (s.setFront left :: more)))
  | .node (.sequence o n (s :: more)) =>
    let (props, left) := splitProps s.start
    (props, .node (.sequence o n ({ s with start := left } :: more)))
  | f => ([], f)

end Frame

structure Builder where
  stack : List Frame
  /-- The indentation of the current line as far as it is known. -/
  indent : Nat
  /-- Whether blanks and indicators still count as indentation. -/
  atLineStart : Bool
  /-- Whether the current line already holds a key of a block mapping. -/
  onKeyLine : Bool
  parts : List Part

namespace Builder

def start : Builder := ⟨[], 0, true, false, []⟩

def push (b : Builder) (f : Frame) : Builder := { b with stack := f :: b.stack }

/-! ## Closing -/

/-- Whether the latest entry of a collection consists of line breaks and comments that
belong behind the collection. -/
def isLoose (indent : Nat) (s : Slot Outline) : Bool :=
  s.between.isNone && s.value.isNone && !s.start.isEmpty && s.start.all Token.isFiller
    && (indent = 0 || s.start.all fun t => t.kind != .comment || decide (t.indent < indent))

/-- A block collection without its loose end, and that end. -/
def withoutLooseEnd : Outline → Outline × Option (List Token)
  | .mapping o n (s :: more) =>
    if isLoose n s then (.mapping o n more, some s.start) else (.mapping o n (s :: more), none)
  | .sequence o n (s :: more) =>
    if isLoose n s then (.sequence o n more, some s.start) else (.sequence o n (s :: more), none)
  | o => (o, none)

/-- A closed node as the frame around it sees it. -/
def settled (around : Frame) (o : Outline) : Outline :=
  match o, around with
  | .block header text offset _, f => .block header text offset f.indent
  | .flow opening _ slots tail, .document _ => (Outline.flow opening 0 slots tail).withItems
  | o, _ => o.withItems

/-- Puts an entry of loose tokens behind the others. -/
def withLoose (loose : Option (List Token)) (slots : List (Slot Outline)) : List (Slot Outline) :=
  match loose with
  | some ts => { start := ts } :: slots
  | none => slots

/-- Puts a closed node into the frame around it. The flag tells what is known about the
current line holding a key. -/
def attach (o : Outline) : Frame → Except Fault (Frame × Option Bool)
  | .document d =>
    let (o', loose) := withoutLooseEnd o
    .ok (.document { d with root := some o', tail := loose.getD d.tail }, none)
  | .node (.mapping offset n (s :: more)) =>
    if s.value.isSome then
      .ok (.node (.mapping offset n ({ key := some o, between := some [] } :: s :: more)), some true)
    else if s.between.isSome then
      let (o', loose) := withoutLooseEnd o
      .ok (.node (.mapping offset n (withLoose loose ({ s with value := some o' } :: more))), none)
    else
      .ok (.node (.mapping offset n ({ s with key := some o, between := some [] } :: more)),
        some !s.explicit)
  | .node (.sequence offset n (s :: more)) =>
    let (o', loose) := withoutLooseEnd o
    let slots :=
      if s.value.isSome then { value := some o' } :: s :: more
      else { s with value := some o' } :: more
    .ok (.node (.sequence offset n (withLoose loose slots)), none)
  | .node (.flow opening n slots tail) =>
    let slots' : List (Slot Outline) :=
      match slots with
      | [] => [{ key := some o, between := some [] }]
      | s :: more =>
        if s.value.isSome then { key := some o, between := some [] } :: s :: more
        else if s.between.isSome then { s with value := some o } :: more
        else { s with key := some o, between := some [] } :: more
    .ok (.node (.flow opening n slots' tail), none)
  | _ => .error (.unexpected "node")

/-- Closes the topmost frame. -/
def close (b : Builder) : Except Fault Builder :=
  match b.stack with
  | .document d :: rest => .ok { b with stack := rest, parts := .document d :: b.parts }
  | .documentEnd tail :: rest => .ok { b with stack := rest, parts := .documentEnd tail :: b.parts }
  | .node o :: around :: rest =>
    match attach (settled around o) around with
    | .ok (around', keyed) =>
      .ok { b with stack := around' :: rest, onKeyLine := keyed.getD b.onKeyLine }
    | .error f => .error f
  | _ => .error (.unexpected "end")

/-- Closes all frames. -/
def closeAll : Nat → Builder → Except Fault Builder
  | 0, b => .ok b
  | height + 1, b =>
    match b.close with
    | .ok b' => closeAll height b'
    | .error f => .error f

/-! ## Opening -/

/-- Opens the node that a token starts, if it starts any, inside the topmost frame. -/
def open? (b : Builder) (t : Token) : Option Builder :=
  let mapping (slot : List Token → Slot Outline) : Option Builder :=
    match b.stack with
    | f :: rest =>
      let (props, f') := f.takeProps
      some { b with
        stack := .node (.mapping t.offset t.indent [slot props]) :: f' :: rest, onKeyLine := true }
    | [] => none
  match t.kind with
  | .plain | .singleQuoted | .doubleQuoted | .reference =>
    some (b.push (.node (.leaf t.kind t.text t.offset t.indent [])))
  | .blockHeader => some (b.push (.node (.block [t] [] t.offset t.indent)))
  | .openMapping | .openSequence => some (b.push (.node (.flow t t.indent [] [])))
  | .dash => some (b.push (.node (.sequence t.offset t.indent [{ start := [t] }])))
  | .question => mapping fun props => { start := t :: props, explicit := true }
  | .colon => mapping fun props => { start := props, between := some [t] }
  | _ => none

/-! ## Tokens of open nodes -/

/-- What a node makes of a token: it has taken it, or the node is to be closed and the
token offered to the one below. -/
inductive Response where
  | taken (b : Builder)
  | close (b : Builder)
  /-- The node took the token and is complete. -/
  | complete (b : Builder)

/-- Kinds of tokens that end whatever stands on a line. -/
def endsNode (kind : Kind) : Bool :=
  kind = .comma || kind = .documentStart || kind = .documentEnd || kind = .closeSequence
    || kind = .closeMapping || kind = .colon

/-- A token behind a complete node: up to the end of the line all is kept with it. -/
def behindNode (b : Builder) (t : Token) (keep : Builder) : Response :=
  if endsNode t.kind then .close b
  else if t.kind = .newline then .complete { keep with onKeyLine := false }
  else .taken keep

/-- A mapping whose first key is a node that was read before its colon. -/
def mappingFrom (key : Outline) (offset indent : Nat) (between : List Token) (b : Builder)
    (below : List Frame) : Builder :=
  match below with
  | f :: rest =>
    let (props, f') := f.takeProps
    let slot : Slot Outline := { start := props, key := some key, between := some between }
    { b with stack := .node (.mapping offset indent [slot]) :: f' :: rest, onKeyLine := true }
  | [] => b

/-- A token behind a scalar or an alias. A colon makes it the first key of a mapping. -/
def onLeaf (b : Builder) (t : Token) (kind : Kind) (text : List Char) (offset indent : Nat)
    (tail : List Token) (below : List Frame) : Response :=
  if t.kind = .colon then
    .taken (mappingFrom (.leaf kind text offset indent []) offset indent (t :: tail) b below)
  else
    behindNode b t { b with stack := .node (.leaf kind text offset indent (t :: tail)) :: below }

/-- A token of a block scalar: its header, or its text, which ends with its line. -/
def onBlock (b : Builder) (t : Token) (header : List Token) (offset indent : Nat)
    (below : List Frame) : Response :=
  if t.isFiller then
    .taken { b with stack := .node (.block (t :: header) [] offset indent) :: below }
  else if t.kind = .plain then
    .complete { b with
      stack := .node (.block header t.text offset indent) :: below, atLineStart := true, indent := 0 }
  else .close b

/-- A token of a document outside its root node. -/
def onDocument (b : Builder) (t : Token) (d : DocumentOutline) (below : List Frame) :
    Except Fault Response :=
  if d.root.isSome then
    .ok (behindNode b t { b with stack := .document { d with tail := t :: d.tail } :: below })
  else if t.kind = .documentStart then
    if d.start.all Token.isFiller then
      .ok (.taken { b with stack := .document { d with start := t :: d.start } :: below })
    else .ok (.close b)
  else if t.isFiller || t.kind = .anchor || t.kind = .tag then
    .ok (.taken { b with stack := .document { d with start := t :: d.start } :: below })
  else
    match b.open? t with
    | some b' => .ok (.taken b')
    | none => .error (.unexpected (String.ofList t.text))

/-! ## Block collections -/

/-- Whether a comment behind line breaks is indented further than its collection, so that
it belongs to the value before it. -/
def isIndentedComment (t : Token) (indent : Nat) (start : List Token) : Bool :=
  t.kind = .comment && decide (indent < t.indent)
    && start.all fun s => s.kind = .newline || s.kind = .space

/-- A line break, blank or comment between the entries of a block collection. -/
def fill (t : Token) (indent : Nat) (s : Slot Outline) (more : List (Slot Outline)) :
    List (Slot Outline) :=
  match s.value with
  | some v =>
    match t.kind, v.tail? with
    | .newline, some (last :: _) =>
      if last.kind = .comment then { s with value := some (v.extend [t]) } :: more
      else { start := [t] } :: s :: more
    | _, _ => { start := [t] } :: s :: more
  | none =>
    if s.between.isNone && isIndentedComment t indent s.start then
      match more with
      | before :: others =>
        match before.value.bind Outline.tail? with
        | some _ =>
          { before with value := before.value.map (·.extend (t :: s.start)) } :: others
        | none => s.push t :: more
      | [] => s.push t :: more
    else s.push t :: more

/-- Where line breaks behind a colon hold the start of the next entry: from the second line
break on that follows any other token, comments indented further than the mapping
included. Tells how many tokens stand before it. -/
def nextStart (indent seen : Nat) (breaks : List Nat) : List Token → Option Nat
  | [] => if 2 ≤ breaks.length then breaks.reverse[1]? else none
  | t :: rest =>
    let breaks' :=
      if t.kind = .newline then seen :: breaks
      else if t.kind = .space then breaks
      else if t.kind = .comment then (if indent < t.indent then [] else breaks)
      else []
    nextStart indent (seen + 1) breaks' rest

/-- Moves the line breaks in front of the next entry away from an entry without a value. -/
def splitNext (indent : Nat) (s : Slot Outline) : Slot Outline × List Token :=
  match s.between with
  | some between =>
    match nextStart indent 0 [] between.reverse with
    | some count =>
      let later := between.length - count
      ({ s with between := some (between.drop later) }, between.take later)
    | none => (s, [])
  | none => (s, [])

/-- A question mark in a block mapping: the start of an entry, or of a mapping inside the
entry under way. -/
def questionSlots (t : Token) (next : Bool) (start : List Token) (s : Slot Outline)
    (more : List (Slot Outline)) : Option (List (Slot Outline)) :=
  if s.between.isNone && !s.explicit then
    some ({ s with start := t :: s.start, explicit := true } :: more)
  else if next || s.value.isSome then
    some ({ start := t :: start, explicit := true } :: s :: more)
  else none

/-- What a colon does in a block mapping: it changes the entries, or starts a mapping inside
the entry under way, which may take the key over. -/
inductive Colon where
  | entries (slots : List (Slot Outline))
  | nested (slots : List (Slot Outline)) (first : Slot Outline)

def colonAt (t : Token) (next : Bool) (start : List Token) (s : Slot Outline)
    (more : List (Slot Outline)) : Colon :=
  match s.between with
  | none =>
    if s.explicit && !includes .newline s.start then
      let (props, left) := Frame.splitProps s.start
      .nested ({ s with start := left } :: more) { start := props, between := some [t] }
    else .entries ({ s with key := none, between := some [t] } :: more)
  | some between =>
    if s.explicit then
      if s.value.isSome then .entries ({ between := some [t] } :: s :: more)
      else if includes .colon between then
        .nested (s :: more) { start := start, between := some [t] }
      else
        match s.key with
        | some key@(.leaf ..) | some key@(.flow ..) =>
          if includes .newline between then
            .entries ({ s with between := some (t :: (start ++ between)) } :: more)
          else
            let (props, left) := Frame.splitProps s.start
            .nested ({ s with start := left, key := none, between := none } :: more)
              { start := props, key := some key, between := some (t :: between) }
        | _ => .entries ({ s with between := some (t :: (start ++ between)) } :: more)
    else if s.value.isSome || next then
      .entries ({ start := start, between := some [t] } :: s :: more)
    else if includes .colon between then .nested (s :: more) { between := some [t] }
    else .entries ({ s with between := some (t :: between) } :: more)

/-- A token of a line that is indented as far as the block mapping. -/
def inMapping (b : Builder) (t : Token) (offset indent : Nat) (s : Slot Outline)
    (more : List (Slot Outline)) (below : List Frame) : Except Fault Response :=
  let atIndent := !b.onKeyLine && t.indent = indent
  let next := atIndent && (s.between.isSome || s.explicit) && t.kind != .dash
  let (s, start) := if next && s.between.isSome && s.value.isNone then splitNext indent s else (s, [])
  let whole (slots : List (Slot Outline)) : Frame := .node (.mapping offset indent slots)
  let keyed (slots : List (Slot Outline)) : Except Fault Response :=
    .ok (.taken { b with stack := whole slots :: below, onKeyLine := true })
  match t.kind with
  | .anchor | .tag =>
    if next || s.value.isSome then keyed ({ start := t :: start } :: s :: more)
    else .ok (.taken { b with stack := whole (s.push t :: more) :: below })
  | .question =>
    match questionSlots t next start s more with
    | some slots => keyed slots
    | none =>
      let inner : Outline := .mapping t.offset t.indent [{ start := [t], explicit := true }]
      .ok (.taken { b with stack := .node inner :: whole (s :: more) :: below, onKeyLine := true })
  | .colon =>
    match colonAt t next start s more with
    | .entries slots => keyed slots
    | .nested slots first =>
      let inner : Outline := .mapping t.offset t.indent [first]
      .ok (.taken { b with stack := .node inner :: whole slots :: below, onKeyLine := true })
  | .plain | .singleQuoted | .doubleQuoted | .reference =>
    let leaf : Outline := .leaf t.kind t.text t.offset t.indent []
    if next || s.value.isSome then
      keyed ({ start := start, key := some leaf, between := some [] } :: s :: more)
    else if s.between.isSome then
      .ok (.taken { b with stack := .node leaf :: whole (s :: more) :: below })
    else keyed ({ s with key := some leaf, between := some [] } :: more)
  | .dash =>
    if !s.explicit && s.between.any fun between => !includes .newline between then
      .error .nestedOnOneLine
    else
      let inner : Outline := .sequence t.offset t.indent [{ start := [t] }]
      .ok (.taken { b with stack := .node inner :: whole (s :: more) :: below })
  | _ =>
    let slots := if atIndent then { start := start } :: s :: more else s :: more
    match { b with stack := whole slots :: below }.open? t with
    | some b' => .ok (.taken b')
    | none => .ok (.close { b with stack := whole (s :: more) :: below })

/-- A token that reaches a block mapping. -/
def onMapping (b : Builder) (t : Token) (offset indent : Nat) (s : Slot Outline)
    (more : List (Slot Outline)) (below : List Frame) : Except Fault Response :=
  if t.isFiller then
    .ok (.taken { b with
      stack := .node (.mapping offset indent (fill t indent s more)) :: below
      onKeyLine := b.onKeyLine && t.kind != .newline })
  else if indent ≤ t.indent then inMapping b t offset indent s more below
  else .ok (.close b)

/-- A token that reaches a block sequence. -/
def onSequence (b : Builder) (t : Token) (offset indent : Nat) (s : Slot Outline)
    (more : List (Slot Outline)) (below : List Frame) : Response :=
  let whole (slots : List (Slot Outline)) : Response :=
    .taken { b with stack := .node (.sequence offset indent slots) :: below }
  let otherwise : Response :=
    if indent < t.indent then
      match b.open? t with
      | some b' => .taken b'
      | none => .close b
    else .close b
  if t.isFiller then whole (fill t indent s more)
  else if t.kind = .anchor || t.kind = .tag then
    if s.value.isSome || t.indent ≤ indent then otherwise
    else whole ({ s with start := t :: s.start } :: more)
  else if t.kind = .dash && t.indent = indent then
    if s.value.isSome || includes .dash s.start then whole ({ start := [t] } :: s :: more)
    else whole ({ s with start := t :: s.start } :: more)
  else otherwise

/-! ## Flow collections -/

/-- A token inside a flow collection that is not closed yet. -/
def inFlow (b : Builder) (t : Token) (opening : Token) (indent : Nat) (slots : List (Slot Outline))
    (below : List Frame) : Response :=
  let whole (slots : List (Slot Outline)) : Response :=
    .taken { b with stack := .node (.flow opening indent slots []) :: below }
  match t.kind with
  | .comma | .question =>
    match slots with
    | s :: more =>
      if s.between.isSome then whole ({ start := [t] } :: s :: more)
      else whole ({ s with start := t :: s.start } :: more)
    | [] => whole [{ start := [t] }]
  | .colon =>
    match slots with
    | s :: more =>
      if s.value.isSome then whole ({ between := some [t] } :: s :: more)
      else whole ({ s with between := some (t :: s.between.getD []) } :: more)
    | [] => whole [{ between := some [t] }]
  | .space | .comment | .newline | .anchor | .tag =>
    match slots with
    | s :: more =>
      if s.value.isSome then whole ({ start := [t] } :: s :: more) else whole (s.push t :: more)
    | [] => whole [{ start := [t] }]
  | .plain | .singleQuoted | .doubleQuoted | .reference =>
    let leaf : Outline := .leaf t.kind t.text t.offset t.indent []
    match slots with
    | s :: more =>
      if s.value.isSome then whole ({ key := some leaf, between := some [] } :: s :: more)
      else if s.between.isSome then .taken (b.push (.node leaf))
      else whole ({ s with key := some leaf, between := some [] } :: more)
    | [] => whole [{ key := some leaf, between := some [] }]
  | .closeMapping | .closeSequence =>
    .taken { b with stack := .node (.flow opening indent slots [t]) :: below }
  | _ =>
    match b.open? t with
    | some b' => .taken b'
    | none => .close b

/-- Whether a closed flow collection is the key of the block mapping around it. -/
def isKeyOf (t : Token) (indent : Nat) : Frame → Bool
  | .node (.mapping _ n (s :: _)) =>
    (t.kind = .colon && n = indent) || (t.kind = .newline && s.between.isNone)
  | _ => false

/-- A token behind a closed flow collection. -/
def behindFlow (b : Builder) (t : Token) (opening : Token) (indent : Nat)
    (slots : List (Slot Outline)) (tail : List Token) (below : List Frame) : Response :=
  match below with
  | around :: _ =>
    let inside : Bool := match around with
      | .node (.flow ..) => true
      | _ => false
    if isKeyOf t indent around then .close b
    else if t.kind = .colon && !inside then
      let key := (Outline.flow opening indent slots (tail.drop (tail.length - 1))).withItems
      .taken (mappingFrom key opening.offset indent (t :: tail.dropLast) b below)
    else
      behindNode b t
        { b with stack := .node (.flow opening indent slots (t :: tail)) :: below }
  | [] => .close b

/-! ## Tokens -/

/-- What the topmost frame makes of a token. -/
def respond (b : Builder) (t : Token) : Except Fault Response :=
  match b.stack with
  | [] =>
    match t.kind with
    | .directive => .ok (.taken { b with parts := .directive t.text :: b.parts })
    | .byteOrderMark | .space | .comment | .newline => .ok (.taken b)
    | .document => .ok (.taken (b.push (.document { offset := t.offset })))
    | .documentStart => .ok (.taken (b.push (.document { offset := t.offset, start := [t] })))
    | _ => .error (.unexpected (String.ofList t.text))
  | .document d :: below => onDocument b t d below
  | .documentEnd tail :: below =>
    if t.kind = .document then .ok (.taken b)
    else
      let b' := { b with stack := .documentEnd (t :: tail) :: below }
      .ok (if t.kind = .newline then .complete b' else .taken b')
  | .node (.leaf kind text offset indent tail) :: below =>
    .ok (onLeaf b t kind text offset indent tail below)
  | .node (.block header _ offset indent) :: below => .ok (onBlock b t header offset indent below)
  | .node (.mapping offset indent (s :: more)) :: below => onMapping b t offset indent s more below
  | .node (.sequence offset indent (s :: more)) :: below =>
    .ok (onSequence b t offset indent s more below)
  | .node (.flow opening indent slots []) :: below => .ok (inFlow b t opening indent slots below)
  | .node (.flow opening indent slots tail) :: below =>
    .ok (behindFlow b t opening indent slots tail below)
  | .node _ :: _ => .ok (.close b)

/-- Offers a token to the frames from the topmost on down. -/
def offer : Nat → Builder → Token → Except Fault Builder
  | 0, _, _ => .error .tooDeep
  | height + 1, b, t =>
    match respond b t with
    | .ok (.taken b') => .ok b'
    | .ok (.complete b') => b'.close
    | .ok (.close b') =>
      match b'.close with
      | .ok b'' => offer height b'' t
      | .error f => .error f
    | .error f => .error f

/-- Whether the topmost frame is the end of a document. -/
def atEnd (b : Builder) : Bool :=
  match b.stack with
  | .documentEnd _ :: _ => true
  | _ => false

/-- Finds the place of a token. The marker of a document's end closes all that is open. -/
def put (b : Builder) (t : Token) : Except Fault Builder :=
  if t.kind = .documentEnd && !b.atEnd then
    (closeAll b.stack.length b).map (·.push (.documentEnd []))
  else offer (b.stack.length + 1) b t

/-- How a token changes what is known about the line. -/
def advance (b : Builder) (t : Token) : Builder :=
  match t.kind with
  | .newline => { b with atLineStart := true, indent := 0 }
  | .space =>
    if b.atLineStart && t.text.head? = some ' ' then { b with indent := b.indent + t.text.length }
    else b
  | .dash | .question | .colon => if b.atLineStart then { b with indent := b.indent + 1 } else b
  | .document | .plain => b
  | _ => { b with atLineStart := false }

/-- Adds a token with the indentation of its line. -/
def add (b : Builder) (t : Token) : Except Fault Builder :=
  let b' := if t.kind = .plain then { b with atLineStart := false } else b
  (b'.put { t with indent := b.indent }).map (·.advance t)

def addAll (b : Builder) : List Token → Except Fault Builder
  | [] => .ok b
  | t :: rest =>
    match b.add t with
    | .ok b' => addAll b' rest
    | .error f => .error f

end Builder

/-- The parts of a text, in its order. -/
def partsOf (ts : List Token) : Except Fault (List Part) :=
  match Builder.start.addAll ts with
  | .ok b => (Builder.closeAll b.stack.length b).map fun b' => b'.parts.reverse
  | .error f => .error f

end Yaml
end Rollout
