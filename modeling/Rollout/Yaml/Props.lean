import Rollout.Yaml.Fault
import Rollout.Yaml.Outline

/-
What the tokens in front of a node and behind it say: its anchor and tag, the indicator
that announces it, and comments. The rules on white space are checked here: properties and
comments are set off by it, and tabs do not indent.
-/
namespace Rollout
namespace Yaml

/-- What follows the tokens in front of a node. -/
inductive Next where
  | nothing
  | token (kind : Kind)
  | node (o : Outline)

namespace Next

/-- Whether what follows has to be set off from a property. -/
def demandsSpace : Next → Bool
  | .nothing => false
  | .token kind => kind != .space && kind != .newline && kind != .comma
  | .node (.leaf .plain [] _ _ _) => false
  | .node _ => true

def isBlockCollection : Next → Bool
  | .node o => o.isBlockCollection
  | _ => false

def isFlow : Next → Bool
  | .node o => o.isFlow
  | _ => false

/-- The key of an entry, or else the token behind the place of the key. The tokens are given
with the latest first. -/
def ofKey (key : Option Outline) (between : Option (List Token)) : Next :=
  match key, between.bind List.getLast? with
  | some o, _ => .node o
  | none, some t => .token t.kind
  | none, none => .nothing

def ofValue : Option Outline → Next
  | some o => .node o
  | none => .nothing

end Next

/-- What the tokens in front of a node say. -/
structure Props where
  anchor : Option Token := none
  tag : Option Token := none
  /-- The indicator that announces the node. -/
  found : Option Token := none
  comma : Bool := false
  /-- Whether an empty line comes before the node. -/
  spaced : Bool := false
  comment : List Char := []
  hasNewline : Bool := false
  /-- Where the last line break behind a property is. -/
  newlineBehind : Option Nat := none
  /-- Where the properties start, or the node if there are none. -/
  start : Nat
  finish : Nat

/-- The setting in which tokens in front of a node are read. -/
structure Setting where
  /-- Whether the node stands in a flow collection. -/
  inFlow : Bool
  indicator : Kind
  next : Next
  /-- Where the node is if no tokens stand in front of it. -/
  offset : Nat
  /-- The indentation of the collection around. -/
  around : Nat
  /-- Whether the tokens start a line. -/
  fresh : Bool

namespace Props

/-- The reading under way. -/
structure Progress where
  props : Props
  atNewline : Bool
  hasSpace : Bool
  /-- Line breaks behind a comment, which count if another comment follows. -/
  pending : List Char
  /-- Whether white space has to come next. -/
  bound : Bool
  /-- A blank with a tab right before the place reached. -/
  tab : Option Token
  start : Option Nat

/-- The text of a comment. An empty one has a blank. -/
def commentText (t : Token) : List Char := if t.text.tail.isEmpty then [' '] else t.text.tail

/-- Takes one token. -/
def take (s : Setting) (p : Progress) (t : Token) : Except Fault Progress :=
  if p.bound && t.kind != .space && t.kind != .newline && t.kind != .comma then
    .error .missingSpace
  else if p.tab.isSome && p.atNewline && t.kind != .comment && t.kind != .newline then
    .error .tabIndentation
  else
    let p := { p with bound := false, tab := none }
    if t.kind = .space then
      let watched := !s.inFlow && !(s.indicator = .documentStart && s.next.isFlow)
        && t.text.contains '\t'
      .ok { p with tab := if watched then some t else none, hasSpace := true }
    else if t.kind = .comment then
      if !p.hasSpace then .error .missingSpace
      else
        let comment :=
          if p.props.comment.isEmpty then commentText t
          else p.props.comment ++ p.pending ++ commentText t
        .ok { p with props := { p.props with comment := comment }, pending := [], atNewline := false }
    else if t.kind = .newline then
      let props := { p.props with
        comment :=
          if p.atNewline && !p.props.comment.isEmpty then p.props.comment ++ t.text
          else p.props.comment
        spaced := p.props.spaced || (p.atNewline && p.props.comment.isEmpty
          && (p.props.found.isNone || s.indicator != .dash))
        hasNewline := true
        newlineBehind :=
          if p.props.anchor.isSome || p.props.tag.isSome then some t.offset
          else p.props.newlineBehind }
      .ok { p with
        props := props
        pending := if p.atNewline then p.pending else p.pending ++ t.text
        atNewline := true
        hasSpace := true }
    else if t.kind = .anchor || t.kind = .tag then
      let anchor := t.kind = .anchor
      if (if anchor then p.props.anchor else p.props.tag).isSome then .error .repeatedProperty
      else
        .ok { p with
          props :=
            if anchor then { p.props with anchor := some t } else { p.props with tag := some t }
          start := some (p.start.getD t.offset)
          atNewline := false
          hasSpace := false
          bound := true }
    else if t.kind = s.indicator then
      if p.props.anchor.isSome || p.props.tag.isSome then .error .misplacedProperty
      else if p.props.found.isSome then .error (.unexpected (String.ofList t.text))
      else
        .ok { p with
          props := { p.props with found := some t }
          atNewline := s.indicator = .dash || s.indicator = .question
          hasSpace := false }
    else if t.kind = .comma && s.inFlow && !p.props.comma then
      .ok { p with props := { p.props with comma := true }, atNewline := false, hasSpace := false }
    else .error (.unexpected (String.ofList t.text))

/-- Reads the tokens in front of a node, given with the latest first. -/
def read (s : Setting) (ts : List Token) : Except Fault Props :=
  let finish := (ts.head?.map Token.finish).getD s.offset
  let initial : Progress := ⟨{ start := finish, finish := finish }, s.fresh, s.fresh, [], false, none, none⟩
  match ts.reverse.foldlM (take s) initial with
  | .error f => .error f
  | .ok p =>
    if p.bound && s.next.demandsSpace then .error .missingSpace
    else if p.tab.any fun t => (p.atNewline && decide (t.indent ≤ s.around)) || s.next.isBlockCollection then
      .error .tabIndentation
    else .ok { p.props with start := p.start.getD finish }

end Props

/-! ## Behind a node -/

/-- Reads the tokens behind a node, given with the latest first: nothing but white space and
comments may stand there. `strict` tells whether comments have to be set off. -/
def tailComment (strict : Bool) (ts : List Token) : Except Fault (List Char) :=
  let step (p : Bool × List Char × List Char) (t : Token) : Except Fault (Bool × List Char × List Char) :=
    let (spaced, pending, comment) := p
    match t.kind with
    | .space => .ok (true, pending, comment)
    | .newline => .ok (true, if comment.isEmpty then pending else pending ++ t.text, comment)
    | .comment =>
      if strict && !spaced then .error .missingSpace
      else
        .ok (spaced, [],
          if comment.isEmpty then Props.commentText t
          else comment ++ pending ++ Props.commentText t)
    | _ => .error (.unexpected (String.ofList t.text))
  (ts.reverse.foldlM step (false, [], [])).map (·.2.2)

/-- Where the tokens behind a node end. -/
def tailFinish (finish : Nat) (ts : List Token) : Nat :=
  ts.foldl (fun n t => n + Text.unitCount t.text) finish

end Yaml
end Rollout
