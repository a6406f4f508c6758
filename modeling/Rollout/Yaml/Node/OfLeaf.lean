import Rollout.Yaml.BlockText
import Rollout.Yaml.Directive
import Rollout.Yaml.Node
import Rollout.Yaml.Props

/-
The nodes of scalars and aliases, and of places where nothing is written.
-/
namespace Rollout
namespace Yaml

/-- A node, and where it ends. -/
structure Composed where
  node : Node
  finish : Nat

namespace Node

/-- A comment as a note, if there is one. -/
def noteOf (cs : List Char) : Option String := if cs.isEmpty then none else some (String.ofList cs)

/-- A note with a further comment on a line of its own. -/
def addNote (note : Option String) (cs : List Char) : Option String :=
  if cs.isEmpty then note
  else
    match note with
    | some s => some (s ++ "\n" ++ String.ofList cs)
    | none => some (String.ofList cs)

def addAfter (cs : List Char) (n : Node) : Node :=
  n.withNotes fun notes => { notes with after := addNote notes.after cs }

/-! ## Scalars -/

def anchorOf (props : Props) : Except Fault (Option Anchor) :=
  match props.anchor with
  | none => .ok none
  | some t =>
    if t.text.tail.isEmpty then .error .emptyName
    else .ok (some ⟨String.ofList t.text.tail, t.offset⟩)

def tagOf (d : Directives) (props : Props) : Except Fault (Option String) :=
  match props.tag with
  | none => .ok none
  | some t => d.tag? t.text

/-- The node of a scalar. Its tag tells its value, and without one the form of its text if
it is plain. -/
def ofScalar (d : Directives) (atKey : Bool) (style : Style) (text : List Char) (props : Props)
    (notes : Notes) : Except Fault Node := do
  let s := String.ofList text
  let anchor ← anchorOf props
  let tag ← tagOf d props
  let reading ← (match tag with
    | some t => if t = "!" then .ok { content := .text s } else Reading.tagged d.version t s
    | none =>
      .ok (if style = .plain then Reading.plain d.version atKey s else { content := .text s }))
  return .scalar ⟨anchor, tag, notes⟩ ⟨reading, style, s⟩

/-- Where an empty node is: behind the last token before it that is not white space, and
behind the blanks that follow this token. -/
def emptyPlace (offset : Nat) (before : List Token) : Nat :=
  let size (ts : List Token) : Nat := tailFinish 0 ts
  let fillers := before.takeWhile Token.isFiller
  let kept :=
    if fillers.length = before.length then [] else fillers.reverse.takeWhile (·.kind = .space)
  offset - size fillers + size kept

/-- The node of a place where none is written. -/
def ofNothing (d : Directives) (atKey : Bool) (before : List Token) (props : Props) :
    Except Fault Composed := do
  let notes : Notes := { spaced := props.spaced, after := noteOf props.comment }
  let n ← ofScalar d atKey .plain [] props notes
  return ⟨n, if props.comment.isEmpty then emptyPlace props.finish before else props.finish⟩

/-- The notes of a node from the tokens before it and behind it. The comment before an empty
plain scalar counts as standing behind it. -/
def notesOf (props : Props) (isEmpty : Bool) (after : List Char) : Notes :=
  if isEmpty && !props.comment.isEmpty then
    { spaced := props.spaced, after := noteOf props.comment }
  else { spaced := props.spaced, before := noteOf props.comment, after := noteOf after }

/-- The node of a scalar or an alias. -/
def ofLeaf (d : Directives) (atKey : Bool) (kind : Kind) (text : List Char) (offset : Nat)
    (tail : List Token) (props : Props) : Except Fault Composed := do
  let after ← tailComment true tail
  let finish := tailFinish (offset + Text.unitCount text) tail
  let scalar (style : Style) (value : List Char) : Except Fault Composed := do
    let n ← ofScalar d atKey style value props
      (notesOf props (style = .plain && text.isEmpty) after)
    return ⟨n, finish⟩
  match kind with
  | .reference =>
    if text.tail.isEmpty then throw .emptyName
    else if props.anchor.isSome || props.tag.isSome then throw .aliasProperty
    else return ⟨.repetition (String.ofList text.tail) offset (notesOf props false after), finish⟩
  | .singleQuoted => scalar .singleQuoted (← singleText text)
  | .doubleQuoted => scalar .doubleQuoted (← doubleText text)
  | _ => scalar .plain (← plainText text)

/-- The node of a block scalar in a collection of the given indentation. -/
def ofBlock (d : Directives) (atRoot atKey : Bool) (header : List Token) (text : List Char)
    (offset indent : Nat) (props : Props) : Except Fault Composed := do
  match header.reverse with
  | [] => throw .blockHeader
  | mark :: more =>
    let h ← BlockHeader.ofText mark.text
    let after ← BlockHeader.comment false none more
    let value ← BlockText.ofSource h indent atRoot text
    let n ← ofScalar d atKey .block value props (notesOf props false (after.getD []))
    return ⟨n, tailFinish (offset + Text.unitCount text) header⟩

end Node
end Yaml
end Rollout
