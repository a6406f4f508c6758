import Rollout.Yaml.Scalar

/-
Nodes of a YAML document. They keep what their writing has to do with their value or with
the text of a key: anchors, tags, styles and comments.
-/
namespace Rollout
namespace Yaml

/-- The name a node can be repeated by. Where it was written tells it from other anchors of
the same name. -/
structure Anchor where
  name : String
  offset : Nat

/-- What stands around a node without being part of its value. -/
structure Notes where
  /-- Whether an empty line stands before the node. -/
  spaced : Bool := false
  before : Option String := none
  after : Option String := none

structure Head where
  anchor : Option Anchor := none
  tag : Option String := none
  notes : Notes := {}

inductive Style where
  | plain | singleQuoted | doubleQuoted | block
  deriving DecidableEq

/-- A scalar: what it denotes, how it is written, and its text. -/
structure Scalar where
  reading : Reading
  style : Style
  source : String

/-- What a mapping is taken for. -/
inductive MappingSort where
  | record | set
  deriving DecidableEq

/-- What a sequence of pairs is taken for. -/
inductive PairsSort where
  | records | orderedMapping
  deriving DecidableEq

/-- A key may stand without a value. -/
inductive Node where
  /-- Repeats the node that an anchor names. -/
  | repetition (name : String) (offset : Nat) (notes : Notes)
  | scalar (head : Head) (value : Scalar)
  | sequence (head : Head) (items : List Node)
  | mapping (head : Head) (sort : MappingSort) (entries : List (Node × Option Node))
  | pairs (head : Head) (sort : PairsSort) (entries : List (Node × Option Node))

namespace Node

def notes : Node → Notes
  | .repetition _ _ n => n
  | .scalar h _ | .sequence h _ | .mapping h _ _ | .pairs h _ _ => h.notes

def head? : Node → Option Head
  | .repetition .. => none
  | .scalar h _ | .sequence h _ | .mapping h _ _ | .pairs h _ _ => some h

def anchor? (n : Node) : Option Anchor := n.head?.bind (·.anchor)

def withNotes (change : Notes → Notes) : Node → Node
  | .repetition name offset n => .repetition name offset (change n)
  | .scalar h s => .scalar { h with notes := change h.notes } s
  | .sequence h items => .sequence { h with notes := change h.notes } items
  | .mapping h sort entries => .mapping { h with notes := change h.notes } sort entries
  | .pairs h sort entries => .pairs { h with notes := change h.notes } sort entries

/-- Whether two nodes are the same key. Only scalars can be. -/
def sameKey : Node → Node → Bool
  | .scalar _ a, .scalar _ b => a.reading.content.same b.reading.content
  | _, _ => false

def isNull : Node → Bool
  | .scalar _ s =>
    match s.reading.content with
    | .null => true
    | _ => false
  | _ => false

/-- Puts a node with an anchor in front of those inside it. -/
def withOwn (n : Node) (inside : List (Anchor × Node)) : List (Anchor × Node) :=
  match n.anchor? with
  | some a => (a, n) :: inside
  | none => inside

mutual

/-- The nodes that have an anchor, in the order of the text. -/
def anchored : Node → List (Anchor × Node)
  | .repetition .. => []
  | .scalar h s => withOwn (.scalar h s) []
  | .sequence h items => withOwn (.sequence h items) (anchoredItems items)
  | .mapping h sort entries => withOwn (.mapping h sort entries) (anchoredEntries entries)
  | .pairs h sort entries => withOwn (.pairs h sort entries) (anchoredEntries entries)

def anchoredItems : List Node → List (Anchor × Node)
  | [] => []
  | v :: rest => anchored v ++ anchoredItems rest

def anchoredEntries : List (Node × Option Node) → List (Anchor × Node)
  | [] => []
  | (k, none) :: rest => anchored k ++ anchoredEntries rest
  | (k, some v) :: rest => anchored k ++ (anchored v ++ anchoredEntries rest)

end

end Node
end Yaml
end Rollout
