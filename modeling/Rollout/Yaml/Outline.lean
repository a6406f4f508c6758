import Rollout.Yaml.Token

/-
Outlines of YAML documents: which tokens make up which collection and which entry, before
anything is said about what they mean. An outline exists for every text; whether its
entries are complete and stand at the right columns is told later.

Lists of tokens and of entries grow at their front, so everywhere in an outline they hold
the latest first.
-/
namespace Rollout
namespace Yaml

/-- An entry of a collection: the tokens before its key, the key, the tokens between the
key and its value, and the value. An item of a sequence has no key. -/
structure Slot (α : Type) where
  start : List Token := []
  /-- Whether the key is announced by a question mark. -/
  explicit : Bool := false
  key : Option α := none
  between : Option (List Token) := none
  value : Option α := none

inductive Outline where
  /-- A scalar on one or more lines or an alias, and the tokens behind it. -/
  | leaf (kind : Kind) (text : List Char) (offset indent : Nat) (tail : List Token)
  | block (header : List Token) (text : List Char) (offset indent : Nat)
  | mapping (offset indent : Nat) (slots : List (Slot Outline))
  | sequence (offset indent : Nat) (slots : List (Slot Outline))
  /-- A flow collection; its tail starts with the closing bracket. -/
  | flow (opening : Token) (indent : Nat) (slots : List (Slot Outline)) (tail : List Token)

/-- The outline of a document: the tokens before its root node, the node and the tokens
behind it. -/
structure DocumentOutline where
  offset : Nat
  start : List Token := []
  root : Option Outline := none
  tail : List Token := []

/-- What a text consists of at its outermost. -/
inductive Part where
  | directive (text : List Char)
  | document (d : DocumentOutline)
  /-- An end marker with the tokens behind it. -/
  | documentEnd (tail : List Token)

namespace Outline

def indent : Outline → Nat
  | .leaf _ _ _ n _ => n
  | .block _ _ _ n => n
  | .mapping _ n _ => n
  | .sequence _ n _ => n
  | .flow _ n _ _ => n

def isBlockCollection : Outline → Bool
  | .mapping .. | .sequence .. => true
  | _ => false

def isFlow : Outline → Bool
  | .flow .. => true
  | _ => false

/-- The tokens behind a node that has a place for them. -/
def tail? : Outline → Option (List Token)
  | .leaf _ _ _ _ [] => none
  | .leaf _ _ _ _ tail => some tail
  | .flow _ _ _ tail => some tail
  | _ => none

/-- Puts further tokens behind a node. -/
def extend (more : List Token) : Outline → Outline
  | .leaf k t o n tail => .leaf k t o n (more ++ tail)
  | .flow t n slots tail => .flow t n slots (more ++ tail)
  | o => o

end Outline

namespace Slot

variable {α : Type}

/-- The tokens in front of the place where the slot has got to. -/
def front (s : Slot α) : List Token := s.between.getD s.start

def setFront (s : Slot α) (ts : List Token) : Slot α :=
  if s.between.isSome then { s with between := some ts } else { s with start := ts }

/-- Adds a token in front of the place where the slot has got to. -/
def push (s : Slot α) (t : Token) : Slot α := s.setFront (t :: s.front)

/-- An item of a flow sequence is a value: what was taken for a key without a colon. -/
def asItem (s : Slot Outline) : Slot Outline :=
  match s.between, s.value with
  | some between, none =>
    if includes .question s.start || includes .colon between then s
    else
      match s.key with
      | some (.leaf k t o n tail) =>
        { s with key := none, between := none, value := some (.leaf k t o n (between ++ tail)) }
      | some (.flow t n slots tail) =>
        { s with key := none, between := none, value := some (.flow t n slots (between ++ tail)) }
      | other => { s with start := between ++ s.start, key := none, between := none, value := other }
  | _, _ => s

end Slot

/-- A flow sequence whose entries without a colon are items. -/
def Outline.withItems : Outline → Outline
  | .flow opening n slots tail =>
    .flow opening n (if opening.kind = .openSequence then slots.map Slot.asItem else slots) tail
  | o => o

end Yaml
end Rollout
