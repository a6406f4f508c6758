import Rollout.Catalog.Words
import Rollout.Schema.Issue

/-
Checked reading of payloads. A reader sees a value that may be absent and gives either
a typed value or the issues; readers of several fields gather the issues of all of
them. The readers here are the forms that fields have; what a node or an edge consists
of is said in terms of them.
-/
namespace Rollout
namespace Schema

/-- A typed value, or the issues that stand against it. -/
inductive Checked (α : Type) where
  | valid (value : α)
  | faulty (issues : Issues)

namespace Checked

variable {α β : Type}

def map (f : α → β) : Checked α → Checked β
  | .valid a => .valid (f a)
  | .faulty is => .faulty is

/-- Applies a function that is itself checked. The issues of both sides are kept, the
left ones first. -/
def ap : Checked (α → β) → Checked α → Checked β
  | .valid f, .valid a => .valid (f a)
  | .valid _, .faulty is => .faulty is
  | .faulty is, .valid _ => .faulty is
  | .faulty is, .faulty js => .faulty (is.append js)

instance : Applicative Checked where
  pure := .valid
  map := map
  seq f x := ap f (x ())

/-- The same outcome seen from one step further out. -/
def under (s : Step) : Checked α → Checked α
  | .valid a => .valid a
  | .faulty is => .faulty (is.under s)

def fail (c : Cause) : Checked α := .faulty (.single c)

def toOption : Checked α → Option α
  | .valid a => some a
  | .faulty _ => none

end Checked

/-- Reads a value that may be absent. -/
abbrev Reader (α : Type) := Option Json → Checked α

variable {α β : Type}

def wrongType (expected : String) (v : Json) : Checked α :=
  .fail (.wrongType expected v.kindName)

/-! ## Scalars -/

def text : Reader String
  | none => .fail .required
  | some (.text s) => .valid s
  | some v => wrongType "string" v

def nonEmptyText : Reader String
  | none => .fail .required
  | some (.text s) => if s.isEmpty then .fail .emptyText else .valid s
  | some v => wrongType "string" v

def flag : Reader Bool
  | none => .fail .required
  | some (.bool b) => .valid b
  | some v => wrongType "boolean" v

/-- A condition on numbers. -/
inductive Rule where
  | whole
  | atLeast (least : Nat)
  | positive
  | atMost (greatest : Nat)

def Rule.holds : Rule → Number → Bool
  | .whole, n => n.isInteger
  | .atLeast least, n => !n.lt (.ofNat least)
  | .positive, n => Number.zero.lt n
  | .atMost greatest, n => !(Number.ofNat greatest).lt n

def Rule.cause : Rule → Cause
  | .whole => .notWhole
  | .atLeast least => .below least
  | .positive => .notPositive
  | .atMost greatest => .above greatest

/-- Checks a number against every rule; each broken rule is an issue. -/
def obey (rules : List Rule) (n : Number) : Checked Number :=
  match rules.filter fun r => !r.holds n with
  | [] => .valid n
  | r :: more => .faulty ⟨⟨[], r.cause⟩, more.map fun r => ⟨[], r.cause⟩⟩

/-- A number that obeys rules. The value that is no number has a type of its own. -/
def number (rules : List Rule) : Reader Number
  | none => .fail .required
  | some (.number .notANumber) => .fail (.wrongType "number" "nan")
  | some (.number n) => obey rules n
  | some v => wrongType "number" v

def nonNegative : Reader Number := number [.atLeast 0]

/-- A whole number that is not negative. -/
def natural (v : Option Json) : Checked Nat := (number [.whole, .atLeast 0] v).map Number.toNat

/-- A whole number above zero. -/
def positive (v : Option Json) : Checked Nat := (number [.whole, .positive] v).map Number.toNat

/-- The greatest port. -/
def greatestPort : Nat := 65535

def port (v : Option Json) : Checked Nat :=
  (number [.whole, .atLeast 1, .atMost greatestPort] v).map Number.toNat

/-- One of the words of a vocabulary. -/
def choice (α : Type) [Worded α] : Reader α
  | none => .fail .required
  | some (.text s) =>
    match Worded.ofWord? s with
    | some a => .valid a
    | none => .fail (.notAllowed (Worded.words α) s)
  | some v => .fail (.noWord (Worded.words α) v.kindName)

/-! ## Absence -/

/-- A value that may be absent. A null is not an absent value. -/
def optional (r : Reader α) : Reader (Option α)
  | none => .valid none
  | some v => (r (some v)).map some

/-- A value with a default in its absence. -/
def orElse (default : α) (r : Reader α) : Reader α
  | none => .valid default
  | some v => r (some v)

/-! ## Collections -/

/-- The items from an index on, each read in turn. -/
def itemsFrom (r : Reader α) : Nat → List Json → Checked (List α)
  | _, [] => .valid []
  | i, v :: rest => List.cons <$> (r (some v)).under (.item i) <*> itemsFrom r (i + 1) rest

def items (r : Reader α) : Reader (List α)
  | none => .fail .required
  | some (.array vs) => itemsFrom r 0 vs
  | some v => wrongType "array" v

/-- Adds a member to a record unless its key is the dropped one. -/
def keep (key : String) (value : α) (rest : Record α) : Record α :=
  if key = Record.droppedKey then rest else (key, value) :: rest

/-- The members of a record, each value read in turn. A value under the dropped key is
checked all the same. -/
def members (r : Reader α) : List (String × Json) → Checked (Record α)
  | [] => .valid []
  | (k, v) :: rest => keep k <$> (r (some v)).under (.key k) <*> members r rest

def record (r : Reader α) : Reader (Record α)
  | none => .fail .required
  | some v =>
    match v.members? with
    | some ms => members r ms
    | none => wrongType "object" v

/-- The member of an object under a key. -/
def field (key : String) (r : Reader α) (ms : List (String × Json)) : Checked α :=
  (r (Record.get? ms key)).under (.key key)

/-- An object whose fields `fields` reads. Members that no field names are ignored. -/
def object (fields : List (String × Json) → Checked α) : Reader α
  | none => .fail .required
  | some v =>
    match v.members? with
    | some ms => fields ms
    | none => wrongType "object" v

/-- An object whose form depends on the word under `kind`. -/
def byKind (κ : Type) [Worded κ] (forms : κ → List (String × Json) → Checked α) : Reader α :=
  object fun ms =>
    match Record.get? ms "kind" with
    | some (.text s) =>
      match Worded.ofWord? s with
      | some k => forms k ms
      | none => (Checked.fail (.unknownKind (Worded.words κ))).under (.key "kind")
    | _ => (Checked.fail (.unknownKind (Worded.words κ))).under (.key "kind")

end Schema
end Rollout
