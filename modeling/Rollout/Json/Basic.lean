import Rollout.Instant
import Rollout.Number.Basic
import Rollout.Record

/-
Document values: the tree that JSON and YAML texts denote, with the members of an
object in record order. YAML texts also have values that JSON lacks.
-/
namespace Rollout

/-- The sorts of values that JSON lacks. -/
inductive Foreign where
  | set
  | orderedMapping
  | instant (value : Instant)
  | bytes (values : List Nat)
  /-- The mark under which mappings are merged, at a place where it has no meaning. -/
  | mark

/-- A document value. A value that JSON lacks comes with the one that is written in its
place. -/
inductive Json where
  | null
  | bool (value : Bool)
  | number (value : Number)
  | text (value : String)
  | array (items : List Json)
  | object (members : List (String × Json))
  | foreign (sort : Foreign) (shown : Json)

namespace Json

instance : Inhabited Json := ⟨.null⟩

def nat (n : Nat) : Json := .number (.ofNat n)

/-! ## Values that JSON lacks -/

/-- Neither sets nor ordered mappings show what is in them. -/
def set : Json := .foreign .set (.object [])

def orderedMapping : Json := .foreign .orderedMapping (.object [])

def instant (i : Instant) : Json := .foreign (.instant i) (.text i.text)

def bytes (values : List Nat) : Json :=
  .foreign (.bytes values)
    (.object [("type", .text "Buffer"), ("data", .array (values.map nat))])

def mark : Json := .foreign .mark .null

/-! ## Types and members -/

/-- The type of a value as messages name it. The value that is no number has a type
of its own. -/
def kindName : Json → String
  | .null => "null"
  | .bool _ => "boolean"
  | .number .notANumber => "nan"
  | .number _ => "number"
  | .text _ => "string"
  | .array _ => "array"
  | .object _ => "object"
  | .foreign .set _ => "set"
  | .foreign .orderedMapping _ => "map"
  | .foreign (.instant _) _ => "date"
  | .foreign (.bytes _) _ => "object"
  | .foreign .mark _ => "symbol"

/-- Bytes as members, each under its index. -/
def byteMembers (values : List Nat) : List (String × Json) :=
  values.zipIdx.map fun (byte, i) => (String.ofList (Nat.toDigits 10 i), nat byte)

/-- The members of an object. Bytes have one for each of them. -/
def members? : Json → Option (List (String × Json))
  | .object members => some members
  | .foreign (.bytes values) _ => some (byteMembers values)
  | _ => none

/-- The object with the given members, put one after the other. -/
def ofMembers (members : List (String × Json)) : Json := .object (Record.ofList members)

def texts (items : List String) : Json := .array (items.map .text)

/-- A value that may be missing, shown as null. -/
def orNull {α : Type} (encode : α → Json) : Option α → Json
  | some a => encode a
  | none => .null

/-- The member under a key; nothing where the value is no object. -/
def member? : Json → String → Option Json
  | .object members, key => Record.get? members key
  | _, _ => none

end Json
end Rollout
