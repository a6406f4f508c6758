/-
Ordered records: members in the order documents keep them. Members whose key is a
canonical index come first, in ascending order; the others follow in the order in
which they were first put.
-/
namespace Rollout

/-- Members with their keys, in record order. -/
abbrev Record (α : Type) := List (String × α)

namespace Record

/-- The bound of canonical indices, `2 ^ 32 - 1`. -/
def indexBound : Nat := 4294967295

def digit? (c : Char) : Option Nat :=
  if decide ('0' ≤ c) && decide (c ≤ '9') then some (c.toNat - '0'.toNat) else none

/-- The number that a run of digits writes, or `none` where another character stands. -/
def digitsValue? (acc : Nat) : List Char → Option Nat
  | [] => some acc
  | c :: rest => (digit? c).bind fun d => digitsValue? (acc * 10 + d) rest

/-- The index a key writes canonically: in base ten, without leading zeros and below
the bound. -/
def index? (key : String) : Option Nat :=
  match key.toList with
  | [] => none
  | ['0'] => some 0
  | '0' :: _ => none
  | cs =>
    if 10 < cs.length then none
    else (digitsValue? 0 cs).bind fun n => if n < indexBound then some n else none

/-- Whether a key is an index below `i`. -/
def indexBelow (i : Nat) (key : String) : Bool :=
  match index? key with
  | some j => decide (j < i)
  | none => false

variable {α : Type}

def keys (r : Record α) : List String := r.map (·.1)

/-- The value under a key, the first one where a key occurs twice. -/
def get? : Record α → String → Option α
  | [], _ => none
  | (k, v) :: rest, key => if k = key then some v else get? rest key

def has (r : Record α) (key : String) : Bool := (get? r key).isSome

/-- Puts a value in the place the key already has. -/
def replace : Record α → String → α → Record α
  | [], _, _ => []
  | (k, v) :: rest, key, value =>
    if k = key then (key, value) :: rest else (k, v) :: replace rest key value

/-- Puts a new index before the first member that is no smaller index. -/
def insertIndex (i : Nat) (key : String) (value : α) : Record α → Record α
  | [] => [(key, value)]
  | (k, v) :: rest =>
    if indexBelow i k then (k, v) :: insertIndex i key value rest
    else (key, value) :: (k, v) :: rest

/-- Puts a value under a key. A key that is present keeps its place; a new index goes
among the indices and any other new key to the end. -/
def put (r : Record α) (key : String) (value : α) : Record α :=
  if has r key then replace r key value
  else
    match index? key with
    | some i => insertIndex i key value r
    | none => r ++ [(key, value)]

/-- The record of a list of members, a later member replacing an earlier one. -/
def ofList (members : List (String × α)) : Record α :=
  members.foldl (fun r m => put r m.1 m.2) []

/-- The key that typed records and redacted payloads never keep. -/
def droppedKey : String := "__proto__"

end Record
end Rollout
