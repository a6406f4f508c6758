import Rollout.Json.Basic
import Rollout.Yaml.Directive
import Rollout.Yaml.Node

/-
Repetition of nodes by their anchors. An alias names the last node before it that has its
anchor. What a node means is found once and then taken from a table; the table also counts
how often it was taken, so that texts whose aliases multiply are refused.
-/
namespace Rollout
namespace Yaml

/-- A document as aliases see it. -/
structure Scope where
  directives : Directives
  /-- The nodes with an anchor, in the order of the text. -/
  anchored : List (Anchor × Node)

namespace Scope

/-- The node that an alias at some place repeats. -/
def source? (s : Scope) (name : String) (offset : Nat) : Option (Anchor × Node) :=
  (s.anchored.filter fun e => e.1.name = name && e.1.offset < offset).getLast?

/-- The node that is meant: an alias stands for what it repeats. -/
def behind? (s : Scope) : Node → Option Node
  | .repetition name offset _ => (s.source? name offset).map (·.2)
  | n => some n

end Scope

/-- What has become of a node with an anchor. Its value is missing while it is being
found. -/
structure Visit where
  uses : Nat := 1
  /-- The greatest count of uses among what the node repeats itself, once it is known. -/
  weight : Nat := 0
  value : Option Json := none

/-- Visits under the places of the anchors, the latest first. -/
abbrev Visits := List (Nat × Visit)

namespace Visits

def change (place : Nat) (f : Visit → Visit) : Visits → Visits
  | [] => []
  | (o, v) :: rest => if o = place then (o, f v) :: rest else (o, v) :: change place f rest

/-- Starts a visit, anew if there has been one. -/
def start (place : Nat) (t : Visits) : Visits :=
  if (t.lookup place).isSome then t.change place fun _ => {} else (place, {}) :: t

end Visits

/-! ## Weights -/

/-- The uses of what an alias repeats, multiplied by its weight. -/
def Visit.load (v : Visit) : Nat := v.uses * v.weight

/-- The greatest load that is accepted. -/
def greatestLoad : Nat := 100

mutual

/-- The weight of a node: one for a scalar, and for an alias the load of what it repeats. -/
def weight (s : Scope) (t : Visits) : Node → Nat
  | .repetition name offset _ =>
    (((s.source? name offset).bind fun e => t.lookup e.1.offset).map Visit.load).getD 0
  | .scalar .. => 1
  | .sequence _ items => itemsWeight s t items
  | .mapping _ _ entries | .pairs _ _ entries => entriesWeight s t entries

def itemsWeight (s : Scope) (t : Visits) : List Node → Nat
  | [] => 0
  | item :: rest => max (weight s t item) (itemsWeight s t rest)

def entriesWeight (s : Scope) (t : Visits) : List (Node × Option Node) → Nat
  | [] => 0
  | (k, none) :: rest => max (max (weight s t k) 1) (entriesWeight s t rest)
  | (k, some v) :: rest => max (max (weight s t k) (weight s t v)) (entriesWeight s t rest)

end

/-! ## Aliases inside what they repeat -/

mutual

/-- How many aliases a node holds. -/
def aliases : Node → Nat
  | .repetition .. => 1
  | .scalar .. => 0
  | .sequence _ items => aliasesOfItems items
  | .mapping _ _ entries | .pairs _ _ entries => aliasesOfEntries entries

def aliasesOfItems : List Node → Nat
  | [] => 0
  | item :: rest => aliases item + aliasesOfItems rest

def aliasesOfEntries : List (Node × Option Node) → Nat
  | [] => 0
  | (k, none) :: rest => aliases k + aliasesOfEntries rest
  | (k, some v) :: rest => aliases k + aliases v + aliasesOfEntries rest

end

/-- How many times a node that holds an alias of itself is laid out inside itself. The more
aliases there are, the fewer. -/
def turnsFor (count : Nat) : Nat :=
  if count ≤ 2 then 5 else if count ≤ 5 then 4 else if count ≤ 20 then 2
  else if count ≤ 100 then 1 else 0

/-- What stands for a node where it is laid out no further. -/
def stub : Node → Json
  | .sequence .. | .pairs _ .records _ => .array []
  | .mapping _ .set _ => .set
  | .pairs _ .orderedMapping _ => .orderedMapping
  | _ => .object []

end Yaml
end Rollout
