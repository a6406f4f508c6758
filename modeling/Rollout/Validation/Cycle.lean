import Rollout.Topology.Basic

/-
Search for a cycle of startup edges: depth first, from every node in topology order,
each node entered once. The nodes under way are a stack of frames, each with the edges
it has still to look at.
-/
namespace Rollout
namespace Cycle

/-- A node under way and the edges it has not looked at yet. -/
structure Frame where
  id : String
  rest : List Link

structure Search where
  /-- The nodes the search has not started from yet. -/
  roots : List String
  /-- The nodes entered so far, the last one first. -/
  entered : List String
  /-- The nodes under way, the innermost first. -/
  frames : List Frame

namespace Search

def start (t : Topology) : Search := ⟨t.ids, [], []⟩

/-- The nodes under way, from the root inwards. -/
def path (s : Search) : List String := (s.frames.map Frame.id).reverse

def onPath (s : Search) (id : String) : Bool := s.frames.any (·.id = id)

def hasEntered (s : Search) (id : String) : Bool := s.entered.contains id

def enter (t : Topology) (s : Search) (id : String) : Search :=
  { s with entered := id :: s.entered, frames := ⟨id, t.edgesFrom id⟩ :: s.frames }

end Search

/-- Whether the search follows an edge: it has to be a startup edge to a node. -/
def follows (t : Topology) (l : Link) : Bool := l.edge.isStartup && t.hasNode l.target

/-- What a step of the search leads to. -/
inductive Progress where
  | next (s : Search)
  | found (cycle : List String)
  | finished

/-- One step: look at the next edge of the innermost frame, leave the frame, or start
from the next root. An edge back to the path closes a cycle. -/
def step (t : Topology) (s : Search) : Progress :=
  match s.frames with
  | [] =>
    match s.roots with
    | [] => .finished
    | root :: roots =>
      let s' := { s with roots }
      .next (if s.hasEntered root then s' else s'.enter t root)
  | ⟨_, []⟩ :: outer => .next { s with frames := outer }
  | ⟨id, l :: rest⟩ :: outer =>
    let s' := { s with frames := ⟨id, rest⟩ :: outer }
    if !follows t l then .next s'
    else if s'.onPath l.target then
      .found (s'.path.dropWhile (· != l.target) ++ [l.target])
    else if s'.hasEntered l.target then .next s'
    else .next (s'.enter t l.target)

/-- The cycle found within so many steps. -/
def run (t : Topology) : Nat → Search → Option (List String)
  | 0, _ => none
  | n + 1, s =>
    match step t s with
    | .next s' => run t n s'
    | .found cycle => some cycle
    | .finished => none

/-- A bound of the steps: every node is a root once and left once, every edge looked at
once. -/
def stepBound (t : Topology) : Nat := 2 * t.size + t.links.length + 1

/-- The cycle the search meets first, its first node repeated at the end. -/
def find? (t : Topology) : Option (List String) := run t (stepBound t) (.start t)

end Cycle
end Rollout
