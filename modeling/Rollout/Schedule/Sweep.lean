import Rollout.Schedule.Queue
import Rollout.Topology.Basic

/-
The start order of a topology. A sweep counts for every node the startup edges whose
target is not placed yet, and places, one after the other, the smallest id that waits
for nothing. It places every node unless the startup edges form a cycle.
-/
namespace Rollout
namespace Schedule

/-- Whether an edge orders two nodes of the topology. -/
def isOrdering (t : Topology) (l : Link) : Bool :=
  l.edge.isStartup && t.hasNode l.source && t.hasNode l.target

/-! ## Counters -/

/-- How many startup edges each node still waits for, in topology order. -/
abbrev Counters := List (String × Int)

namespace Counters

def get : Counters → String → Int
  | [], _ => 0
  | (k, n) :: rest, id => if k = id then n else get rest id

/-- Changes the counter of one node. -/
def add : Counters → String → Int → Counters
  | [], _, _ => []
  | (k, n) :: rest, id, d => if k = id then (k, n + d) :: rest else (k, n) :: add rest id d

end Counters

/-- The counters before anything is placed: one for every startup edge, so parallel
edges count apart. -/
def initialCounters (t : Topology) : Counters :=
  (t.links.filter (isOrdering t)).foldl (fun c l => c.add l.source 1)
    (t.ids.map fun id => (id, 0))

/-! ## Sweep -/

structure Sweep where
  pending : Counters
  /-- The nodes that wait for nothing, in ascending order. -/
  ready : List String
  /-- The nodes placed so far. -/
  order : List String

namespace Sweep

def start (t : Topology) : Sweep :=
  let pending := initialCounters t
  { pending
    ready := sorted ((pending.filter fun c => c.2 = 0).map (·.1))
    order := [] }

/-- Takes one edge off its source's counter; a source that waits for nothing more gets
ready. -/
def release (s : Sweep) (l : Link) : Sweep :=
  let pending := s.pending.add l.source (-1)
  if pending.get l.source = 0 then { s with pending, ready := enqueue s.ready l.source }
  else { s with pending }

/-- Places the smallest ready node and releases the edges that reach it. -/
def step (t : Topology) (s : Sweep) : Sweep :=
  match s.ready with
  | [] => s
  | id :: rest =>
    ((t.edgesTo id).filter (isOrdering t)).foldl release
      { s with ready := rest, order := s.order ++ [id] }

/-- So many steps in turn. -/
def run (t : Topology) : Nat → Sweep → Sweep
  | 0, s => s
  | n + 1, s => run t n (s.step t)

end Sweep

/-- The sweep at its end: every step places a node, so there are no more steps than
nodes. -/
def completed (t : Topology) : Sweep := (Sweep.start t).run t t.size

/-- The start order: every node once, dependencies first, the smallest id first among
those that may come next. Startup edges in a cycle leave nodes unplaced, which is a
fault that names them. -/
def compute (t : Topology) : Except Fault (List String) :=
  let order := (completed t).order
  if order.length = t.size then .ok order
  else .error (.ofUnresolved (sorted (t.ids.filter fun id => !order.contains id)))

end Schedule
end Rollout
