import Rollout.Topology.Basic
import Rollout.Validation.Cycle

/-
The single checks of a topology. Each reports the first fault of its sort, or nothing.
-/
namespace Rollout
namespace Validation

def cycleFault (t : Topology) : Option Fault := (Cycle.find? t).map .ofCycle

/-! ## Targets -/

/-- The first edge that needs its target and has none. -/
def targetFault (t : Topology) : Option Fault :=
  (t.links.find? fun l => l.edge.needsTarget && !t.hasNode l.target).map fun l =>
    .missingDependency l.source l.target

/-! ## Ports -/

/-- The names of the nodes that expose each port, in topology order. -/
def portUsage (t : Topology) : Grouping Nat String :=
  .ofList (t.vertices.flatMap fun v => v.node.exposedPorts.map fun p => (p, v.node.name))

/-- The entry with the lowest port. -/
def lowestPort : List (Nat × List String) → Option (Nat × List String)
  | [] => none
  | entry :: rest =>
    match lowestPort rest with
    | some other => if other.1 < entry.1 then some other else some entry
    | none => some entry

/-- The lowest port that several nodes expose. -/
def portFault (t : Topology) : Option Fault :=
  (lowestPort ((portUsage t).filter fun entry => decide (1 < entry.2.length))).map fun entry =>
    .portConflict entry.1 entry.2

/-! ## Mounts -/

/-- The items without repetitions, each where it first stood. -/
def distinct : List String → List String
  | [] => []
  | x :: rest => x :: (distinct rest).filter fun y => y != x

/-- The sources that mount each path for writing, in edge order. -/
def writers (t : Topology) : Grouping String String :=
  .ofList (t.links.filterMap fun l => l.edge.writablePath?.map fun path => (path, l.source))

/-- The first path, by its first writer, that several sources mount for writing. -/
def mountFault (t : Topology) : Option Fault :=
  (((writers t).map fun entry => (entry.1, distinct entry.2)).find? fun entry =>
      decide (1 < entry.2.length)).map fun entry =>
    .storageConflict entry.1 entry.2

/-! ## Single nodes -/

/-- The first node with a problem of its own. -/
def nodeFault (t : Topology) : Option Fault :=
  t.vertices.findSome? fun v =>
    v.node.problem?.map fun p => .invalidNode p.text (some v.id)

/-- The first node that no edge touches. A node that is alone in its topology may be. -/
def orphanFault (t : Topology) : Option Fault :=
  if t.size < 2 then none
  else
    (t.vertices.find? fun v => (t.edgesFrom v.id).isEmpty && (t.edgesTo v.id).isEmpty).map
      fun v => .orphanedNode v.id

end Validation
end Rollout
