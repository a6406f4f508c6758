import Rollout.Fault
import Rollout.Log.Entry

/-
What the planner reports about its work. Each event has a level, a name and a payload;
operations give their events beside their result, in the order in which they happened.
-/
namespace Rollout

/-- Which sort of record a payload belongs to. -/
inductive RecordSort where
  | node | edge
  deriving DecidableEq

instance : Worded RecordSort where
  members := [.node, .edge]
  word
    | .node => "node"
    | .edge => "edge"

/-- A record left out of a topology, and why. -/
structure Skipped where
  sort : RecordSort
  /-- The id of a node, or both ids of an edge joined by an arrow. -/
  ref : String
  reason : String
  deriving DecidableEq

/-- How many entries each collection of a plan has. -/
structure PlanCounts where
  services : Nat
  databases : Nat
  agents : Nat
  messageBuses : Nat
  loadBalancers : Nat
  storageVolumes : Nat
  deriving DecidableEq

namespace Log

inductive Event where
  | recordSkipped (record : Skipped)
  | decoded (nodes edges skipped : Nat)
  | validationFailed (check : String) (fault : Fault)
  | validated (nodes checks : Nat)
  | backendUnresolved (balancer backend reason : String)
  | planned (order : List String) (counts : PlanCounts)
  deriving DecidableEq

namespace Event

def level : Event → Level
  | .recordSkipped _ => .warn
  | .decoded .. => .debug
  | .validationFailed .. => .warn
  | .validated .. => .debug
  | .backendUnresolved .. => .warn
  | .planned .. => .info

def message : Event → String
  | .recordSkipped _ => "topology_record_skipped"
  | .decoded .. => "topology_decoded"
  | .validationFailed .. => "topology_validation_failed"
  | .validated .. => "topology_validated"
  | .backendUnresolved .. => "load_balancer_backend_unresolved"
  | .planned .. => "topology_translated"

def payload : Event → Json
  | .recordSkipped r =>
    .object
      [("type", .text (Worded.word r.sort)), ("ref", .text r.ref), ("reason", .text r.reason)]
  | .decoded nodes edges skipped =>
    .object [("nodes", .nat nodes), ("edges", .nat edges), ("skipped", .nat skipped)]
  | .validationFailed check fault =>
    .object
      [("check", .text check), ("code", .text fault.code.text),
        ("kind", .text (Worded.word fault.kind)), ("message", .text fault.message),
        ("details", .object fault.details)]
  | .validated nodes checks => .object [("nodes", .nat nodes), ("checks", .nat checks)]
  | .backendUnresolved balancer backend reason =>
    .object
      [("load_balancer", .text balancer), ("backend", .text backend), ("reason", .text reason)]
  | .planned order counts =>
    .object
      [("order", .texts order), ("services", .nat counts.services),
        ("databases", .nat counts.databases), ("agents", .nat counts.agents),
        ("message_buses", .nat counts.messageBuses),
        ("load_balancers", .nat counts.loadBalancers),
        ("storage_volumes", .nat counts.storageVolumes)]

def entry (e : Event) : Entry := ⟨e.level, e.message, some e.payload⟩

end Event
end Log

/-- The result of an operation with the events on the way to it. -/
structure Outcome (α : Type) where
  events : List Log.Event
  result : Except Fault α

namespace Outcome

variable {α β : Type}

def map (f : α → β) (o : Outcome α) : Outcome β := ⟨o.events, o.result.map f⟩

/-- Goes on with the result, if there is one; the events of both parts are kept. -/
def andThen (o : Outcome α) (next : α → Outcome β) : Outcome β :=
  match o.result with
  | .error fault => ⟨o.events, .error fault⟩
  | .ok a => ⟨o.events ++ (next a).events, (next a).result⟩

end Outcome
end Rollout
