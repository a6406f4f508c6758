import Rollout.Log.Event
import Rollout.Schema.Edge
import Rollout.Topology.Basic
import Rollout.Topology.Raw

/-
From raw to typed topologies. Payloads are read once, here. A payload that cannot be
read is either left out and reported or refused; ids given twice are refused either
way. Nothing is reported about a topology that is not produced.
-/
namespace Rollout

/-- What to do with a record whose payload cannot be read. -/
inductive OnInvalid where
  | skip | reject
  deriving DecidableEq

/-- A topology and the records left out of it. -/
structure Decoded where
  topology : Topology
  skipped : List Skipped

namespace Decoded

def undecodableNode (id : String) (is : Schema.Issues) : Fault :=
  .invalidNode ("node '" ++ id ++ "' has an undecodable payload (" ++ is.text ++ ")") (some id)

def undecodableEdge (source target : String) (is : Schema.Issues) : Fault :=
  .invalidEdge
    ("edge '" ++ source ++ "' -> '" ++ target ++ "' has an undecodable payload (" ++ is.text ++ ")")
    (some source) (some target)

/-- The nodes that can be read and the ones left out. -/
def nodes (mode : OnInvalid) : List RawNode → Except Fault (List Vertex × List Skipped)
  | [] => .ok ([], [])
  | raw :: rest =>
    match Schema.node raw.data with
    | .valid node => (nodes mode rest).map fun (vs, out) => (⟨raw.id, node⟩ :: vs, out)
    | .faulty is =>
      match mode with
      | .reject => .error (undecodableNode raw.id is)
      | .skip => (nodes mode rest).map fun (vs, out) => (vs, ⟨.node, raw.id, is.text⟩ :: out)

/-- The edges that can be read and the ones left out. -/
def edges (mode : OnInvalid) : List RawEdge → Except Fault (List Link × List Skipped)
  | [] => .ok ([], [])
  | raw :: rest =>
    match Schema.edge raw.data with
    | .valid edge =>
      (edges mode rest).map fun (ls, out) => (⟨raw.source, raw.target, edge⟩ :: ls, out)
    | .faulty is =>
      match mode with
      | .reject => .error (undecodableEdge raw.source raw.target is)
      | .skip =>
        (edges mode rest).map fun (ls, out) =>
          (ls, ⟨.edge, raw.source ++ "->" ++ raw.target, is.text⟩ :: out)

/-- Reads every payload, nodes before edges, and builds the topology. -/
def ofRaw (mode : OnInvalid) (raw : RawTopology) : Except Fault Decoded := do
  let (vertices, skippedNodes) ← nodes mode raw.nodes
  let (links, skippedEdges) ← edges mode raw.edges
  let topology ← Topology.ofParts vertices links
  return ⟨topology, skippedNodes ++ skippedEdges⟩

/-- The events of a decoding: one for every record left out, then the summary. -/
def events (d : Decoded) : List Log.Event :=
  d.skipped.map .recordSkipped
    ++ [.decoded d.topology.size d.topology.links.length d.skipped.length]

end Decoded

/-- Decodes a raw topology. A decoding that fails reports nothing. -/
def RawTopology.decode (mode : OnInvalid) (raw : RawTopology) : Outcome Decoded :=
  match Decoded.ofRaw mode raw with
  | .ok d => ⟨d.events, .ok d⟩
  | .error fault => ⟨[], .error fault⟩

namespace Topology

/-- The raw records of a topology. -/
def toRaw (t : Topology) : RawTopology where
  nodes := t.vertices.map fun v => ⟨v.id, some (Schema.nodeJson v.node)⟩
  edges := t.links.map fun l => ⟨l.source, l.target, some (Schema.edgeJson l.edge)⟩

/-- The topology of raw records, every one of which has to be readable. -/
def build (nodes : List RawNode) (edges : List RawEdge) : Except Fault Topology :=
  (Decoded.ofRaw .reject ⟨nodes, edges⟩).map Decoded.topology

end Topology
end Rollout
