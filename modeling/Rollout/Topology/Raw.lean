import Rollout.Json.Basic

/-
Raw topologies: identifiers with payloads nobody has looked at yet. A payload may be
absent. Records may repeat, and edges may name ids that no node has.
-/
namespace Rollout

structure RawNode where
  id : String
  data : Option Json

structure RawEdge where
  source : String
  target : String
  data : Option Json

structure RawTopology where
  nodes : List RawNode
  edges : List RawEdge

namespace RawTopology

def empty : RawTopology := ⟨[], []⟩

/-- The first record of an id. -/
def node? (t : RawTopology) (id : String) : Option RawNode := t.nodes.find? (·.id = id)

def edgesFrom (t : RawTopology) (id : String) : List RawEdge := t.edges.filter (·.source = id)

def edgesTo (t : RawTopology) (id : String) : List RawEdge := t.edges.filter (·.target = id)

end RawTopology
end Rollout
