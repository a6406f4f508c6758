import Rollout.Catalog.Edge
import Rollout.Catalog.Node
import Rollout.Fault
import Rollout.Grouping

/-
Topologies of typed nodes and edges. Ids of nodes are distinct; edges may be parallel,
may loop and may name ids that no node has. Both kinds keep the order in which they
were given, and the edges of a node are grouped once, when the topology is built.
-/
namespace Rollout

/-- A node under its id. -/
structure Vertex where
  id : String
  node : Catalog.Node
  deriving DecidableEq

/-- An edge between two ids. -/
structure Link where
  source : String
  target : String
  edge : Catalog.Edge
  deriving DecidableEq

structure Topology where
  vertices : List Vertex
  links : List Link
  /-- No two nodes share an id. -/
  nodup_ids : (vertices.map Vertex.id).Nodup
  outgoing : Grouping String Link := .ofList (links.map fun l => (l.source, l))
  incoming : Grouping String Link := .ofList (links.map fun l => (l.target, l))
  /-- The groups are those of the links. -/
  outgoing_eq : outgoing = .ofList (links.map fun l => (l.source, l)) := by rfl
  incoming_eq : incoming = .ofList (links.map fun l => (l.target, l)) := by rfl

namespace Topology

/-- The first id that repeats one before it. -/
def firstRepeat (seen : List String) : List String → Option String
  | [] => none
  | id :: rest => if id ∈ seen then some id else firstRepeat (id :: seen) rest

theorem nodup_of_firstRepeat_eq_none {seen ids : List String}
    (h : firstRepeat seen ids = none) : ids.Nodup ∧ ∀ id ∈ ids, id ∉ seen := by
  induction ids generalizing seen with
  | nil => simp
  | cons id rest ih =>
    rw [firstRepeat] at h
    split at h
    · cases h
    · rename_i hid
      obtain ⟨hn, hs⟩ := ih h
      refine ⟨List.nodup_cons.2 ⟨fun hmem => hs id hmem List.mem_cons_self, hn⟩, ?_⟩
      intro x hx
      rcases List.mem_cons.1 hx with rfl | hx
      · exact hid
      · exact fun hseen => hs x hx (List.mem_cons_of_mem _ hseen)

/-- The topology of the given nodes and edges. An id given twice is a fault, named
where it is first repeated. -/
def ofParts (vertices : List Vertex) (links : List Link) : Except Fault Topology :=
  match h : firstRepeat [] (vertices.map Vertex.id) with
  | some id => .error (.ofDuplicate id)
  | none => .ok { vertices, links, nodup_ids := (nodup_of_firstRepeat_eq_none h).1 }

def size (t : Topology) : Nat := t.vertices.length

def ids (t : Topology) : List String := t.vertices.map Vertex.id

def vertex? (t : Topology) (id : String) : Option Vertex := t.vertices.find? (·.id = id)

def hasNode (t : Topology) (id : String) : Bool := t.vertices.any (·.id = id)

/-- The edges that leave an id, in topology order. -/
def edgesFrom (t : Topology) (id : String) : List Link := t.outgoing.find id

/-- The edges that reach an id, in topology order. -/
def edgesTo (t : Topology) (id : String) : List Link := t.incoming.find id

/-- Whether an edge makes its source wait for its target. -/
def isStartupLink (l : Link) : Bool := l.edge.isStartup

/-- The ids a node has to wait for, in edge order, whether or not they are nodes. -/
def startupTargets (t : Topology) (id : String) : List String :=
  ((t.edgesFrom id).filter isStartupLink).map Link.target

end Topology
end Rollout
