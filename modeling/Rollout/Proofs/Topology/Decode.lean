import Rollout.Proofs.Topology.Parts
import Rollout.Topology.Decode

/-
Where the parts of a decoded topology come from: every node of it was read from a raw
record of its id, and the topology is the one of the parts that were read. What the two
modes make of a list of records is said once, for nodes and for edges: the parts that can
be read, and the refusals of those that cannot.
-/
namespace Rollout

theorem map_eq_ok_iff {ε α β : Type} {f : α → β} {x : Except ε α} {b : β} :
    x.map f = .ok b ↔ ∃ a, x = .ok a ∧ f a = b := by
  cases x <;> simp [Except.map]

theorem map_eq_error_iff {ε α β : Type} {f : α → β} {x : Except ε α} {e : ε} :
    x.map f = .error e ↔ x = .error e := by
  cases x <;> simp [Except.map]

/-! ## Records that can be read -/

/-- What a record is read as. -/
def RawNode.read? (raw : RawNode) : Option Vertex :=
  (Schema.node raw.data).toOption.map fun node => ⟨raw.id, node⟩

def RawEdge.read? (raw : RawEdge) : Option Link :=
  (Schema.edge raw.data).toOption.map fun edge => ⟨raw.source, raw.target, edge⟩

theorem RawNode.read?_eq_some_iff {raw : RawNode} {v : Vertex} :
    raw.read? = some v ↔ raw.id = v.id ∧ Schema.node raw.data = .valid v.node := by
  obtain ⟨id, node⟩ := v
  cases hnode : Schema.node raw.data <;> simp [read?, Schema.Checked.toOption, hnode]

theorem RawEdge.read?_eq_some_iff {raw : RawEdge} {l : Link} :
    raw.read? = some l ↔
      raw.source = l.source ∧ raw.target = l.target ∧ Schema.edge raw.data = .valid l.edge := by
  obtain ⟨source, target, edge⟩ := l
  cases hedge : Schema.edge raw.data <;> simp [read?, Schema.Checked.toOption, hedge]

/-! ## Records that cannot be read -/

/-- A record that cannot be read: how it is reported where it is left out, and the fault
where it is refused. -/
structure Refusal where
  entry : Skipped
  fault : Fault

namespace RawNode

def refusal (raw : RawNode) (is : Schema.Issues) : Refusal :=
  ⟨⟨.node, raw.id, is.text⟩, Decoded.undecodableNode raw.id is⟩

def refusal? (raw : RawNode) : Option Refusal :=
  match Schema.node raw.data with
  | .valid _ => none
  | .faulty is => some (raw.refusal is)

end RawNode

namespace RawEdge

def refusal (raw : RawEdge) (is : Schema.Issues) : Refusal :=
  ⟨⟨.edge, raw.source ++ "->" ++ raw.target, is.text⟩,
    Decoded.undecodableEdge raw.source raw.target is⟩

def refusal? (raw : RawEdge) : Option Refusal :=
  match Schema.edge raw.data with
  | .valid _ => none
  | .faulty is => some (raw.refusal is)

end RawEdge

namespace RawTopology

/-- The records that cannot be read, nodes before edges. -/
def refusals (raw : RawTopology) : List Refusal :=
  raw.nodes.filterMap RawNode.refusal? ++ raw.edges.filterMap RawEdge.refusal?

/-- The topology of the records that can be read. -/
def topology (raw : RawTopology) : Except Fault Topology :=
  Topology.ofParts (raw.nodes.filterMap RawNode.read?) (raw.edges.filterMap RawEdge.read?)

end RawTopology

namespace Decoded

/-- What comes of records that are read as parts and partly refused: the parts beside the
reports, or the fault of the first refusal. -/
def settle {α : Type} (mode : OnInvalid) (parts : List α) (refused : List Refusal) :
    Except Fault (List α × List Skipped) :=
  match mode, refused with
  | .reject, first :: _ => .error first.fault
  | _, _ => .ok (parts, refused.map Refusal.entry)

section Settle

variable {α : Type} {mode : OnInvalid} {parts : List α} {refused : List Refusal}

theorem settle_skip : settle .skip parts refused = .ok (parts, refused.map Refusal.entry) := by
  cases refused <;> rfl

theorem settle_reject_nil : settle .reject parts [] = .ok (parts, []) := rfl

theorem settle_reject_cons {first : Refusal} :
    settle .reject parts (first :: refused) = .error first.fault := rfl

theorem map_settle_cons (a : α) :
    ((settle mode parts refused).map fun (as, out) => (a :: as, out)) =
      settle mode (a :: parts) refused := by
  cases mode with
  | skip =>
    rw [settle_skip, settle_skip]
    rfl
  | reject => cases refused <;> rfl

theorem map_settle_skip_cons (r : Refusal) :
    ((settle .skip parts refused).map fun (as, out) => (as, r.entry :: out)) =
      settle .skip parts (r :: refused) := by
  rw [settle_skip, settle_skip]
  rfl

end Settle

/-- Nodes are read one by one, each either a part or a refusal. -/
theorem nodes_eq_settle (mode : OnInvalid) (raws : List RawNode) :
    nodes mode raws =
      settle mode (raws.filterMap RawNode.read?) (raws.filterMap RawNode.refusal?) := by
  induction raws with
  | nil => cases mode <;> rfl
  | cons raw rest ih =>
    rw [nodes, List.filterMap_cons, List.filterMap_cons, RawNode.read?, RawNode.refusal?, ih]
    cases Schema.node raw.data with
    | valid node => exact map_settle_cons _
    | faulty is =>
      -- Strictly, the first refusal decides, so nothing has to be known of the rest.
      cases mode with
      | skip => exact map_settle_skip_cons (raw.refusal is)
      | reject => rfl

theorem edges_eq_settle (mode : OnInvalid) (raws : List RawEdge) :
    edges mode raws =
      settle mode (raws.filterMap RawEdge.read?) (raws.filterMap RawEdge.refusal?) := by
  induction raws with
  | nil => cases mode <;> rfl
  | cons raw rest ih =>
    rw [edges, List.filterMap_cons, List.filterMap_cons, RawEdge.read?, RawEdge.refusal?, ih]
    cases Schema.edge raw.data with
    | valid edge => exact map_settle_cons _
    | faulty is =>
      cases mode with
      | skip => exact map_settle_skip_cons (raw.refusal is)
      | reject => rfl

theorem ofRaw_of_ok {mode : OnInvalid} {raw : RawTopology} {vs : List Vertex} {ls : List Link}
    {outNodes outEdges : List Skipped} (hnodes : nodes mode raw.nodes = .ok (vs, outNodes))
    (hedges : edges mode raw.edges = .ok (ls, outEdges)) :
    ofRaw mode raw = (Topology.ofParts vs ls).map fun t => ⟨t, outNodes ++ outEdges⟩ := by
  rw [ofRaw, hnodes, hedges]
  simp only [bind, Except.bind]
  cases Topology.ofParts vs ls <;> rfl

end Decoded

namespace RawTopology

theorem result_decode (mode : OnInvalid) (raw : RawTopology) :
    (raw.decode mode).result = Decoded.ofRaw mode raw := by
  rw [decode]
  cases Decoded.ofRaw mode raw <;> rfl

/-- The lenient decoding is the topology of what can be read, with a report of the rest. -/
theorem result_decode_skip (raw : RawTopology) :
    (raw.decode .skip).result =
      raw.topology.map fun t => ⟨t, raw.refusals.map Refusal.entry⟩ := by
  have hnodes := (Decoded.nodes_eq_settle .skip raw.nodes).trans Decoded.settle_skip
  have hedges := (Decoded.edges_eq_settle .skip raw.edges).trans Decoded.settle_skip
  rw [result_decode, Decoded.ofRaw_of_ok hnodes hedges, refusals, List.map_append]
  rfl

theorem result_decode_reject_of_nil {raw : RawTopology} (h : raw.refusals = []) :
    (raw.decode .reject).result = raw.topology.map fun t => ⟨t, []⟩ := by
  obtain ⟨hnodes, hedges⟩ := List.append_eq_nil_iff.1 h
  have hreadNodes := Decoded.nodes_eq_settle .reject raw.nodes
  have hreadEdges := Decoded.edges_eq_settle .reject raw.edges
  rw [hnodes, Decoded.settle_reject_nil] at hreadNodes
  rw [hedges, Decoded.settle_reject_nil] at hreadEdges
  rw [result_decode, Decoded.ofRaw_of_ok hreadNodes hreadEdges]
  rfl

/-- The strict decoding stops at the first record that cannot be read. -/
theorem result_decode_reject_of_cons {raw : RawTopology} {first : Refusal}
    {rest : List Refusal} (h : raw.refusals = first :: rest) :
    (raw.decode .reject).result = .error first.fault := by
  rw [result_decode, Decoded.ofRaw, Decoded.nodes_eq_settle, Decoded.edges_eq_settle]
  rcases List.append_eq_cons_iff.1 h with ⟨hnodes, hedges⟩ | ⟨more, hnodes, -⟩
  · rw [hnodes, hedges, Decoded.settle_reject_nil, Decoded.settle_reject_cons]
    rfl
  · rw [hnodes, Decoded.settle_reject_cons]
    rfl

/-- Whatever the mode, a decoding that succeeds gives the topology of the records that can
be read and reports the others. -/
theorem topology_of_decode {mode : OnInvalid} {raw : RawTopology} {d : Decoded}
    (h : (raw.decode mode).result = .ok d) :
    raw.topology = .ok d.topology ∧ d.skipped = raw.refusals.map Refusal.entry := by
  cases mode with
  | skip =>
    rw [result_decode_skip] at h
    obtain ⟨t, ht, rfl⟩ := map_eq_ok_iff.1 h
    exact ⟨ht, rfl⟩
  | reject =>
    cases hrefusals : raw.refusals with
    | nil =>
      rw [result_decode_reject_of_nil hrefusals] at h
      obtain ⟨t, ht, rfl⟩ := map_eq_ok_iff.1 h
      exact ⟨ht, rfl⟩
    | cons first rest =>
      rw [result_decode_reject_of_cons hrefusals] at h
      cases h

theorem vertices_of_decode {mode : OnInvalid} {raw : RawTopology} {d : Decoded}
    (h : (raw.decode mode).result = .ok d) :
    d.topology.vertices = raw.nodes.filterMap RawNode.read? :=
  (Topology.parts_of_ofParts (topology_of_decode h).1).1

theorem links_of_decode {mode : OnInvalid} {raw : RawTopology} {d : Decoded}
    (h : (raw.decode mode).result = .ok d) :
    d.topology.links = raw.edges.filterMap RawEdge.read? :=
  (Topology.parts_of_ofParts (topology_of_decode h).1).2

/-- Every node of a decoded topology was read from a record of its id. -/
theorem exists_raw_of_decode {mode : OnInvalid} {raw : RawTopology} {d : Decoded}
    (h : (raw.decode mode).result = .ok d) :
    ∀ v ∈ d.topology.vertices,
      ∃ r ∈ raw.nodes, r.id = v.id ∧ Schema.node r.data = .valid v.node := by
  intro v hv
  rw [vertices_of_decode h] at hv
  obtain ⟨r, hr, hread⟩ := List.mem_filterMap.1 hv
  exact ⟨r, hr, RawNode.read?_eq_some_iff.1 hread⟩

/-- Every edge of a decoded topology was read from a record of its ends. -/
theorem exists_rawEdge_of_decode {mode : OnInvalid} {raw : RawTopology} {d : Decoded}
    (h : (raw.decode mode).result = .ok d) :
    ∀ l ∈ d.topology.links, ∃ r ∈ raw.edges,
      r.source = l.source ∧ r.target = l.target ∧ Schema.edge r.data = .valid l.edge := by
  intro l hl
  rw [links_of_decode h] at hl
  obtain ⟨r, hr, hread⟩ := List.mem_filterMap.1 hl
  exact ⟨r, hr, RawEdge.read?_eq_some_iff.1 hread⟩

/-- Some record of the id can be read. -/
def Declares (raw : RawTopology) (id : String) : Prop :=
  ∃ r ∈ raw.nodes, r.id = id ∧ ∃ node, Schema.node r.data = .valid node

theorem declares_iff {mode : OnInvalid} {raw : RawTopology} {d : Decoded}
    (h : (raw.decode mode).result = .ok d) {id : String} :
    raw.Declares id ↔ id ∈ d.topology.ids := by
  rw [Topology.ids, vertices_of_decode h, Declares]
  constructor
  · rintro ⟨r, hr, rfl, node, hnode⟩
    have hread : r.read? = some ⟨r.id, node⟩ := RawNode.read?_eq_some_iff.2 ⟨rfl, hnode⟩
    exact List.mem_map_of_mem (f := Vertex.id) (List.mem_filterMap.2 ⟨r, hr, hread⟩)
  · intro hid
    obtain ⟨v, hv, rfl⟩ := List.mem_map.1 hid
    obtain ⟨r, hr, hread⟩ := List.mem_filterMap.1 hv
    obtain ⟨hrid, hnode⟩ := RawNode.read?_eq_some_iff.1 hread
    exact ⟨r, hr, hrid, v.node, hnode⟩

end RawTopology
end Rollout
