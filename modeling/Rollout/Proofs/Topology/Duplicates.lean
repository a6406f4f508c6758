import Rollout.Proofs.Topology.Modes

/-
Ids given twice. Ids are compared once the payloads have been read, and only those of the
nodes that came through. So a record that is left out takes its id with it, and a strict
decoding may have ended with another fault before the ids are looked at.
-/
namespace Rollout

namespace RawTopology

variable {raw : RawTopology}

/-- The ids of the records of nodes. -/
def ids (raw : RawTopology) : List String := raw.nodes.map RawNode.id

/-- The nodes that are read are the readable records, under the same ids. -/
theorem map_id_filterMap_read? (raws : List RawNode) :
    (raws.filterMap RawNode.read?).map Vertex.id =
      (raws.filter fun r => r.read?.isSome).map RawNode.id := by
  induction raws with
  | nil => rfl
  | cons r rest ih =>
    cases hread : r.read? with
    | none =>
      rw [List.filterMap_cons_none hread, ih, List.filter_cons_of_neg (by rw [hread]; decide)]
    | some v =>
      rw [List.filterMap_cons_some hread, List.map_cons, ih,
        List.filter_cons_of_pos (by rw [hread]; rfl), List.map_cons,
        (RawNode.read?_eq_some_iff.1 hread).1]

theorem exists_topology_iff : (∃ t, raw.topology = .ok t) ↔ raw.readable.ids.Nodup := by
  rw [topology, Topology.exists_ofParts_iff, map_id_filterMap_read?]
  rfl

theorem exists_decode_skip_iff :
    (∃ d, (raw.decode .skip).result = .ok d) ↔ raw.readable.ids.Nodup := by
  rw [← exists_topology_iff, result_decode_skip]
  cases raw.topology <;> simp [Except.map]

theorem repeated_of_topology {f : Fault} (h : raw.topology = .error f) :
    ∃ id, f = .ofDuplicate id ∧ 2 ≤ raw.readable.ids.count id := by
  obtain ⟨id, hf, hcount⟩ := Topology.repeated_of_ofParts h
  rw [map_id_filterMap_read?] at hcount
  exact ⟨id, hf, hcount⟩

theorem repeated_of_decode_skip {f : Fault} (h : (raw.decode .skip).result = .error f) :
    ∃ id, f = .ofDuplicate id ∧ 2 ≤ raw.readable.ids.count id := by
  rw [result_decode_skip, map_eq_error_iff] at h
  exact repeated_of_topology h

/-- Where every node can be read, no id is lost before ids are compared. -/
theorem ids_readable (h : ∀ r ∈ raw.nodes, r.Readable) : raw.readable.ids = raw.ids := by
  have hall : raw.readable.nodes = raw.nodes :=
    List.filter_eq_self.2 fun r hr => RawNode.isSome_read?_iff.2 (h r hr)
  rw [ids, hall, ids]

theorem result_decode_reject_of_repeated (h : ¬raw.ids.Nodup)
    (hedge : ∀ r is, ¬raw.FirstUnreadableEdge r is) :
    ∃ f, (raw.decode .reject).result = .error f ∧ f.kind = .invalidNode := by
  rcases raw.exists_firstUnreadable with ⟨hnodes, hedges⟩ | ⟨r, is, hfirst⟩ | ⟨r, is, hfirst⟩
  -- Only where everything can be read do the ids decide.
  · have hdecode := result_decode_reject_of_nil (refusals_eq_nil_iff.2 ⟨hnodes, hedges⟩)
    cases htopology : raw.topology with
    | ok t =>
      have hnodup := exists_topology_iff.1 ⟨t, htopology⟩
      rw [ids_readable hnodes] at hnodup
      exact absurd hnodup h
    | error f =>
      obtain ⟨id, rfl, -⟩ := repeated_of_topology htopology
      rw [htopology] at hdecode
      exact ⟨_, hdecode, rfl⟩
  · exact ⟨_, result_decode_reject_of_firstNode hfirst, rfl⟩
  · exact absurd hfirst (hedge r is)

/-- Two records of one id. Leniently they are refused where two of them can be read, and
the fault names such an id. Strictly they are always refused, and for a node, unless all
nodes can be read and some edge cannot: then the first such edge is named. -/
theorem repeated_ids_refused (h : ¬raw.ids.Nodup) :
    ((∃ f, (raw.decode .skip).result = .error f) ↔ ¬raw.readable.ids.Nodup) ∧
    (∀ f, (raw.decode .skip).result = .error f →
      f.kind = .invalidNode ∧ ∃ id, f = .ofDuplicate id ∧ 2 ≤ raw.readable.ids.count id) ∧
    ((∀ r is, ¬raw.FirstUnreadableEdge r is) →
      ∃ f, (raw.decode .reject).result = .error f ∧ f.kind = .invalidNode) ∧
    ∀ r is, raw.FirstUnreadableEdge r is →
      (raw.decode .reject).result = .error (Decoded.undecodableEdge r.source r.target is) := by
  refine ⟨?_, fun f hf => ?_, result_decode_reject_of_repeated h,
    fun r is hfirst => result_decode_reject_of_firstEdge hfirst⟩
  · rw [← exists_decode_skip_iff]
    cases (raw.decode .skip).result <;> simp
  · obtain ⟨id, rfl, hcount⟩ := repeated_of_decode_skip hf
    exact ⟨rfl, id, rfl, hcount⟩

end RawTopology

/-- A service as a payload says it, and a payload that says nothing. -/
def apiRecord : Json :=
  .object [("kind", .text "service"), ("name", .text "api"), ("command", .text "serve")]

def emptyRecord : Json := .object []

/-- Two records of one id, and one edge between them. -/
def twins (second edge : Json) : RawTopology where
  nodes := [⟨"api", some apiRecord⟩, ⟨"api", some second⟩]
  edges := [⟨"api", "api", some edge⟩]

def balancingRecord : Json := .object [("kind", .text "load_balances")]

theorem readable_apiRecord : (⟨"api", some apiRecord⟩ : RawNode).Readable := ⟨_, rfl⟩

theorem firstUnreadableEdge_twins :
    ∃ is, (twins apiRecord emptyRecord).FirstUnreadableEdge ⟨"api", "api", some emptyRecord⟩ is := by
  have hnodes : ∀ q ∈ (twins apiRecord emptyRecord).nodes, q.Readable := by
    intro q hq
    rcases List.mem_cons.1 hq with rfl | hq
    · exact readable_apiRecord
    · rw [List.mem_singleton.1 hq]
      exact readable_apiRecord
  exact ⟨_, hnodes, [], [], rfl, fun q hq => absurd hq List.not_mem_nil, rfl⟩

theorem repeated_ids_of_twins :
    (∃ f, ((twins apiRecord balancingRecord).decode .skip).result = .error f ∧
      f.kind = .invalidNode) ∧
    ∃ is, ((twins apiRecord emptyRecord).decode .reject).result =
      .error (Decoded.undecodableEdge "api" "api" is) := by
  constructor
  · have hids : ¬(twins apiRecord balancingRecord).readable.ids.Nodup := by decide +kernel
    obtain ⟨hrefused, hfault, -⟩ :=
      RawTopology.repeated_ids_refused
        (by decide : ¬(twins apiRecord balancingRecord).ids.Nodup)
    obtain ⟨f, hf⟩ := hrefused.2 hids
    exact ⟨f, hf, (hfault f hf).1⟩
  · obtain ⟨is, hfirst⟩ := firstUnreadableEdge_twins
    obtain ⟨-, -, -, hedge⟩ :=
      RawTopology.repeated_ids_refused (by decide : ¬(twins apiRecord emptyRecord).ids.Nodup)
    exact ⟨is, hedge ⟨"api", "api", some emptyRecord⟩ is hfirst⟩

/-- One id twice, and no fault of a node: a second record that cannot be read is left out,
and an edge that cannot be read is refused before ids are compared. -/
theorem repeated_id_without_node_fault :
    ¬(twins emptyRecord balancingRecord).ids.Nodup ∧
    (∃ d, ((twins emptyRecord balancingRecord).decode .skip).result = .ok d) ∧
    ¬(twins apiRecord emptyRecord).ids.Nodup ∧
    ∃ f, ((twins apiRecord emptyRecord).decode .reject).result = .error f ∧
      f.kind = .invalidEdge := by
  have hids : (twins emptyRecord balancingRecord).readable.ids.Nodup := by decide +kernel
  obtain ⟨is, hfirst⟩ := firstUnreadableEdge_twins
  exact ⟨by decide, RawTopology.exists_decode_skip_iff.2 hids, by decide, _,
    RawTopology.result_decode_reject_of_firstEdge hfirst, rfl⟩

end Rollout
