import Rollout.Proofs.Schema.Written
import Rollout.Proofs.Topology.Modes
import Rollout.Source.Document

/-
Topologies written as documents. A document lists the records of a raw topology; its
envelope gives them back where no id is empty, and payloads pass through it untouched. The
records of a decoded topology decode to that topology again, so nothing is lost on the way
from a topology to its document and back.
-/
namespace Rollout

open Schema Schema.Checked

/-! ## Documents of records -/

def RawNode.members (r : RawNode) : List (String × Option Json) :=
  [("id", some (.text r.id)), ("data", r.data)]

def RawEdge.members (r : RawEdge) : List (String × Option Json) :=
  [("from", some (.text r.source)), ("to", some (.text r.target)), ("data", r.data)]

def RawNode.document (r : RawNode) : Json := present r.members

def RawEdge.document (r : RawEdge) : Json := present r.members

/-- The document that lists the records of a raw topology. -/
def RawTopology.document (raw : RawTopology) : Json :=
  .object
    [("nodes", .array (raw.nodes.map RawNode.document)),
      ("edges", .array (raw.edges.map RawEdge.document))]

/-- No record has an empty id. -/
structure RawTopology.Named (raw : RawTopology) : Prop where
  nodes : ∀ r ∈ raw.nodes, r.id ≠ ""
  edges : ∀ r ∈ raw.edges, r.source ≠ "" ∧ r.target ≠ ""

namespace Source

theorem nodeRecordFields_eq_valid_iff {ms : List (String × Json)} {r : RawNode} :
    nodeRecordFields ms = .valid r ↔
      field "id" nonEmptyText ms = .valid r.id ∧ field "data" anything ms = .valid r.data := by
  constructor
  · intro h
    rw [nodeRecordFields, seq_eq_valid_iff] at h
    simp only [exists_map_iff] at h
    obtain ⟨_, hdata, _, hid, rfl⟩ := h
    exact ⟨hid, hdata⟩
  · rintro ⟨hid, hdata⟩
    rw [nodeRecordFields, hid, hdata]
    rfl

theorem edgeRecordFields_eq_valid_iff {ms : List (String × Json)} {r : RawEdge} :
    edgeRecordFields ms = .valid r ↔
      field "from" nonEmptyText ms = .valid r.source ∧
        field "to" nonEmptyText ms = .valid r.target ∧
        field "data" anything ms = .valid r.data := by
  constructor
  · intro h
    rw [edgeRecordFields, seq_eq_valid_iff] at h
    simp only [exists_seq_iff, exists_map_iff] at h
    obtain ⟨_, hdata, _, htarget, _, hsource, rfl⟩ := h
    exact ⟨hsource, htarget, hdata⟩
  · rintro ⟨hsource, htarget, hdata⟩
    rw [edgeRecordFields, hsource, htarget, hdata]
    rfl

theorem envelopeFields_eq_valid_iff {ms : List (String × Json)} {raw : RawTopology} :
    envelopeFields ms = .valid raw ↔
      field "nodes" (orElse [] (items (object nodeRecordFields))) ms = .valid raw.nodes ∧
        field "edges" (orElse [] (items (object edgeRecordFields))) ms = .valid raw.edges := by
  constructor
  · intro h
    rw [envelopeFields, seq_eq_valid_iff] at h
    simp only [exists_map_iff] at h
    obtain ⟨_, hedges, _, hnodes, rfl⟩ := h
    exact ⟨hnodes, hedges⟩
  · rintro ⟨hnodes, hedges⟩
    rw [envelopeFields, hnodes, hedges]
    rfl

theorem ofDocument_eq_ok_iff {document : Option Json} {source : String} {raw : RawTopology} :
    ofDocument document source = .ok raw ↔ envelope document = .valid raw := by
  rw [ofDocument]
  cases envelope document <;> simp

/-! ## Reading a document -/

theorem read_nodeDocument_iff {r : RawNode} :
    object nodeRecordFields (some r.document) = .valid r ↔ r.id ≠ "" := by
  have hkeys : (r.members.map (·.1)).Nodup := (by decide : ["id", "data"].Nodup)
  show nodeRecordFields (presentMembers r.members) = _ ↔ _
  rw [nodeRecordFields_eq_valid_iff, field_eq_valid_iff, field_eq_valid_iff,
    get?_presentMembers hkeys, get?_presentMembers hkeys, nonEmptyText_eq_valid_iff]
  exact ⟨fun h => h.1.2, fun h => ⟨⟨rfl, h⟩, rfl⟩⟩

theorem read_edgeDocument_iff {r : RawEdge} :
    object edgeRecordFields (some r.document) = .valid r ↔ r.source ≠ "" ∧ r.target ≠ "" := by
  have hkeys : (r.members.map (·.1)).Nodup := (by decide : ["from", "to", "data"].Nodup)
  show edgeRecordFields (presentMembers r.members) = _ ↔ _
  rw [edgeRecordFields_eq_valid_iff, field_eq_valid_iff, field_eq_valid_iff, field_eq_valid_iff,
    get?_presentMembers hkeys, get?_presentMembers hkeys, get?_presentMembers hkeys,
    nonEmptyText_eq_valid_iff, nonEmptyText_eq_valid_iff]
  exact ⟨fun h => ⟨h.1.2, h.2.1.2⟩, fun h => ⟨⟨rfl, h.1⟩, ⟨rfl, h.2⟩, rfl⟩⟩

/-- The envelope asks for names and for nothing else. -/
theorem ofDocument_document_iff {raw : RawTopology} {source : String} :
    ofDocument (some raw.document) source = .ok raw ↔ raw.Named := by
  have hmembers : envelope (some raw.document) = envelopeFields
      [("nodes", .array (raw.nodes.map RawNode.document)),
        ("edges", .array (raw.edges.map RawEdge.document))] := rfl
  rw [ofDocument_eq_ok_iff, hmembers, envelopeFields_eq_valid_iff, field_eq_valid_iff,
    field_eq_valid_iff]
  have hnodes : orElse [] (items (object nodeRecordFields))
      (some (.array (raw.nodes.map RawNode.document))) = .valid raw.nodes ↔
        ∀ r ∈ raw.nodes, r.id ≠ "" := by
    rw [orElse, items_map_eq_valid_iff]
    exact forall₂_congr fun r _ => read_nodeDocument_iff
  have hedges : orElse [] (items (object edgeRecordFields))
      (some (.array (raw.edges.map RawEdge.document))) = .valid raw.edges ↔
        ∀ r ∈ raw.edges, r.source ≠ "" ∧ r.target ≠ "" := by
    rw [orElse, items_map_eq_valid_iff]
    exact forall₂_congr fun r _ => read_edgeDocument_iff
  exact ⟨fun h => ⟨hnodes.1 h.1, hedges.1 h.2⟩, fun h => ⟨hnodes.2 h.nodes, hedges.2 h.edges⟩⟩

end Source

/-! ## Decoding what was decoded -/

namespace Topology

/-- Every payload of a topology is one that is read as itself. -/
structure Restored (t : Topology) : Prop where
  nodes : ∀ v ∈ t.vertices, Schema.node (some (nodeJson v.node)) = .valid v.node
  edges : ∀ l ∈ t.links, Schema.edge (some (edgeJson l.edge)) = .valid l.edge

theorem restored_of_decode {mode : OnInvalid} {raw : RawTopology} {d : Decoded}
    (h : (raw.decode mode).result = .ok d) : d.topology.Restored where
  nodes := by
    intro v hv
    obtain ⟨r, -, -, hread⟩ := RawTopology.exists_raw_of_decode h v hv
    exact restores_node r.data v.node hread
  edges := by
    intro l hl
    obtain ⟨r, -, -, -, hread⟩ := RawTopology.exists_rawEdge_of_decode h l hl
    exact restores_edge r.data l.edge hread

theorem filterMap_map_eq_self {α β : Type} {f : β → Option α} {g : α → β} {xs : List α}
    (h : ∀ x ∈ xs, f (g x) = some x) : (xs.map g).filterMap f = xs := by
  induction xs with
  | nil => rfl
  | cons x rest ih =>
    obtain ⟨hx, hrest⟩ := List.forall_mem_cons.1 h
    rw [List.map_cons, List.filterMap_cons_some hx, ih hrest]

theorem Restored.decode_toRaw {t : Topology} (h : t.Restored) :
    (t.toRaw.decode .reject).result = .ok ⟨t, []⟩ := by
  have hnodes : t.toRaw.nodes.filterMap RawNode.read? = t.vertices :=
    filterMap_map_eq_self fun v hv => RawNode.read?_eq_some_iff.2 ⟨rfl, h.nodes v hv⟩
  have hedges : t.toRaw.edges.filterMap RawEdge.read? = t.links :=
    filterMap_map_eq_self fun l hl => RawEdge.read?_eq_some_iff.2 ⟨rfl, rfl, h.edges l hl⟩
  have hrefusals : t.toRaw.refusals = [] := by
    refine RawTopology.refusals_eq_nil_iff.2 ⟨?_, ?_⟩
    · intro r hr
      obtain ⟨v, hv, rfl⟩ := List.mem_map.1 hr
      exact ⟨_, h.nodes v hv⟩
    · intro r hr
      obtain ⟨l, hl, rfl⟩ := List.mem_map.1 hr
      exact ⟨_, h.edges l hl⟩
  rw [RawTopology.result_decode_reject_of_nil hrefusals, RawTopology.topology, hnodes, hedges,
    ofParts_self]
  rfl

end Topology

/-- A decoded topology whose ids are not empty is given back by its document, by its
records and by any writing of its payloads. -/
theorem document_round_trip {mode : OnInvalid} {raw : RawTopology} {d : Decoded}
    (hdecode : (raw.decode mode).result = .ok d) (hids : ∀ v ∈ d.topology.vertices, v.id ≠ "")
    (hends : ∀ l ∈ d.topology.links, l.source ≠ "" ∧ l.target ≠ "") :
    (∀ source, Source.ofDocument (some d.topology.toRaw.document) source =
      .ok d.topology.toRaw) ∧
    (d.topology.toRaw.decode .reject).result = .ok ⟨d.topology, []⟩ ∧
    Topology.build d.topology.toRaw.nodes d.topology.toRaw.edges = .ok d.topology ∧
    (∀ data node, Schema.node data = .valid node →
      Schema.node (some (nodeJson node)) = .valid node) ∧
    ∀ data edge, Schema.edge data = .valid edge →
      Schema.edge (some (edgeJson edge)) = .valid edge := by
  have hagain := (Topology.restored_of_decode hdecode).decode_toRaw
  refine ⟨fun source => Source.ofDocument_document_iff.2 ⟨?_, ?_⟩, hagain, ?_, restores_node,
    restores_edge⟩
  · intro r hr
    obtain ⟨v, hv, rfl⟩ := List.mem_map.1 hr
    exact hids v hv
  · intro r hr
    obtain ⟨l, hl, rfl⟩ := List.mem_map.1 hr
    exact hends l hl
  · rw [RawTopology.result_decode] at hagain
    rw [Topology.build, hagain]
    rfl

/-- A service with all that a service may say, its volume, a balancer with weights, a
bus whose defaults are not written, and an agent that cannot be read. -/
def estate : RawTopology where
  nodes :=
    [⟨"api", some (.object [("kind", .text "service"), ("name", .text "api"),
        ("command", .text "serve"), ("environment", .object [("MODE", .text "full")]),
        ("port", .nat 8080), ("healthCheck", .object [("endpoint", .text "/health"),
          ("intervalSeconds", .nat 10), ("timeoutSeconds", .nat 2), ("retries", .nat 3)])])⟩,
      ⟨"agent", some (.object [("kind", .text "agent")])⟩,
      ⟨"bus", some (.object [("kind", .text "message_bus"), ("name", .text "events"),
        ("busType", .text "nats"), ("clusterSize", .nat 3)])⟩,
      ⟨"edge", some (.object [("kind", .text "load_balancer"), ("name", .text "edge"),
        ("strategy", .object [("weighted", .object [("api", .nat 2)])]),
        ("backends", .texts ["api"])])⟩,
      ⟨"vol", some (.object [("kind", .text "storage"), ("name", .text "vol"),
        ("storageType", .text "local_disk"), ("size", .text "10Gi"),
        ("mountPath", .text "/data"), ("accessMode", .text "read_write_once")])⟩]
  edges :=
    [⟨"api", "bus", some (.object [("kind", .text "publishes_to"), ("topic", .text "orders")])⟩,
      ⟨"edge", "api", some (.object [("kind", .text "load_balances")])⟩,
      ⟨"api", "vol", some (.object [("kind", .text "mounts_volume"),
        ("mountPath", .text "/data")])⟩]

theorem document_round_trip_estate :
    ∃ d, (estate.decode .skip).result = .ok d ∧ d.topology.ids = ["api", "bus", "edge", "vol"] ∧
      Source.ofDocument (some d.topology.toRaw.document) Source.inlineSource =
        .ok d.topology.toRaw ∧
      (d.topology.toRaw.decode .reject).result = .ok ⟨d.topology, []⟩ := by
  have hvalue : (estate.decode .skip).result.map (fun d =>
      (d.topology.ids, d.topology.links.flatMap fun l => [l.source, l.target])) =
        .ok (["api", "bus", "edge", "vol"], ["api", "bus", "edge", "api", "api", "vol"]) := by
    decide +kernel
  obtain ⟨d, hdecode, hparts⟩ := map_eq_ok_iff.1 hvalue
  obtain ⟨hids, hends⟩ := Prod.mk.inj hparts
  have hnamed : ∀ v ∈ d.topology.vertices, v.id ≠ "" := by
    intro v hv
    have hid : v.id ∈ d.topology.ids := List.mem_map_of_mem hv
    rw [hids] at hid
    exact (by decide : ∀ id ∈ ["api", "bus", "edge", "vol"], id ≠ "") v.id hid
  have hfilled : ∀ l ∈ d.topology.links, ∀ id ∈ [l.source, l.target], id ≠ "" := by
    intro l hl id hid
    have hend : id ∈ d.topology.links.flatMap fun l => [l.source, l.target] :=
      List.mem_flatMap.2 ⟨l, hl, hid⟩
    rw [hends] at hend
    exact (by decide : ∀ id ∈ ["api", "bus", "edge", "api", "api", "vol"], id ≠ "") id hend
  obtain ⟨hdocument, hagain, -⟩ := document_round_trip hdecode hnamed fun l hl =>
    ⟨hfilled l hl _ List.mem_cons_self, hfilled l hl _ (List.mem_cons_of_mem _ List.mem_cons_self)⟩
  exact ⟨d, hdecode, hids, hdocument _, hagain⟩

end Rollout
