import Rollout.Proofs.Aligned
import Rollout.Proofs.Grouping
import Rollout.Proofs.Topology.Duplicates
import Rollout.Proofs.Topology.Startup

/-
Queries of a topology. Its edges are indexed by both their ends while it is built, one edge
after the other, and a look-up in an index gives what going through all edges gives. A raw
topology has no index and goes through its records, so the two answer alike wherever the
records can be read.
-/
namespace Rollout

namespace Topology

/-- A topology answers as going through some nodes and edges from the first to the last
does. -/
structure Scans (t : Topology) (vs : List Vertex) (ls : List Link) : Prop where
  vertices : t.vertices = vs
  links : t.links = ls
  size : t.size = vs.length
  /-- The node that is found is the only one under its id. -/
  vertex? : ∀ id, (t.vertex? id).toList = vs.filter fun v => v.id = id
  /-- An index of the nodes, built as those of the edges are, finds the same. -/
  indexed : ∀ id, Grouping.find id (.ofList (vs.map fun v => (v.id, v))) = (t.vertex? id).toList
  hasNode : ∀ id, t.hasNode id = true ↔ ∃ v ∈ vs, v.id = id
  edgesFrom : ∀ id, t.edgesFrom id = ls.filter fun l => l.source = id
  edgesTo : ∀ id, t.edgesTo id = ls.filter fun l => l.target = id

theorem toList_vertex? (t : Topology) (id : String) :
    (t.vertex? id).toList = t.vertices.filter fun v => v.id = id := by
  cases hv : t.vertex? id with
  | none =>
    have hnone := List.find?_eq_none.1 hv
    rw [List.filter_eq_nil_iff.2 hnone, Option.toList_none]
  | some v =>
    have hperm : (t.vertices.filter fun w => w.id = id).Perm [v] := by
      refine (List.perm_ext_iff_of_nodup (t.nodup_vertices.filter _) (List.nodup_singleton v)).2 ?_
      intro w
      rw [List.mem_filter, decide_eq_true_iff, ← vertex?_eq_some_iff, hv, List.mem_singleton,
        Option.some_inj, eq_comm]
    rw [List.perm_singleton.1 hperm, Option.toList_some]

/-- Every node is alone in its group. -/
theorem find_ofList_vertices (t : Topology) (id : String) :
    Grouping.find id (.ofList (t.vertices.map fun v => (v.id, v))) = (t.vertex? id).toList := by
  rw [Grouping.find_ofList, Grouping.scan, List.filter_map, List.map_map, toList_vertex?]
  exact List.map_id _

theorem scans_self (t : Topology) : t.Scans t.vertices t.links where
  vertices := rfl
  links := rfl
  size := rfl
  vertex? := t.toList_vertex?
  indexed := t.find_ofList_vertices
  hasNode id := by rw [hasNode_iff, ids, List.mem_map]
  edgesFrom := t.edgesFrom_eq
  edgesTo := t.edgesTo_eq

end Topology

namespace RawTopology

/-- The answers of a typed topology are those of a raw one, read. -/
structure ReadsAs (raw : RawTopology) (t : Topology) : Prop where
  nodes : List.Forall₂ (fun r v => r.read? = some v) raw.nodes t.vertices
  edges : List.Forall₂ (fun r l => r.read? = some l) raw.edges t.links
  node? : ∀ id, Option.Rel (fun r v => r.read? = some v) (raw.node? id) (t.vertex? id)
  edgesFrom : ∀ id,
    List.Forall₂ (fun r l => r.read? = some l) (raw.edgesFrom id) (t.edgesFrom id)
  edgesTo : ∀ id, List.Forall₂ (fun r l => r.read? = some l) (raw.edgesTo id) (t.edgesTo id)

variable {raw : RawTopology}

theorem readable_eq_self (hnodes : ∀ r ∈ raw.nodes, r.Readable)
    (hedges : ∀ r ∈ raw.edges, r.Readable) : raw.readable = raw := by
  rw [readable, List.filter_eq_self.2 fun r hr => RawNode.isSome_read?_iff.2 (hnodes r hr),
    List.filter_eq_self.2 fun r hr => RawEdge.isSome_read?_iff.2 (hedges r hr)]

/-- Records that are read as nodes and edges answer as those do. -/
theorem readsAs_of_forall₂ {t : Topology}
    (hnodes : List.Forall₂ (fun r v => RawNode.read? r = some v) raw.nodes t.vertices)
    (hedges : List.Forall₂ (fun r l => RawEdge.read? r = some l) raw.edges t.links) :
    raw.ReadsAs t where
  nodes := hnodes
  edges := hedges
  node? id := rel_find? (fun r v hread => by rw [(RawNode.read?_eq_some_iff.1 hread).1]) hnodes
  edgesFrom id := by
    rw [Topology.edgesFrom_eq]
    exact List.rel_filter (fun r l hread => by simp only [(RawEdge.read?_eq_some_iff.1 hread).1]) hedges
  edgesTo id := by
    rw [Topology.edgesTo_eq]
    exact List.rel_filter (fun r l hread => by simp only [(RawEdge.read?_eq_some_iff.1 hread).2.1]) hedges

/-- What is left of a raw topology without the unreadable records answers as the topology
that is decoded does. -/
theorem readsAs_of_decode {mode : OnInvalid} {d : Decoded}
    (h : (raw.decode mode).result = .ok d) : raw.readable.ReadsAs d.topology := by
  refine readsAs_of_forall₂ ?_ ?_
  · rw [vertices_of_decode h]
    refine forall₂_filter_filterMap (fun r => ?_) raw.nodes
    cases r.read? <;> simp
  · rw [links_of_decode h]
    refine forall₂_filter_filterMap (fun r => ?_) raw.edges
    cases r.read? <;> simp

/-- Records that can all be read, under different ids, are decoded without loss in both
modes. -/
theorem exists_decode_of_readable (hnodes : ∀ r ∈ raw.nodes, r.Readable)
    (hedges : ∀ r ∈ raw.edges, r.Readable) (hids : raw.ids.Nodup) :
    ∃ t, ∀ mode, (raw.decode mode).result = .ok ⟨t, []⟩ := by
  have hrefusals := refusals_eq_nil_iff.2 ⟨hnodes, hedges⟩
  obtain ⟨t, ht⟩ := exists_topology_iff.2 ((ids_readable hnodes).symm ▸ hids)
  refine ⟨t, fun mode => ?_⟩
  cases mode with
  | skip =>
    rw [result_decode_skip, hrefusals, ht]
    rfl
  | reject =>
    rw [result_decode_reject_of_nil hrefusals, ht]
    rfl

end RawTopology

/-- Nodes and edges make a topology unless two nodes share an id, and then the first node to
repeat one is named. A topology that is made answers as going through its parts does; and
where it was decoded from records that can all be read, as going through the records does. -/
theorem queries_refine_scans :
    (∀ vs ls, (∃ f, Topology.ofParts vs ls = .error f) ↔ ¬(vs.map Vertex.id).Nodup) ∧
    (∀ vs ls f, Topology.ofParts vs ls = .error f ↔
      ∃ before v after, vs = before ++ v :: after ∧ (before.map Vertex.id).Nodup ∧
        v.id ∈ before.map Vertex.id ∧
        f = .invalidNode ("duplicate node identifier '" ++ v.id ++ "'") (some v.id)) ∧
    (∀ vs ls, (vs.map Vertex.id).Nodup →
      ∃ t, Topology.ofParts vs ls = .ok t ∧ t.Scans vs ls) ∧
    ∀ raw : RawTopology, (∀ r ∈ raw.nodes, r.Readable) → (∀ r ∈ raw.edges, r.Readable) →
      raw.ids.Nodup →
      ∃ t, (∀ mode, (raw.decode mode).result = .ok ⟨t, []⟩) ∧ raw.ReadsAs t := by
  refine ⟨fun vs ls => ?_, fun vs ls f => Topology.ofParts_eq_error_iff_repeats,
    fun vs ls hids => ?_, fun raw hnodes hedges hids => ?_⟩
  · rw [← @Topology.exists_ofParts_iff vs ls]
    cases Topology.ofParts vs ls <;> simp
  · obtain ⟨t, ht⟩ := (@Topology.exists_ofParts_iff vs ls).2 hids
    obtain ⟨rfl, rfl⟩ := Topology.parts_of_ofParts ht
    exact ⟨t, ht, t.scans_self⟩
  · obtain ⟨t, ht⟩ := RawTopology.exists_decode_of_readable hnodes hedges hids
    have hreads := RawTopology.readsAs_of_decode (ht .reject)
    rw [RawTopology.readable_eq_self hnodes hedges] at hreads
    exact ⟨t, ht, hreads⟩

/-- Parallel edges, an edge from a node to itself, and edges that leave or reach no node. -/
def mesh : RawTopology where
  nodes :=
    [⟨"api", some apiRecord⟩,
      ⟨"vol", some (.object [("kind", .text "storage"), ("name", .text "vol"),
        ("storageType", .text "local_disk"), ("size", .text "10Gi"),
        ("mountPath", .text "/data"), ("accessMode", .text "read_write_once")])⟩]
  edges :=
    [⟨"api", "vol", some (.object [("kind", .text "mounts_volume"), ("mountPath", .text "/a")])⟩,
      ⟨"api", "api", some balancingRecord⟩, ⟨"ghost", "vol", some balancingRecord⟩,
      ⟨"api", "vol", some (.object [("kind", .text "mounts_volume"), ("mountPath", .text "/b")])⟩,
      ⟨"vol", "ghost", some balancingRecord⟩]

/-- The first repetition counts, though what it repeats was not given first. -/
theorem queries_refine_scans_mesh :
    (∀ v w, v.id = "vol" → w.id = "api" → ∀ ls,
      Topology.ofParts [v, w, w, v] ls =
        .error (.invalidNode "duplicate node identifier 'api'" (some "api"))) ∧
    ∃ t, (∀ mode, (mesh.decode mode).result = .ok ⟨t, []⟩) ∧ mesh.ReadsAs t ∧
      (t.edgesFrom "api").map Link.target = ["vol", "api", "vol"] ∧
      (t.edgesTo "ghost").map Link.source = ["vol"] ∧ t.vertex? "ghost" = none := by
  obtain ⟨-, hnamed, -, hreads⟩ := queries_refine_scans
  refine ⟨fun v w hv hw ls => (hnamed _ _ _).2 ⟨[v, w], w, [v], rfl, ?_, ?_, ?_⟩, ?_⟩
  · simp [hv, hw]
  · simp
  · rw [hw]; decide
  · have hrefusals : mesh.refusals.length = 0 := by decide +kernel
    obtain ⟨hnodes, hedges⟩ :=
      RawTopology.refusals_eq_nil_iff.1 (List.length_eq_zero_iff.1 hrefusals)
    obtain ⟨t, hdecode, ht⟩ := hreads mesh hnodes hedges (by decide)
    have hvalue : (mesh.decode .reject).result.map (fun d => ((d.topology.edgesFrom "api").map
        Link.target, (d.topology.edgesTo "ghost").map Link.source, d.topology.vertex? "ghost")) =
          .ok (["vol", "api", "vol"], ["vol"], none) := by
      decide +kernel
    rw [hdecode] at hvalue
    obtain ⟨hfrom, hrest⟩ := Prod.mk.inj (Except.ok.inj hvalue)
    obtain ⟨hto, hnone⟩ := Prod.mk.inj hrest
    exact ⟨t, hdecode, ht, hfrom, hto, hnone⟩

end Rollout
