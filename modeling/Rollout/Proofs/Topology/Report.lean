import Rollout.Proofs.Topology.Duplicates

/-
The report of a decoding. Leniently every record is accounted for: it is a part of the
topology, or it is reported with a reason, never both and never neither, and both lists
follow the order of the records. What is logged is one warning for each report and then a
summary; a decoding that fails logs nothing.
-/
namespace Rollout

/-! ## Parts and reports -/

def RawNode.ReadAs (r : RawNode) (v : Vertex) : Prop :=
  r.id = v.id ∧ Schema.node r.data = .valid v.node

def RawEdge.ReadAs (r : RawEdge) (l : Link) : Prop :=
  r.source = l.source ∧ r.target = l.target ∧ Schema.edge r.data = .valid l.edge

def RawNode.ReportedAs (r : RawNode) (s : Skipped) : Prop :=
  ∃ is, Schema.node r.data = .faulty is ∧ s = ⟨.node, r.id, is.text⟩

def RawEdge.ReportedAs (r : RawEdge) (s : Skipped) : Prop :=
  ∃ is, Schema.edge r.data = .faulty is ∧ s = ⟨.edge, r.source ++ "->" ++ r.target, is.text⟩

/-- Records, each of which is a part or is reported, with the parts and the reports in the
order of the records. -/
inductive Sifted {ρ α : Type} (ReadAs : ρ → α → Prop) (ReportedAs : ρ → Skipped → Prop) :
    List ρ → List α → List Skipped → Prop where
  | nil : Sifted ReadAs ReportedAs [] [] []
  | part {r : ρ} {a : α} {rs : List ρ} {parts : List α} {reports : List Skipped}
      (h : ReadAs r a) (rest : Sifted ReadAs ReportedAs rs parts reports) :
      Sifted ReadAs ReportedAs (r :: rs) (a :: parts) reports
  | report {r : ρ} {s : Skipped} {rs : List ρ} {parts : List α} {reports : List Skipped}
      (h : ReportedAs r s) (rest : Sifted ReadAs ReportedAs rs parts reports) :
      Sifted ReadAs ReportedAs (r :: rs) parts (s :: reports)

section Sifted

variable {ρ α : Type} {ReadAs : ρ → α → Prop} {ReportedAs : ρ → Skipped → Prop}

theorem Sifted.length_eq {rs : List ρ} {parts : List α} {reports : List Skipped}
    (h : Sifted ReadAs ReportedAs rs parts reports) :
    rs.length = parts.length + reports.length := by
  induction h with
  | nil => rfl
  | part _ _ ih => simp only [List.length_cons]; omega
  | report _ _ ih => simp only [List.length_cons]; omega

/-- Reading and refusing sift, if every record meets with one of the two. -/
theorem sifted_filterMap {read? : ρ → Option α} {refusal? : ρ → Option Refusal}
    (h : ∀ r, (∃ a, read? r = some a ∧ refusal? r = none ∧ ReadAs r a) ∨
      ∃ f, read? r = none ∧ refusal? r = some f ∧ ReportedAs r f.entry) (rs : List ρ) :
    Sifted ReadAs ReportedAs rs (rs.filterMap read?)
      ((rs.filterMap refusal?).map Refusal.entry) := by
  induction rs with
  | nil => exact .nil
  | cons r rest ih =>
    rcases h r with ⟨a, hread, hrefusal, hr⟩ | ⟨f, hread, hrefusal, hr⟩
    · rw [List.filterMap_cons_some hread, List.filterMap_cons_none hrefusal]
      exact .part hr ih
    · rw [List.filterMap_cons_none hread, List.filterMap_cons_some hrefusal]
      exact .report hr ih

end Sifted

theorem RawNode.sifted (raws : List RawNode) :
    Sifted ReadAs ReportedAs raws (raws.filterMap read?)
      ((raws.filterMap refusal?).map Refusal.entry) := by
  refine sifted_filterMap (fun r => ?_) raws
  cases hnode : Schema.node r.data with
  | valid node =>
    refine .inl ⟨⟨r.id, node⟩, read?_eq_some_iff.2 ⟨rfl, hnode⟩, ?_, rfl, hnode⟩
    exact refusal?_eq_none_iff.2 ⟨node, hnode⟩
  | faulty is =>
    refine .inr ⟨r.refusal is, ?_, refusal?_eq_some_iff.2 ⟨is, hnode, rfl⟩, is, hnode, rfl⟩
    rw [read?, hnode]
    rfl

theorem RawEdge.sifted (raws : List RawEdge) :
    Sifted ReadAs ReportedAs raws (raws.filterMap read?)
      ((raws.filterMap refusal?).map Refusal.entry) := by
  refine sifted_filterMap (fun r => ?_) raws
  cases hedge : Schema.edge r.data with
  | valid edge =>
    refine .inl ⟨⟨r.source, r.target, edge⟩, read?_eq_some_iff.2 ⟨rfl, rfl, hedge⟩, ?_,
      rfl, rfl, hedge⟩
    exact refusal?_eq_none_iff.2 ⟨edge, hedge⟩
  | faulty is =>
    refine .inr ⟨r.refusal is, ?_, refusal?_eq_some_iff.2 ⟨is, hedge, rfl⟩, is, hedge, rfl⟩
    rw [read?, hedge]
    rfl

/-! ## Reasons -/

theorem Schema.Issue.text_ne_empty (i : Issue) : i.text ≠ "" := by
  rw [Issue.text]
  intro h
  obtain ⟨hplace, -⟩ := String.append_eq_empty_iff.1 h
  exact absurd (String.append_eq_empty_iff.1 hplace).2 (by decide)

/-- A refusal never goes without a reason. -/
theorem Schema.Issues.text_ne_empty (is : Issues) : is.text ≠ "" := by
  obtain ⟨first, more⟩ := is
  cases more with
  | nil =>
    rw [text, toList, List.map_cons, List.map_nil, String.intercalate_singleton]
    exact first.text_ne_empty
  | cons second rest =>
    rw [text, toList, List.map_cons, List.map_cons, String.intercalate_cons_cons]
    intro h
    obtain ⟨hfirst, -⟩ := String.append_eq_empty_iff.1 h
    exact first.text_ne_empty (String.append_eq_empty_iff.1 hfirst).1

theorem reason_ne_empty_of_refusals {raw : RawTopology} :
    ∀ f ∈ raw.refusals, f.entry.reason ≠ "" := by
  intro f hf
  rcases List.mem_append.1 hf with hnode | hedge
  · obtain ⟨r, -, hr⟩ := List.mem_filterMap.1 hnode
    obtain ⟨is, -, rfl⟩ := RawNode.refusal?_eq_some_iff.1 hr
    exact is.text_ne_empty
  · obtain ⟨r, -, hr⟩ := List.mem_filterMap.1 hedge
    obtain ⟨is, -, rfl⟩ := RawEdge.refusal?_eq_some_iff.1 hr
    exact is.text_ne_empty

/-! ## What is logged -/

/-- The warning about a record that is left out. -/
def Skipped.warning (s : Skipped) : Log.Entry where
  level := .warn
  message := "topology_record_skipped"
  payload := some (.object
    [("type", .text (Worded.word s.sort)), ("ref", .text s.ref), ("reason", .text s.reason)])

/-- The entry that closes a decoding, with the numbers of what was kept and left out. -/
def Decoded.summary (d : Decoded) : Log.Entry where
  level := .debug
  message := "topology_decoded"
  payload := some (.object
    [("nodes", .nat d.topology.vertices.length), ("edges", .nat d.topology.links.length),
      ("skipped", .nat d.skipped.length)])

theorem Decoded.map_entry_events (d : Decoded) :
    d.events.map Log.Event.entry = d.skipped.map Skipped.warning ++ [d.summary] := by
  rw [events, List.map_append, List.map_map]
  rfl

namespace RawTopology

variable {raw : RawTopology} {mode : OnInvalid}

theorem events_decode_of_ok {d : Decoded} (h : (raw.decode mode).result = .ok d) :
    (raw.decode mode).events = d.events := by
  rw [result_decode] at h
  rw [decode, h]

theorem events_decode_of_error {f : Fault} (h : (raw.decode mode).result = .error f) :
    (raw.decode mode).events = [] := by
  rw [result_decode] at h
  rw [decode, h]

/-- A lenient decoding accounts for every record, as a part of the topology or in a report
that gives a reason, and logs just its reports and a summary. A decoding that fails, in
either mode, logs nothing. -/
theorem decode_accounts_for_records (raw : RawTopology) :
    (∀ d, (raw.decode .skip).result = .ok d →
      (∃ reportedNodes reportedEdges,
        Sifted RawNode.ReadAs RawNode.ReportedAs raw.nodes d.topology.vertices reportedNodes ∧
        Sifted RawEdge.ReadAs RawEdge.ReportedAs raw.edges d.topology.links reportedEdges ∧
        d.skipped = reportedNodes ++ reportedEdges) ∧
      raw.nodes.length + raw.edges.length =
        d.topology.vertices.length + d.topology.links.length + d.skipped.length ∧
      (∀ s ∈ d.skipped, s.reason ≠ "") ∧
      (raw.decode .skip).events.map Log.Event.entry =
        d.skipped.map Skipped.warning ++ [d.summary]) ∧
    ∀ mode f, (raw.decode mode).result = .error f → (raw.decode mode).events = [] := by
  refine ⟨fun d h => ?_, fun mode f h => events_decode_of_error h⟩
  have hskipped := (topology_of_decode h).2
  have hnodes := RawNode.sifted raw.nodes
  have hedges := RawEdge.sifted raw.edges
  rw [← vertices_of_decode h] at hnodes
  rw [← links_of_decode h] at hedges
  rw [refusals, List.map_append] at hskipped
  refine ⟨⟨_, _, hnodes, hedges, hskipped⟩, ?_, ?_, ?_⟩
  · rw [hskipped, List.length_append, hnodes.length_eq, hedges.length_eq]
    omega
  · rw [(topology_of_decode h).2]
    exact List.forall_mem_map.2 reason_ne_empty_of_refusals
  · rw [events_decode_of_ok h, d.map_entry_events]

end RawTopology

/-- Nodes and edges of which some can be read and some cannot. -/
def patchy : RawTopology where
  nodes := [⟨"old", some emptyRecord⟩, ⟨"api", some apiRecord⟩]
  edges := [⟨"api", "old", some balancingRecord⟩, ⟨"api", "api", none⟩]

theorem decode_accounts_for_patchy :
    (∃ d, (patchy.decode .skip).result = .ok d ∧
      4 = d.topology.vertices.length + d.topology.links.length + d.skipped.length ∧
      d.skipped.map (fun s => (s.sort, s.ref)) = [(.node, "old"), (.edge, "api->api")] ∧
      (∀ s ∈ d.skipped, s.reason ≠ "") ∧
      (patchy.decode .skip).events.map Log.Event.entry =
        d.skipped.map Skipped.warning ++ [d.summary]) ∧
    ((twins apiRecord balancingRecord).decode .skip).events = [] := by
  constructor
  · obtain ⟨d, hd⟩ := RawTopology.exists_decode_skip_iff.2
      (by decide +kernel : patchy.readable.ids.Nodup)
    obtain ⟨-, hlength, hreasons, hentries⟩ :=
      (RawTopology.decode_accounts_for_records patchy).1 d hd
    refine ⟨d, hd, hlength, ?_, hreasons, hentries⟩
    rw [(RawTopology.topology_of_decode hd).2]
    rfl
  · cases hresult : ((twins apiRecord balancingRecord).decode .skip).result with
    | ok d =>
      exact absurd (RawTopology.exists_decode_skip_iff.1 ⟨d, hresult⟩) (by decide +kernel)
    | error f => exact (RawTopology.decode_accounts_for_records _).2 .skip f hresult

end Rollout
