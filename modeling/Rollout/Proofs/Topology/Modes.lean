import Rollout.Proofs.Topology.Decode

/-
The two ways of decoding, strict and lenient. They read the same records in the same order
and part at the first one that cannot be read: the strict way ends there, the lenient way
reports the record and goes on. Up to that point, and on what is left of the records, they
agree.
-/
namespace Rollout

/-! ## Readable records -/

def RawNode.Readable (r : RawNode) : Prop := ∃ node, Schema.node r.data = .valid node

def RawEdge.Readable (r : RawEdge) : Prop := ∃ edge, Schema.edge r.data = .valid edge

theorem RawNode.refusal?_eq_none_iff {r : RawNode} : r.refusal? = none ↔ r.Readable := by
  rw [refusal?, Readable]
  cases Schema.node r.data <;> simp

theorem RawEdge.refusal?_eq_none_iff {r : RawEdge} : r.refusal? = none ↔ r.Readable := by
  rw [refusal?, Readable]
  cases Schema.edge r.data <;> simp

theorem RawNode.refusal?_eq_some_iff {r : RawNode} {f : Refusal} :
    r.refusal? = some f ↔ ∃ is, Schema.node r.data = .faulty is ∧ f = r.refusal is := by
  rw [refusal?]
  cases Schema.node r.data <;> simp [eq_comm]

theorem RawEdge.refusal?_eq_some_iff {r : RawEdge} {f : Refusal} :
    r.refusal? = some f ↔ ∃ is, Schema.edge r.data = .faulty is ∧ f = r.refusal is := by
  rw [refusal?]
  cases Schema.edge r.data <;> simp [eq_comm]

theorem RawNode.isSome_read?_iff {r : RawNode} : r.read?.isSome = true ↔ r.Readable := by
  rw [read?, Readable]
  cases Schema.node r.data <;> simp [Schema.Checked.toOption]

theorem RawEdge.isSome_read?_iff {r : RawEdge} : r.read?.isSome = true ↔ r.Readable := by
  rw [read?, Readable]
  cases Schema.edge r.data <;> simp [Schema.Checked.toOption]

theorem filterMap_filter_isSome {α β : Type} (f : α → Option β) (xs : List α) :
    (xs.filter fun x => (f x).isSome).filterMap f = xs.filterMap f := by
  have hf : (fun x => if (f x).isSome = true then f x else none) = f := by
    funext x
    cases f x <;> rfl
  rw [List.filterMap_filter, hf]

namespace RawTopology

variable {raw : RawTopology}

/-- A raw topology without the records that cannot be read. -/
def readable (raw : RawTopology) : RawTopology where
  nodes := raw.nodes.filter fun r => r.read?.isSome
  edges := raw.edges.filter fun r => r.read?.isSome

theorem topology_readable : raw.readable.topology = raw.topology := by
  rw [topology, readable, filterMap_filter_isSome, filterMap_filter_isSome, topology]

theorem refusals_eq_nil_iff :
    raw.refusals = [] ↔ (∀ r ∈ raw.nodes, r.Readable) ∧ ∀ r ∈ raw.edges, r.Readable := by
  rw [refusals, List.append_eq_nil_iff, List.filterMap_eq_nil_iff, List.filterMap_eq_nil_iff]
  simp only [RawNode.refusal?_eq_none_iff, RawEdge.refusal?_eq_none_iff]

theorem refusals_readable : raw.readable.refusals = [] := by
  refine refusals_eq_nil_iff.2 ⟨fun r hr => ?_, fun r hr => ?_⟩
  · exact RawNode.isSome_read?_iff.1 (List.mem_filter.1 hr).2
  · exact RawEdge.isSome_read?_iff.1 (List.mem_filter.1 hr).2

/-! ## The first record that cannot be read -/

/-- The first node that cannot be read, with the issues against it. -/
def FirstUnreadableNode (raw : RawTopology) (r : RawNode) (is : Schema.Issues) : Prop :=
  ∃ before after, raw.nodes = before ++ r :: after ∧ (∀ q ∈ before, q.Readable) ∧
    Schema.node r.data = .faulty is

/-- The first edge that cannot be read among nodes that all can. -/
def FirstUnreadableEdge (raw : RawTopology) (r : RawEdge) (is : Schema.Issues) : Prop :=
  (∀ q ∈ raw.nodes, q.Readable) ∧
    ∃ before after, raw.edges = before ++ r :: after ∧ (∀ q ∈ before, q.Readable) ∧
      Schema.edge r.data = .faulty is

theorem refusals_of_firstUnreadableNode {r : RawNode} {is : Schema.Issues}
    (h : raw.FirstUnreadableNode r is) : ∃ rest, raw.refusals = r.refusal is :: rest := by
  obtain ⟨before, after, hnodes, hbefore, hfaulty⟩ := h
  have hcons : raw.nodes.filterMap RawNode.refusal? =
      r.refusal is :: after.filterMap RawNode.refusal? :=
    List.filterMap_eq_cons_iff.2 ⟨before, r, after, hnodes,
      fun q hq => RawNode.refusal?_eq_none_iff.2 (hbefore q hq),
      RawNode.refusal?_eq_some_iff.2 ⟨is, hfaulty, rfl⟩, rfl⟩
  rw [refusals, hcons, List.cons_append]
  exact ⟨_, rfl⟩

theorem refusals_of_firstUnreadableEdge {r : RawEdge} {is : Schema.Issues}
    (h : raw.FirstUnreadableEdge r is) : ∃ rest, raw.refusals = r.refusal is :: rest := by
  obtain ⟨hreadable, before, after, hedges, hbefore, hfaulty⟩ := h
  have hnil : raw.nodes.filterMap RawNode.refusal? = [] :=
    List.filterMap_eq_nil_iff.2 fun q hq => RawNode.refusal?_eq_none_iff.2 (hreadable q hq)
  have hcons : raw.edges.filterMap RawEdge.refusal? =
      r.refusal is :: after.filterMap RawEdge.refusal? :=
    List.filterMap_eq_cons_iff.2 ⟨before, r, after, hedges,
      fun q hq => RawEdge.refusal?_eq_none_iff.2 (hbefore q hq),
      RawEdge.refusal?_eq_some_iff.2 ⟨is, hfaulty, rfl⟩, rfl⟩
  rw [refusals, hnil, hcons, List.nil_append]
  exact ⟨_, rfl⟩

theorem exists_firstUnreadable_of_cons {first : Refusal} {rest : List Refusal}
    (h : raw.refusals = first :: rest) :
    (∃ r is, raw.FirstUnreadableNode r is) ∨ ∃ r is, raw.FirstUnreadableEdge r is := by
  rcases List.append_eq_cons_iff.1 h with ⟨hnil, hcons⟩ | ⟨more, hcons, -⟩
  · have hreadable : ∀ q ∈ raw.nodes, q.Readable := fun q hq =>
      RawNode.refusal?_eq_none_iff.1 (List.filterMap_eq_nil_iff.1 hnil q hq)
    obtain ⟨before, r, after, hedges, hbefore, hr, -⟩ := List.filterMap_eq_cons_iff.1 hcons
    obtain ⟨is, hfaulty, -⟩ := RawEdge.refusal?_eq_some_iff.1 hr
    exact .inr ⟨r, is, hreadable, before, after, hedges,
      fun q hq => RawEdge.refusal?_eq_none_iff.1 (hbefore q hq), hfaulty⟩
  · obtain ⟨before, r, after, hnodes, hbefore, hr, -⟩ := List.filterMap_eq_cons_iff.1 hcons
    obtain ⟨is, hfaulty, -⟩ := RawNode.refusal?_eq_some_iff.1 hr
    exact .inl ⟨r, is, before, after, hnodes,
      fun q hq => RawNode.refusal?_eq_none_iff.1 (hbefore q hq), hfaulty⟩

/-- Either all records can be read or one of them is the first that cannot. -/
theorem exists_firstUnreadable (raw : RawTopology) :
    ((∀ r ∈ raw.nodes, r.Readable) ∧ ∀ r ∈ raw.edges, r.Readable) ∨
      (∃ r is, raw.FirstUnreadableNode r is) ∨ ∃ r is, raw.FirstUnreadableEdge r is := by
  cases h : raw.refusals with
  | nil => exact .inl (refusals_eq_nil_iff.1 h)
  | cons first rest => exact .inr (exists_firstUnreadable_of_cons h)

theorem result_decode_reject_of_firstNode {r : RawNode} {is : Schema.Issues}
    (h : raw.FirstUnreadableNode r is) :
    (raw.decode .reject).result = .error (Decoded.undecodableNode r.id is) := by
  obtain ⟨rest, hrefusals⟩ := refusals_of_firstUnreadableNode h
  exact result_decode_reject_of_cons hrefusals

theorem result_decode_reject_of_firstEdge {r : RawEdge} {is : Schema.Issues}
    (h : raw.FirstUnreadableEdge r is) :
    (raw.decode .reject).result = .error (Decoded.undecodableEdge r.source r.target is) := by
  obtain ⟨rest, hrefusals⟩ := refusals_of_firstUnreadableEdge h
  exact result_decode_reject_of_cons hrefusals

/-! ## Agreement -/

theorem decode_reject_eq_ok_iff {d : Decoded} :
    (raw.decode .reject).result = .ok d ↔
      (raw.decode .skip).result = .ok d ∧ d.skipped = [] := by
  cases h : raw.refusals with
  | nil =>
    have hmodes : (raw.decode .skip).result = (raw.decode .reject).result := by
      rw [result_decode_skip, result_decode_reject_of_nil h, h]
      rfl
    rw [hmodes]
    refine ⟨fun hd => ⟨hd, ?_⟩, And.left⟩
    rw [(topology_of_decode hd).2, h]
    rfl
  | cons first rest =>
    rw [result_decode_reject_of_cons h]
    constructor
    · intro hd
      cases hd
    · rintro ⟨hd, hskipped⟩
      rw [(topology_of_decode hd).2, h] at hskipped
      cases hskipped

theorem head?_skipped {d : Decoded} {first : Refusal} {rest : List Refusal}
    (hrefusals : raw.refusals = first :: rest) (h : (raw.decode .skip).result = .ok d) :
    d.skipped.head? = some first.entry := by
  rw [(topology_of_decode h).2, hrefusals]
  rfl

theorem map_topology_decode_skip :
    (raw.decode .skip).result.map Decoded.topology = raw.topology := by
  rw [result_decode_skip]
  cases raw.topology <;> rfl

theorem map_topology_decode_reject_readable :
    (raw.readable.decode .reject).result.map Decoded.topology = raw.topology := by
  rw [result_decode_reject_of_nil refusals_readable, topology_readable]
  cases raw.topology <;> rfl

/-- Strict and lenient decoding agree: on topologies whose records can all be read, on
which record is the first that cannot and why, and on the records that can. -/
theorem strict_agrees_with_lenient (raw : RawTopology) :
    (∀ d, (raw.decode .reject).result = .ok d ↔
      (raw.decode .skip).result = .ok d ∧ d.skipped = []) ∧
    (((∃ r ∈ raw.nodes, ¬r.Readable) ∨ ∃ r ∈ raw.edges, ¬r.Readable) →
      (∃ r is, raw.FirstUnreadableNode r is) ∨ ∃ r is, raw.FirstUnreadableEdge r is) ∧
    (∀ r is, raw.FirstUnreadableNode r is →
      (raw.decode .reject).result = .error (.invalidNode
        ("node '" ++ r.id ++ "' has an undecodable payload (" ++ is.text ++ ")") (some r.id)) ∧
      ∀ d, (raw.decode .skip).result = .ok d →
        d.skipped.head? = some ⟨.node, r.id, is.text⟩) ∧
    (∀ r is, raw.FirstUnreadableEdge r is →
      (raw.decode .reject).result = .error (.invalidEdge
        ("edge '" ++ r.source ++ "' -> '" ++ r.target ++ "' has an undecodable payload (" ++
          is.text ++ ")") (some r.source) (some r.target)) ∧
      ∀ d, (raw.decode .skip).result = .ok d →
        d.skipped.head? = some ⟨.edge, r.source ++ "->" ++ r.target, is.text⟩) ∧
    (raw.decode .skip).result.map Decoded.topology =
      (raw.readable.decode .reject).result.map Decoded.topology ∧
    ∀ f, (raw.decode .skip).result = .error f → ∃ id, f = .ofDuplicate id := by
  refine ⟨fun d => decode_reject_eq_ok_iff, fun hunreadable => ?_, fun r is h => ⟨?_, ?_⟩,
    fun r is h => ⟨?_, ?_⟩, ?_, fun f hf => ?_⟩
  · rcases raw.exists_firstUnreadable with ⟨hnodes, hedges⟩ | hfirst
    · rcases hunreadable with ⟨r, hr, hn⟩ | ⟨r, hr, hn⟩
      · exact absurd (hnodes r hr) hn
      · exact absurd (hedges r hr) hn
    · exact hfirst
  · exact result_decode_reject_of_firstNode h
  · obtain ⟨rest, hrefusals⟩ := refusals_of_firstUnreadableNode h
    exact fun d hd => head?_skipped hrefusals hd
  · exact result_decode_reject_of_firstEdge h
  · obtain ⟨rest, hrefusals⟩ := refusals_of_firstUnreadableEdge h
    exact fun d hd => head?_skipped hrefusals hd
  · rw [map_topology_decode_skip, map_topology_decode_reject_readable]
  · rw [result_decode_skip, map_eq_error_iff] at hf
    obtain ⟨id, hid, -⟩ := Topology.repeated_of_ofParts hf
    exact ⟨id, hid⟩

end RawTopology
end Rollout
