import Rollout.Proofs.Schema.Legal
import Rollout.Proofs.Source.Document
import Rollout.Proofs.Yaml.Value

/-
Topologies with legal payloads. The envelope of a document passes payloads on as they
stand, so those of a file are legal, whatever its text says.
-/
namespace Rollout

/-- Every payload is a value that documents have. -/
structure RawTopology.Legal (raw : RawTopology) : Prop where
  nodes : ∀ r ∈ raw.nodes, ∀ j, r.data = some j → j.Legal
  edges : ∀ r ∈ raw.edges, ∀ j, r.data = some j → j.Legal

namespace Source

open Schema Json

theorem legal_of_anything {ms : List (String × Json)} (hms : (Json.object ms).Legal)
    {data : Option Json} (h : field "data" anything ms = .valid data) :
    (orNull id data).Legal := by
  rw [field_eq_valid_iff, anything, Checked.valid.injEq] at h
  exact legal_orNull_iff.2 fun _ hj => Legal.get? hms (h.trans hj)

theorem keeps_nodeRecord : Keeps (object nodeRecordFields) fun r => orNull id r.data :=
  keeps_object fun _ _ hms h => legal_of_anything hms (nodeRecordFields_eq_valid_iff.1 h).2

theorem keeps_edgeRecord : Keeps (object edgeRecordFields) fun r => orNull id r.data :=
  keeps_object fun _ _ hms h => legal_of_anything hms (edgeRecordFields_eq_valid_iff.1 h).2.2

theorem legal_of_ofDocument {document : Json} {source : String} {raw : RawTopology}
    (hdocument : document.Legal) (h : ofDocument (some document) source = .ok raw) :
    raw.Legal := by
  obtain ⟨j, ms, hj, hms, hfields⟩ := object_eq_valid_iff.1 (ofDocument_eq_ok_iff.1 h)
  obtain rfl := Option.some.inj hj
  have hlegal := hdocument.members hms
  obtain ⟨hnodes, hedges⟩ := envelopeFields_eq_valid_iff.1 hfields
  have hnodes' := (keeps_list keeps_nodeRecord).field hlegal hnodes
  have hedges' := (keeps_list keeps_edgeRecord).field hlegal hedges
  rw [legal_array_iff, List.forall_mem_map] at hnodes' hedges'
  exact ⟨fun r hr => legal_orNull_iff.1 (hnodes' r hr),
    fun r hr => legal_orNull_iff.1 (hedges' r hr)⟩

theorem legal_of_documentOf {format : Format} {contents : String} {document : Json}
    (h : documentOf format contents = .ok document) : document.Legal := by
  unfold documentOf at h
  split at h
  · split at h
    · cases h
      exact legal_of_read? ‹_›
    · cases h
  · split at h
    · cases h
      exact Yaml.legal_of_read ‹_›
    · cases h

/-- The payloads of a text are legal, whatever its format. -/
theorem legal_of_ofText {contents source : String} {raw : RawTopology}
    (h : ofText contents source = .ok raw) : raw.Legal := by
  unfold ofText at h
  split at h
  · exact legal_of_ofDocument (legal_of_documentOf ‹_›) h
  · cases h

/-- The payloads of a file are legal. -/
theorem legal_of_load {read : String → Except ReadFault Bytes} {path : String} {raw : RawTopology}
    (h : load read path = .ok raw) : raw.Legal := by
  unfold load at h
  split at h
  · cases h
  · split at h
    · cases h
    · cases htext : ofText (Text.ofUtf8 ‹_›) path with
      | error fault =>
        rw [htext] at h
        cases h
      | ok raw' =>
        rw [htext] at h
        cases h
        exact legal_of_ofText htext

end Source
end Rollout
