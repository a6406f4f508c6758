import Rollout.Plan.Document
import Rollout.Proofs.Aligned
import Rollout.Proofs.Json.RoundTrip
import Rollout.Proofs.Schema.Figures

/-
Figures of legal payloads. What a reader takes from a legal value is written as a legal
value again: numbers are not computed with on the way, and a record that is read keeps the
order of its members.
-/
namespace Rollout

namespace Json

variable {v : Option Json} {j : Json} {ms : List (String × Json)}

/-- The members of a legal value make a legal object, also where they are its bytes. -/
theorem Legal.members (h : j.Legal) (hms : j.members? = some ms) : (Json.object ms).Legal := by
  cases h with
  | object hkeys h =>
    obtain rfl := Option.some.inj hms
    exact .object hkeys h
  | @foreign sort shown _ hbytes =>
    cases sort with
    | bytes values =>
      obtain rfl := Option.some.inj hms
      exact legal_byteMembers (hbytes values rfl)
    | _ => cases hms
  | _ => cases hms

theorem Legal.get? (h : (Json.object ms).Legal) {key : String} (hj : Record.get? ms key = some j) :
    j.Legal := (legal_object_iff.1 h).2 _ (Record.mem_of_get? hj)

theorem legal_of_at? {path : List String} (hv : ∀ i, v = some i → i.Legal)
    (h : at? v path = some j) : j.Legal := by
  induction path generalizing v with
  | nil => exact hv j h
  | cons key rest ih =>
    refine ih (fun i hi => ?_) h
    obtain ⟨ms, hms, hget⟩ := Option.bind_eq_some_iff.1 hi
    obtain ⟨k, rfl, hk⟩ := Option.bind_eq_some_iff.1 hms
    exact ((hv k rfl).members hk).get? hget

end Json

namespace Schema

open Catalog Checked Json

/-- What a reader takes from a legal value is written as a legal one. -/
def Keeps {α : Type} (r : Reader α) (write : α → Json) : Prop :=
  ∀ v a, (∀ j, v = some j → j.Legal) → r v = .valid a → (write a).Legal

variable {α : Type} {r : Reader α} {write : α → Json} {ms : List (String × Json)}

theorem Keeps.field (hr : Keeps r write) (hms : (Json.object ms).Legal) {key : String} {a : α}
    (h : Schema.field key r ms = .valid a) : (write a).Legal :=
  hr _ a (fun _ hj => Legal.get? hms hj) (field_eq_valid_iff.1 h)

/-! ## Single values -/

theorem keeps_text : Keeps text .text := fun _ s _ _ => .text s

theorem keeps_natural : Keeps natural .nat :=
  fun _ _ hv h => hv _ (natural_eq_valid_iff.1 h)

theorem keeps_positive : Keeps positive .nat :=
  fun _ _ hv h => hv _ (positive_eq_valid_iff.1 h).1

theorem keeps_port : Keeps port .nat :=
  fun _ _ hv h => hv _ (port_eq_valid_iff.1 h).1

theorem keeps_nonNegative : Keeps nonNegative .number :=
  fun _ _ hv h => hv _ (nonNegative_eq_valid_iff.1 h).1

/-! ## Combined values -/

theorem keeps_optional (hr : Keeps r write) : Keeps (optional r) (orNull write) := by
  intro v o hv h
  rw [legal_orNull_iff]
  rintro a rfl
  obtain ⟨j, rfl, hread⟩ := optional_eq_valid_some_iff.1 h
  exact hr _ a hv hread

theorem keeps_orElse {default : α} (hr : Keeps r write) (hdefault : (write default).Legal) :
    Keeps (orElse default r) write := by
  intro v a hv h
  rcases orElse_eq_valid_iff.1 h with ⟨rfl, rfl⟩ | ⟨j, rfl, hread⟩
  · exact hdefault
  · exact hr _ a hv hread

theorem keeps_items (hr : Keeps r write) : Keeps (items r) fun as => .array (as.map write) := by
  intro v as hv h
  obtain ⟨vs, rfl, hvs⟩ := items_eq_valid_iff.1 h
  refine legal_array_iff.2 fun w hw => ?_
  obtain ⟨a, ha, rfl⟩ := List.mem_map.1 hw
  obtain ⟨j, hj, hread⟩ := exists_mem_of_forall₂ hvs a ha
  exact hr _ a (fun i hi => Option.some.inj hi ▸ legal_array_iff.1 (hv _ rfl) j hj) hread

theorem keeps_list (hr : Keeps r write) :
    Keeps (orElse [] (items r)) fun as => .array (as.map write) :=
  keeps_orElse (keeps_items hr) (.array (List.forall_mem_nil _))

/-- The members of a record keep the order in which the payload has them. -/
theorem keeps_record (hr : Keeps r write) : Keeps (record r) (recordJson write) := by
  intro v rec hv h
  obtain ⟨j, ms, rfl, hj, hread⟩ := record_eq_valid_iff.1 h
  obtain ⟨as, has, rfl⟩ := members_eq_valid_iff.1 hread
  obtain ⟨hkeys, hlegal⟩ := legal_object_iff.1 ((hv j rfl).members hj)
  have hsame : Record.keys ms = Record.keys as := by
    refine List.forall₂_eq_eq_eq ▸ ?_
    exact List.forall₂_map_left_iff.2 (List.forall₂_map_right_iff.2 (has.imp fun _ _ h => h.1))
  refine legal_object_iff.2 ⟨(Record.canonical_map_iff _).2 ?_, fun m hm => ?_⟩
  · have hall : Record.Canonical as := by
      rw [Record.Canonical, ← hsame]
      exact hkeys
    exact hall.filter _
  · obtain ⟨a, ha, rfl⟩ := List.mem_map.1 hm
    obtain ⟨i, hi, -, hread⟩ := exists_mem_of_forall₂ has a (List.mem_of_mem_filter ha)
    exact hr _ a.2 (fun k hk => Option.some.inj hk ▸ hlegal i hi) hread

theorem keeps_object {fields : List (String × Json) → Checked α}
    (h : ∀ ms a, (Json.object ms).Legal → fields ms = .valid a → (write a).Legal) :
    Keeps (object fields) write := by
  intro v a hv hread
  obtain ⟨j, ms, rfl, hj, hfields⟩ := object_eq_valid_iff.1 hread
  exact h ms a ((hv j rfl).members hj) hfields

/-! ## Parts of nodes -/

theorem keeps_resources : Keeps resources Plan.resourcesJson := by
  have hkeys : ["cpuCores", "memoryMb", "diskGb"].Pairwise Record.Precedes := by decide
  refine keeps_orElse (keeps_object fun ms r hms h => .object hkeys ?_) (.object hkeys ?_)
  · obtain ⟨hcpu, hmemory, hdisk⟩ := resourceFields_eq_valid_iff.1 h
    simp only [List.forall_mem_cons]
    exact ⟨(keeps_optional keeps_nonNegative).field hms hcpu,
      (keeps_optional keeps_natural).field hms hmemory,
      (keeps_optional keeps_natural).field hms hdisk, List.forall_mem_nil _⟩
  · simp only [List.forall_mem_cons]
    exact ⟨.null, .null, .null, List.forall_mem_nil _⟩

theorem keeps_healthCheck : Keeps (object healthCheckFields) healthCheckJson := by
  have hkeys : ["endpoint", "intervalSeconds", "timeoutSeconds", "retries"].Pairwise
    Record.Precedes := by decide
  refine keeps_object fun ms c hms h => .object hkeys ?_
  obtain ⟨-, hinterval, htimeout, hretries⟩ := healthCheckFields_eq_valid_iff.1 h
  simp only [List.forall_mem_cons]
  exact ⟨.text _, keeps_natural.field hms hinterval, keeps_natural.field hms htimeout,
    keeps_natural.field hms hretries, List.forall_mem_nil _⟩

theorem keeps_rateLimit : Keeps (object rateLimitFields) rateLimitJson := by
  have hkeys : ["requestsPerSecond", "burstSize"].Pairwise Record.Precedes := by decide
  refine keeps_object fun ms l hms h => .object hkeys ?_
  obtain ⟨hrequests, hburst⟩ := rateLimitFields_eq_valid_iff.1 h
  simp only [List.forall_mem_cons]
  exact ⟨keeps_natural.field hms hrequests, keeps_natural.field hms hburst,
    List.forall_mem_nil _⟩

theorem keeps_topic : Keeps (object topicFields) Plan.topicJson := by
  have hkeys : ["name", "partitions", "replicationFactor", "retentionHours"].Pairwise
    Record.Precedes := by decide
  refine keeps_object fun ms t hms h => .object hkeys ?_
  obtain ⟨-, hpartitions, hreplication, hretention⟩ := topicFields_eq_valid_iff.1 h
  simp only [List.forall_mem_cons]
  exact ⟨.text _, (keeps_optional keeps_positive).field hms hpartitions,
    (keeps_optional keeps_positive).field hms hreplication,
    (keeps_optional keeps_natural).field hms hretention, List.forall_mem_nil _⟩

/-! ## Intervals -/

/-- An interval is not bounded from above: an infinite one is taken as it stands. -/
theorem interval_of_loadBalancer {v : Option Json} {l : LoadBalancer}
    (h : node v = .valid (.loadBalancer l)) :
    l.healthCheckIntervalSeconds.isFinite = true ∨
      l.healthCheckIntervalSeconds = .infinity ∧
        Json.at? v ["healthCheckIntervalSeconds"] = some (.number .infinity) := by
  obtain ⟨j, ms, rfl, hj, hread⟩ := exists_members_of_node h
  obtain ⟨-, -, hinterval, -⟩ := loadBalancerFields_eq_valid_iff.1 hread
  rcases orElse_eq_valid_iff.1 (field_eq_valid_iff.1 hinterval) with ⟨-, hdefault⟩ | ⟨i, hi, hread⟩
  · rw [hdefault]
    exact .inl rfl
  · obtain ⟨hnumber, hzero⟩ := nonNegative_eq_valid_iff.1 hread
    cases hn : l.healthCheckIntervalSeconds with
    | finite q => exact .inl rfl
    | infinity =>
      rw [hn] at hnumber
      exact .inr ⟨rfl, (Json.at?_cons hj hi).trans hnumber⟩
    | negInfinity =>
      rw [hn] at hzero
      exact hzero.elim
    | notANumber =>
      rw [hn] at hzero
      exact hzero.elim

end Schema
end Rollout
