import Rollout.Proofs.Record
import Rollout.Proofs.Schema.Fields
import Rollout.Proofs.Schema.Values

/-
The figures that a unit can have. A port lies in its range, whether a payload states it or
an engine or a bus determines it; and a figure that is taken from a payload is the whole
number that stands there, neither rounded nor cut off.
-/
namespace Rollout

/-- What stands in a payload under a path of keys. -/
def Json.at? : Option Json → List String → Option Json
  | v, [] => v
  | v, key :: rest => Json.at? ((v.bind Json.members?).bind fun ms => Record.get? ms key) rest

theorem Json.at?_cons {j i : Json} {ms : List (String × Json)} {key : String}
    {rest : List String} (hj : j.members? = some ms) (hi : Record.get? ms key = some i) :
    Json.at? (some j) (key :: rest) = Json.at? (some i) rest := by
  rw [at?, Option.bind_some, hj, Option.bind_some, hi]

namespace Catalog

/-- A number that a port can have. -/
def IsPort (n : Nat) : Prop := 1 ≤ n ∧ n ≤ 65535

instance (n : Nat) : Decidable (IsPort n) := inferInstanceAs (Decidable (_ ∧ _))

theorem isPort_of_engine {engine : DatabaseEngine} {n : Nat} (h : engine.port? = some n) :
    IsPort n := by
  cases engine <;> cases h <;> decide

theorem isPort_of_busType (busType : BusType) : ∀ n ∈ busType.ports, IsPort n := by
  cases busType <;> decide

end Catalog

namespace Schema

open Catalog Checked

/-! ## Ports and sizes -/

theorem port_of_service {v : Option Json} {s : Service} {n : Nat}
    (h : node v = .valid (.service s)) (hn : s.port = some n) :
    Json.at? v ["port"] = some (.nat n) ∧ IsPort n := by
  obtain ⟨j, ms, rfl, hj, hread⟩ := exists_members_of_node h
  obtain ⟨-, -, -, -, hport, -⟩ := serviceFields_eq_valid_iff.1 hread
  rw [hn, field_eq_valid_iff] at hport
  obtain ⟨i, hi, hnumber⟩ := optional_eq_valid_some_iff.1 hport
  obtain ⟨hnat, hrange⟩ := port_eq_valid_iff.1 hnumber
  exact ⟨(Json.at?_cons hj hi).trans hnat, hrange⟩

theorem clusterSize_of_messageBus {v : Option Json} {b : MessageBus}
    (h : node v = .valid (.messageBus b)) :
    Json.at? v ["clusterSize"] = some (.nat b.clusterSize) := by
  obtain ⟨j, ms, rfl, hj, hread⟩ := exists_members_of_node h
  obtain ⟨-, -, hsize, -⟩ := messageBusFields_eq_valid_iff.1 hread
  exact Json.at?_cons hj (natural_eq_valid_iff.1 (field_eq_valid_iff.1 hsize))

theorem port_of_connectsTo {v : Option Json} {protocol : Protocol} {n : Nat} {encrypted : Bool}
    (h : edge v = .valid (.connectsTo protocol n encrypted)) :
    Json.at? v ["port"] = some (.nat n) ∧ IsPort n := by
  obtain ⟨j, ms, rfl, hj, -, hport, -⟩ := exists_members_of_edge h
  obtain ⟨hnat, hrange⟩ := port_eq_valid_iff.1 (field_eq_valid_iff.1 hport)
  exact ⟨Json.at?_cons hj hnat, hrange⟩

/-- The ports that a unit exposes are all ports that there are. -/
theorem isPort_of_node {v : Option Json} {n : Node} (h : node v = .valid n) :
    ∀ p ∈ n.exposedPorts, IsPort p := by
  intro p hp
  cases n with
  | service s => exact (port_of_service h (Option.mem_toList.1 hp)).2
  | database d => exact isPort_of_engine (Option.mem_toList.1 hp)
  | messageBus b => exact isPort_of_busType b.busType p hp
  | agent => exact absurd hp List.not_mem_nil
  | loadBalancer => exact absurd hp List.not_mem_nil
  | storage => exact absurd hp List.not_mem_nil

/-! ## Weights -/

theorem get?_of_forall₂ {α : Type} {r : Reader α} {ms : List (String × Json)} {as : Record α}
    (h : List.Forall₂ (fun m a => m.1 = a.1 ∧ r (some m.2) = .valid a.2) ms as) {key : String}
    {a : α} (ha : Record.get? as key = some a) :
    ∃ j, Record.get? ms key = some j ∧ r (some j) = .valid a := by
  induction h with
  | nil => cases ha
  | @cons m b ms as hhead _ ih =>
    obtain ⟨hkey, hread⟩ := hhead
    rw [Record.get?] at ha ⊢
    by_cases hb : b.1 = key
    · rw [if_pos hb] at ha
      rw [if_pos (hkey.trans hb), ← Option.some.inj ha]
      exact ⟨m.2, rfl, hread⟩
    · rw [if_neg hb] at ha
      rw [if_neg fun hm => hb (hkey.symm.trans hm)]
      exact ih ha

theorem get?_of_record {α : Type} {r : Reader α} {v : Option Json} {rec : Record α}
    (h : record r v = .valid rec) {key : String} {a : α} (ha : Record.get? rec key = some a) :
    ∃ j ms, v = some j ∧ j.members? = some ms ∧
      ∃ i, Record.get? ms key = some i ∧ r (some i) = .valid a := by
  obtain ⟨j, ms, hv, hj, hms⟩ := record_eq_valid_iff.1 h
  obtain ⟨as, has, rfl⟩ := members_eq_valid_iff.1 hms
  rw [Record.get?_filter as fun k => decide (k ≠ Record.droppedKey)] at ha
  split at ha
  · exact ⟨j, ms, hv, hj, get?_of_forall₂ has ha⟩
  · cases ha

/-- A weight of a strategy stands in the payload under the name of its backend. -/
theorem at?_of_weighted {v : Option Json} {l : LoadBalancer} {weights : Record Nat}
    (h : node v = .valid (.loadBalancer l)) (hstrategy : l.strategy = .weighted weights)
    {backend : String} {w : Nat} (hw : Record.get? weights backend = some w) :
    Json.at? v ["strategy", "weighted", backend] = some (.nat w) := by
  obtain ⟨j, ms, rfl, hj, hread⟩ := exists_members_of_node h
  obtain ⟨-, hfield, -⟩ := loadBalancerFields_eq_valid_iff.1 hread
  rw [hstrategy, field_eq_valid_iff, strategy_eq_valid_iff] at hfield
  rcases hfield with ⟨_, -, heq⟩ | ⟨_, hobject, heq⟩
  · cases heq
  · obtain rfl := Strategy.weighted.inj heq
    obtain ⟨k, ks, hk, hks, hrecord⟩ := object_eq_valid_iff.1 hobject
    obtain ⟨i, is, hi, his, x, hx, hnatural⟩ := get?_of_record (field_eq_valid_iff.1 hrecord) hw
    rw [Json.at?_cons hj hk, Json.at?_cons hks hi, Json.at?_cons his hx]
    exact natural_eq_valid_iff.1 hnatural

/-- The weight of an edge stands in its payload. -/
theorem at?_of_loadBalances {v : Option Json} {w : Nat} {healthCheck : Bool}
    (h : edge v = .valid (.loadBalances (some w) healthCheck)) :
    Json.at? v ["weight"] = some (.nat w) := by
  obtain ⟨j, ms, rfl, hj, hweight, -⟩ := exists_members_of_edge h
  rw [field_eq_valid_iff] at hweight
  obtain ⟨i, hi, hnatural⟩ := optional_eq_valid_some_iff.1 hweight
  exact (Json.at?_cons hj hi).trans (natural_eq_valid_iff.1 hnatural)

end Schema
end Rollout
