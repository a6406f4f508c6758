import Rollout.Proofs.Schema.Fields

/-
What a payload of a node cannot say. A footprint that is read is never below zero, and
its figures are numbers, though the processors may be infinitely many.
-/
namespace Rollout
namespace Schema

open Catalog Checked

theorem zero_atMost_of_resourceFields {ms : List (String × Json)} {r : Resources}
    (h : resourceFields ms = .valid r) : Number.zero.AtMost (r.cpuCores.getD .zero) := by
  obtain ⟨hcpu, -⟩ := resourceFields_eq_valid_iff.1 h
  cases hcores : r.cpuCores with
  | none => exact Number.zero_atMost_ofNat 0
  | some cores =>
    rw [hcores] at hcpu
    obtain ⟨j, -, hj⟩ := optional_eq_valid_some_iff.1 (field_eq_valid_iff.1 hcpu)
    exact (nonNegative_eq_valid_iff.1 hj).2

theorem zero_atMost_of_resources {v : Option Json} {r : Resources}
    (h : resources v = .valid r) : Number.zero.AtMost (r.cpuCores.getD .zero) := by
  rcases orElse_eq_valid_iff.1 h with ⟨-, rfl⟩ | ⟨j, -, hj⟩
  · exact Number.zero_atMost_ofNat 0
  · obtain ⟨_, ms, -, -, hms⟩ := object_eq_valid_iff.1 hj
    exact zero_atMost_of_resourceFields hms

/-- A footprint comes from the member of that name, whatever the kind of the node. -/
theorem resources_of_nodeReadFrom {ms : List (String × Json)} {n : Node} {r : Resources}
    (h : NodeReadFrom ms n) (hr : n.resources? = some r) :
    field "resources" resources ms = .valid r := by
  cases n with
  | service s =>
    obtain ⟨-, -, -, -, -, -, hresources⟩ := serviceFields_eq_valid_iff.1 h
    rw [← Option.some.inj hr]
    exact hresources
  | agent a =>
    obtain ⟨-, -, -, -, hresources⟩ := agentFields_eq_valid_iff.1 h
    rw [← Option.some.inj hr]
    exact hresources
  | database d =>
    obtain ⟨-, -, -, -, -, hresources⟩ := databaseFields_eq_valid_iff.1 h
    rw [← Option.some.inj hr]
    exact hresources
  | messageBus => cases hr
  | loadBalancer => cases hr
  | storage => cases hr

/-- The processors of a node that can be read are at least zero. -/
theorem zero_atMost_of_node {v : Option Json} {n : Node} {r : Resources}
    (h : node v = .valid n) (hr : n.resources? = some r) :
    Number.zero.AtMost (r.cpuCores.getD .zero) := by
  obtain ⟨_, ms, -, -, hread⟩ := exists_members_of_node h
  exact zero_atMost_of_resources (field_eq_valid_iff.1 (resources_of_nodeReadFrom hread hr))

end Schema
end Rollout
