import Mathlib.Data.List.Nodup
import Mathlib.Order.Bounds.Basic
import Rollout.Proofs.Plan.Entries
import Rollout.Proofs.Record
import Rollout.Proofs.Validation.Conditions

/-
Ports of a topology and of its plan. The claims on a port are collected port by port, and
the lowest port with several claims is reported with all of them. A unit claims no port
twice, so several claims are claims of several nodes; and a plan, whose topology has no
such port, shows every port once.
-/
namespace Rollout

open Rollout.Topology Rollout.Validation

namespace Topology

/-- Two nodes expose the port. -/
def SharesPort (t : Topology) (port : Nat) : Prop :=
  ∃ v ∈ t.vertices, ∃ w ∈ t.vertices,
    v ≠ w ∧ port ∈ v.node.exposedPorts ∧ port ∈ w.node.exposedPorts

/-- The nodes that expose a port, in topology order. -/
def exposing (t : Topology) (port : Nat) : List Vertex :=
  t.vertices.filter fun v => port ∈ v.node.exposedPorts

theorem portsExclusive_iff_disjoint {t : Topology} :
    t.PortsExclusive ↔ ∀ v ∈ t.vertices, ∀ w ∈ t.vertices, v ≠ w →
      v.node.exposedPorts.Disjoint w.node.exposedPorts := by
  constructor
  · exact fun h v hv w hw hne port hpv hpw => hne (h port v hv w hw hpv hpw)
  · intro h port v hv w hw hpv hpw
    by_contra hne
    exact h v hv w hw hne hpv hpw

theorem portsExclusive_iff_forall_not_sharesPort {t : Topology} :
    t.PortsExclusive ↔ ∀ port, ¬t.SharesPort port := by
  constructor
  · rintro h port ⟨v, hv, w, hw, hne, hpv, hpw⟩
    exact hne (h port v hv w hw hpv hpw)
  · intro h port v hv w hw hpv hpw
    by_contra hne
    exact h port ⟨v, hv, w, hw, hne, hpv, hpw⟩

/-- A port is shared where several nodes are listed for it. -/
theorem sharesPort_iff {t : Topology} {port : Nat} :
    t.SharesPort port ↔ 1 < (t.exposing port).length := by
  have hnodup : (t.exposing port).Nodup := t.nodup_vertices.filter _
  rw [one_lt_length_iff hnodup]
  simp only [exposing, List.mem_filter, decide_eq_true_eq]
  constructor
  · rintro ⟨v, hv, w, hw, hne, hpv, hpw⟩
    exact ⟨v, ⟨hv, hpv⟩, w, ⟨hw, hpw⟩, hne⟩
  · rintro ⟨v, ⟨hv, hpv⟩, w, ⟨hw, hpw⟩, hne⟩
    exact ⟨v, hv, w, hw, hne, hpv, hpw⟩

end Topology

/-! ## The port that is reported -/

theorem lowestPort_spec {entries : List (Nat × List String)} {entry : Nat × List String}
    (h : lowestPort entries = some entry) :
    entry ∈ entries ∧ ∀ e ∈ entries, entry.1 ≤ e.1 := by
  induction entries generalizing entry with
  | nil => cases h
  | cons first rest ih =>
    rw [lowestPort] at h
    split at h
    case h_1 other hother =>
      obtain ⟨hmem, hle⟩ := ih hother
      split at h
      case isTrue hlt =>
        obtain rfl := Option.some.inj h
        refine ⟨List.mem_cons_of_mem _ hmem, fun e he => ?_⟩
        rcases List.mem_cons.1 he with rfl | he
        · exact Nat.le_of_lt hlt
        · exact hle e he
      case isFalse hge =>
        obtain rfl := Option.some.inj h
        refine ⟨List.mem_cons_self, fun e he => ?_⟩
        rcases List.mem_cons.1 he with rfl | he
        · exact Nat.le_refl _
        · exact Nat.le_trans (Nat.not_lt.1 hge) (hle e he)
    case h_2 hnone =>
      obtain rfl := Option.some.inj h
      rw [lowestPort_eq_none_iff.1 hnone]
      refine ⟨List.mem_cons_self, fun e he => ?_⟩
      rw [List.mem_singleton.1 he]

/-- The claims on a port, as far as there are any, are those of the nodes that expose it. -/
theorem mem_portUsage_iff {t : Topology} {port : Nat} {names : List String} :
    (port, names) ∈ portUsage t ↔
      names = (t.exposing port).map (fun v => v.node.name) ∧ names ≠ [] := by
  rw [portUsage, Grouping.mem_ofList_iff, scan_portUsage, exposing]

theorem isLeast_of_portFault {t : Topology} {fault : Fault} (h : portFault t = some fault) :
    ∃ port, IsLeast {p | t.SharesPort p} port ∧
      fault = .portConflict port ((t.exposing port).map fun v => v.node.name) := by
  obtain ⟨⟨port, names⟩, hlowest, rfl⟩ := Option.map_eq_some_iff.1 h
  obtain ⟨hmem, hle⟩ := lowestPort_spec hlowest
  obtain ⟨husage, hlong⟩ := List.mem_filter.1 hmem
  obtain ⟨rfl, -⟩ := mem_portUsage_iff.1 husage
  rw [decide_eq_true_iff, List.length_map] at hlong
  refine ⟨port, ⟨sharesPort_iff.2 hlong, fun other hother => ?_⟩, rfl⟩
  have hclaims := sharesPort_iff.1 hother
  refine hle (other, (t.exposing other).map fun v => v.node.name) (List.mem_filter.2 ⟨?_, ?_⟩)
  · refine mem_portUsage_iff.2 ⟨rfl, List.ne_nil_of_length_pos ?_⟩
    rw [List.length_map]
    omega
  · rw [decide_eq_true_iff, List.length_map]
    exact hclaims

theorem portFault_eq_some_iff {t : Topology} {fault : Fault} :
    portFault t = some fault ↔ ∃ port, IsLeast {p | t.SharesPort p} port ∧
      fault = .portConflict port ((t.exposing port).map fun v => v.node.name) := by
  refine ⟨isLeast_of_portFault, ?_⟩
  rintro ⟨port, hleast, rfl⟩
  cases hfound : portFault t with
  | none =>
    have hexclusive := portFault_eq_none_iff.1 hfound
    exact absurd hleast.1 (portsExclusive_iff_forall_not_sharesPort.1 hexclusive port)
  | some fault =>
    obtain ⟨port', hleast', rfl⟩ := isLeast_of_portFault hfound
    rw [hleast.unique hleast']

/-! ## The ports of a plan -/

namespace Topology

theorem exposedPorts_perm (t : Topology) :
    t.network.exposedPorts.Perm
      ((t.vertices.filter fun v => !v.node.exposedPorts.isEmpty).map fun v =>
        (v.id, v.node.exposedPorts)) := by
  refine Record.ofList_perm ?_
  rw [List.map_map]
  exact t.nodup_ids.sublist (List.filter_sublist.map Vertex.id)

/-- A node without ports has no entry, and nothing to show in one. -/
theorem flatMap_filter_exposedPorts (vs : List Vertex) :
    ((vs.filter fun v => !v.node.exposedPorts.isEmpty).flatMap fun v => v.node.exposedPorts) =
      vs.flatMap fun v => v.node.exposedPorts := by
  induction vs with
  | nil => rfl
  | cons v rest ih =>
    rw [List.filter_cons, List.flatMap_cons]
    split
    case isTrue => rw [List.flatMap_cons, ih]
    case isFalse hempty =>
      rw [Bool.not_eq_true, Bool.not_eq_false', List.isEmpty_iff] at hempty
      rw [ih, hempty, List.nil_append]

/-- The ports that the network shows are those of the nodes. -/
theorem flatMap_exposedPorts_perm (t : Topology) :
    (t.network.exposedPorts.flatMap fun m => m.2).Perm
      (t.vertices.flatMap fun v => v.node.exposedPorts) := by
  have hperm := t.exposedPorts_perm.flatMap_right fun m => m.2
  rwa [List.flatMap_map, flatMap_filter_exposedPorts] at hperm

end Topology

theorem portsExclusive_of_plan {p : Policy} {t : Topology} {plan : Plan}
    (h : (t.plan p).result = .ok plan) : t.PortsExclusive := by
  have hpassed : Check.ports.fault? p t = none := fault?_eq_none_of_plan h (by decide)
  exact portFault_eq_none_iff.1 hpassed

theorem nodup_flatMap_exposedPorts {t : Topology} (h : t.PortsExclusive) :
    (t.vertices.flatMap fun v => v.node.exposedPorts).Nodup := by
  refine List.nodup_flatMap.2 ⟨fun v _ => nodup_exposedPorts v.node, ?_⟩
  have hdisjoint := portsExclusive_iff_disjoint.1 h
  exact t.nodup_vertices.imp_of_mem fun hv hw hne => hdisjoint _ hv _ hw hne

/-- Nothing is found exactly where no two nodes have a port in common. Otherwise the lowest
common port is reported, with the names of the nodes that expose it. So the ports that a
plan shows are all different. -/
theorem portFault_exact (t : Topology) :
    (portFault t = none ↔
        ∀ v ∈ t.vertices, ∀ w ∈ t.vertices, v ≠ w →
          v.node.exposedPorts.Disjoint w.node.exposedPorts) ∧
      (∀ fault, portFault t = some fault ↔
        ∃ port services, fault = .portConflict port services ∧
          IsLeast {p | t.SharesPort p} port ∧
          services = (t.exposing port).map (fun v => v.node.name) ∧ 2 ≤ services.length) ∧
      ∀ p plan, (t.plan p).result = .ok plan →
        (plan.network.exposedPorts.flatMap fun m => m.2).Nodup := by
  refine ⟨portFault_eq_none_iff.trans portsExclusive_iff_disjoint, fun fault => ?_,
    fun p plan hplan => ?_⟩
  · rw [portFault_eq_some_iff]
    constructor
    · rintro ⟨port, hleast, rfl⟩
      refine ⟨port, _, rfl, hleast, rfl, ?_⟩
      rw [List.length_map]
      exact sharesPort_iff.1 hleast.1
    · rintro ⟨port, services, rfl, hleast, rfl, -⟩
      exact ⟨port, hleast, rfl⟩
  · have hnodup := nodup_flatMap_exposedPorts (portsExclusive_of_plan hplan)
    obtain ⟨order, -, rfl⟩ := exists_order_of_plan hplan
    exact (flatMap_exposedPorts_perm t).nodup_iff.2 hnodup

/-- Three ports are claimed twice, by services, buses and a database. -/
def crowd : Topology where
  vertices :=
    [⟨"gate", .service ⟨"gate", "serve", [], [], some 9092, none, .empty⟩⟩,
      ⟨"web", .service ⟨"web", "serve", [], [], some 8080, none, .empty⟩⟩,
      ⟨"log", .messageBus ⟨"log", .kafka, 1, false, []⟩⟩,
      ⟨"cache", .database ⟨"cache", .redis, "7", false, none, .empty⟩⟩,
      ⟨"admin", .service ⟨"admin", "serve", [], [], some 8080, none, .empty⟩⟩,
      ⟨"events", .messageBus ⟨"events", .redis, 1, false, []⟩⟩]
  links := [⟨"admin", "cache", .dependsOn true none⟩]
  nodup_ids := by decide

/-- The port that is reported is not the first one claimed twice, and a plan can be made
where no port is. -/
theorem portFault_crowd :
    portFault crowd = some (.portConflict 6379 ["cache", "events"]) ∧
      IsLeast {p | crowd.SharesPort p} 6379 ∧
      (stack.plan stackPolicy).result = .ok (stack.planOf stackOrder) ∧
      ((stack.planOf stackOrder).network.exposedPorts.flatMap fun m => m.2).Nodup := by
  have hfault : portFault crowd = some (.portConflict 6379 ["cache", "events"]) := by decide
  obtain ⟨port, services, heq, hleast, -⟩ := ((portFault_exact crowd).2.1 _).1 hfault
  obtain ⟨rfl, -⟩ := Fault.portConflict.inj heq
  exact ⟨hfault, hleast, result_plan_stack,
    (portFault_exact stack).2.2 stackPolicy _ result_plan_stack⟩

end Rollout
