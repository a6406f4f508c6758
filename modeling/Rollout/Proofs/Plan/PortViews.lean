import Rollout.Proofs.Plan.WellFormed

/-
The ports of a plan, which are shown in several places: under the id of a node in the
network, in the entry of the node, and in the entries of the backends. All of them are read
off the nodes on ways of their own, and a node without a port is left out, null, zero or 80.
-/
namespace Rollout

open Catalog Rollout.Topology Rollout.Validation

/-- The ports of an entry that has any. -/
inductive PlanEntry.Shows : PlanEntry → List Nat → Prop where
  | service {s : PlannedService} {n : Nat} (h : s.port = some n) : Shows (.service s) [n]
  | database {d : PlannedDatabase} (h : d.port ≠ 0) : Shows (.database d) [d.port]
  | messageBus {b : PlannedBus} : Shows (.messageBus b) b.ports

namespace Topology

/-! ## Entries -/

theorem shows_planService_iff {t : Topology} {id : String} {s : Service} {ports : List Nat} :
    PlanEntry.Shows (.service (t.planService id s)) ports ↔ ports = s.port.toList ∧ ports ≠ [] := by
  have hplanned : (t.planService id s).port = s.port := rfl
  constructor
  · intro h
    cases h with
    | service hport =>
      rw [hplanned] at hport
      rw [hport]
      exact ⟨rfl, List.cons_ne_nil _ _⟩
  · rintro ⟨rfl, hfilled⟩
    cases hport : s.port with
    | none =>
      rw [hport] at hfilled
      exact absurd rfl hfilled
    | some n => exact .service hport

theorem ne_zero_of_port? {e : DatabaseEngine} {n : Nat} (h : e.port? = some n) : n ≠ 0 := by
  rintro rfl
  cases e <;> cases h

/-- No engine listens on port zero, so a database that shows none has none. -/
theorem shows_planDatabase_iff {d : Database} {ports : List Nat} :
    PlanEntry.Shows (.database (planDatabase d)) ports ↔
      ports = d.engine.port?.toList ∧ ports ≠ [] := by
  have hplanned : (planDatabase d).port = d.engine.port?.getD 0 := rfl
  constructor
  · intro h
    cases h with
    | database hlistens =>
      rw [hplanned] at hlistens ⊢
      cases hport : d.engine.port? with
      | none =>
        rw [hport] at hlistens
        exact absurd rfl hlistens
      | some n => exact ⟨rfl, List.cons_ne_nil _ _⟩
  · rintro ⟨rfl, hfilled⟩
    cases hport : d.engine.port? with
    | none =>
      rw [hport] at hfilled
      exact absurd rfl hfilled
    | some n =>
      rw [hport, Option.getD_some] at hplanned
      rw [Option.toList_some, ← hplanned]
      refine .database ?_
      rw [hplanned]
      exact ne_zero_of_port? hport

theorem shows_planBus_iff {b : MessageBus} {ports : List Nat} :
    PlanEntry.Shows (.messageBus (planBus b)) ports ↔ ports = b.busType.ports ∧ ports ≠ [] := by
  have hplanned : (planBus b).ports = b.busType.ports := rfl
  constructor
  · intro h
    cases h with
    | messageBus =>
      rw [hplanned]
      refine ⟨rfl, ?_⟩
      cases b.busType <;> decide
  · rintro ⟨rfl, -⟩
    exact .messageBus

theorem shows_entry_iff {t : Topology} {v : Vertex} {ports : List Nat} :
    (t.entry v).Shows ports ↔ ports = v.node.exposedPorts ∧ ports ≠ [] := by
  obtain ⟨id, node⟩ := v
  cases node with
  | service s => exact shows_planService_iff
  | database d => exact shows_planDatabase_iff
  | messageBus b => exact shows_planBus_iff
  | _ =>
    constructor
    · intro h
      cases h
    · rintro ⟨rfl, hfilled⟩
      exact absurd rfl hfilled

/-! ## Network -/

theorem nodup_keys_exposedPorts (t : Topology) : (Record.keys t.network.exposedPorts).Nodup := by
  have hperm := t.exposedPorts_perm.map (·.1)
  rw [List.map_map] at hperm
  exact hperm.nodup_iff.2 (t.nodup_ids.sublist (List.filter_sublist.map Vertex.id))

theorem get?_exposedPorts_eq_some_iff {t : Topology} {id : String} {ports : List Nat} :
    Record.get? t.network.exposedPorts id = some ports ↔
      ∃ v ∈ t.vertices, v.id = id ∧ ports = v.node.exposedPorts ∧ ports ≠ [] := by
  rw [Record.get?_eq_some_iff_mem t.nodup_keys_exposedPorts, t.exposedPorts_perm.mem_iff,
    List.mem_map]
  constructor
  · rintro ⟨v, hv, heq⟩
    obtain ⟨hmem, hfilled⟩ := List.mem_filter.1 hv
    obtain ⟨rfl, rfl⟩ := Prod.mk.inj heq
    refine ⟨v, hmem, rfl, rfl, ?_⟩
    simpa using hfilled
  · rintro ⟨v, hmem, rfl, rfl, hfilled⟩
    refine ⟨v, List.mem_filter.2 ⟨hmem, ?_⟩, rfl⟩
    simpa using hfilled

theorem get?_exposedPorts_iff_shows {t : Topology} {v : Vertex} (hv : v ∈ t.vertices)
    {ports : List Nat} :
    Record.get? t.network.exposedPorts v.id = some ports ↔ (t.entry v).Shows ports := by
  rw [get?_exposedPorts_eq_some_iff, shows_entry_iff]
  constructor
  · rintro ⟨w, hw, hid, hports⟩
    rwa [← eq_of_id_eq hw hv hid]
  · exact fun hports => ⟨v, hv, rfl, hports⟩

theorem get?_exposedPorts_eq_none {t : Topology} {id : String} (h : id ∉ t.ids) :
    Record.get? t.network.exposedPorts id = none := by
  rw [Option.eq_none_iff_forall_ne_some]
  intro ports hports
  obtain ⟨v, hv, rfl, -⟩ := get?_exposedPorts_eq_some_iff.1 hports
  exact h (List.mem_map_of_mem hv)

end Topology

/-! ## Plans -/

namespace Plan.Lists

variable {plan : Plan} {t : Topology} {nodes : List Vertex}

theorem forall₂_entry (h : plan.Lists t nodes) (k : NodeKind) :
    List.Forall₂ (fun v e => v ∈ t.vertices ∧ e = t.entry v) (ofKind k nodes)
      (plan.collection k) := by
  rw [h.collections, List.forall₂_map_right_iff, List.forall₂_same]
  exact fun v hv => ⟨h.perm.mem_iff.1 (List.mem_of_mem_filter hv), rfl⟩

/-- The entry of a service stands where the service stands among the services. -/
theorem getElem?_services (h : plan.Lists t nodes) {id : String} {s : Service}
    (hs : (⟨id, .service s⟩ : Vertex) ∈ t.vertices) :
    ∃ i : Nat, (ofKind .service nodes)[i]? = some ⟨id, .service s⟩ ∧
      plan.services[i]? = some (t.planService id s) := by
  have hentry := h.getElem?_collection hs
  have hplace := List.getElem?_idxOf (h.mem_ofKind hs)
  refine ⟨_, hplace, ?_⟩
  have hmap : plan.collection .service = plan.services.map PlanEntry.service := rfl
  have hkind : (Node.service s).kind = .service := rfl
  rw [hkind, hmap, List.getElem?_map, Option.map_eq_some_iff] at hentry
  obtain ⟨service, hservice, heq⟩ := hentry
  rw [← PlanEntry.service.inj heq]
  exact hservice

theorem exists_service (h : plan.Lists t nodes) {b : PlannedBalancer}
    (hb : b ∈ plan.loadBalancers) {e : Backend} (he : e ∈ b.backends) :
    ∃ s, (⟨e.service, .service s⟩ : Vertex) ∈ t.vertices ∧ e.port = s.port.getD 80 := by
  obtain ⟨id, l, -, rfl⟩ := h.exists_loadBalancer hb
  obtain ⟨backend, hresolved⟩ := exists_resolveBackend_of_mem he
  obtain ⟨s, hs, rfl⟩ := resolveBackend_eq_inl hresolved
  exact ⟨s, hs, rfl⟩

end Plan.Lists

/-- The ports that the network shows under the ids of nodes are those that the entries of
the nodes show, and no others. A backend names a service and has the port of its entry,
or 80. -/
theorem ports_agree_of_plan {p : Policy} {t : Topology} {plan : Plan}
    (h : (t.plan p).result = .ok plan) :
    ∃ order nodes, Schedule.compute t = .ok order ∧ nodes.map Vertex.id = order ∧
      plan.Lists t nodes ∧
      (∀ k, List.Forall₂ (fun v e => ∀ ports,
          Record.get? plan.network.exposedPorts v.id = some ports ↔ e.Shows ports)
        (ofKind k nodes) (plan.collection k)) ∧
      (∀ id, id ∉ t.ids → Record.get? plan.network.exposedPorts id = none) ∧
      ∀ b ∈ plan.loadBalancers, ∀ e ∈ b.backends, ∃ (i : Nat) (v : Vertex) (s : PlannedService),
        (ofKind .service nodes)[i]? = some v ∧ plan.services[i]? = some s ∧ v.id = e.service ∧
          e.port = s.port.getD 80 := by
  obtain ⟨order, horder, rfl⟩ := exists_order_of_plan h
  have hlists := lists_placed_of_plan h horder
  refine ⟨order, t.placed order, horder, map_id_placed_of_compute horder, hlists, fun k => ?_,
    fun id hid => get?_exposedPorts_eq_none hid, fun b hb e he => ?_⟩
  · refine (hlists.forall₂_entry k).imp ?_
    rintro v e ⟨hv, rfl⟩ ports
    exact get?_exposedPorts_iff_shows hv
  · obtain ⟨service, hservice, hport⟩ := hlists.exists_service hb he
    obtain ⟨i, hnode, hentry⟩ := hlists.getElem?_services hservice
    exact ⟨i, _, _, hnode, hentry, rfl, hport⟩

/-- Nodes of every kind that has ports, with a service and a database that have none. -/
def harbour : Topology where
  vertices :=
    [⟨"quay", .loadBalancer ⟨"quay", .basic .random, .ofNat 10, ["web", "api", "log"]⟩⟩,
      ⟨"api", .service ⟨"api", "serve", [], [], some 8080, none, .empty⟩⟩,
      ⟨"web", .service ⟨"web", "serve", [], [], none, none, .empty⟩⟩,
      ⟨"log", .database ⟨"log", .sqlite, "3", false, none, .empty⟩⟩,
      ⟨"store", .database ⟨"store", .postgres, "16", true, none, .empty⟩⟩,
      ⟨"mail", .messageBus ⟨"mail", .rabbitmq, 1, false, []⟩⟩]
  links :=
    [⟨"quay", "api", .loadBalances none true⟩, ⟨"web", "log", .dependsOn true none⟩,
      ⟨"api", "store", .dependsOn true none⟩, ⟨"api", "mail", .dependsOn true none⟩]
  nodup_ids := by decide

theorem ports_agree_harbour :
    ∃ plan nodes, (harbour.plan stackPolicy).result = .ok plan ∧ plan.Lists harbour nodes ∧
      (∀ k, List.Forall₂ (fun v e => ∀ ports,
          Record.get? plan.network.exposedPorts v.id = some ports ↔ e.Shows ports)
        (ofKind k nodes) (plan.collection k)) ∧
      plan.network.exposedPorts =
        [("api", [8080]), ("store", [5432]), ("mail", [5672, 15672])] ∧
      plan.loadBalancers.map (fun b => b.backends.map fun e => (e.service, e.port)) =
        [[("web", 80), ("api", 8080)]] := by
  have hvalue : (harbour.plan stackPolicy).result.map (fun plan =>
      (plan.network.exposedPorts,
        plan.loadBalancers.map fun b => b.backends.map fun e => (e.service, e.port))) =
      .ok ([("api", [8080]), ("store", [5432]), ("mail", [5672, 15672])],
        [[("web", 80), ("api", 8080)]]) := by
    decide +kernel
  obtain ⟨plan, hplan, hports⟩ := map_eq_ok_iff.1 hvalue
  obtain ⟨hnetwork, hbackends⟩ := Prod.mk.inj hports
  obtain ⟨-, nodes, -, -, hlists, hshown, -, -⟩ := ports_agree_of_plan hplan
  exact ⟨plan, nodes, hplan, hlists, hshown, hnetwork, hbackends⟩

end Rollout
