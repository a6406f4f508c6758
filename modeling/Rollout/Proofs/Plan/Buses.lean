import Rollout.Proofs.Plan.Ports
import Rollout.Proofs.Topology.Decode

/-
Servers of a validated topology. Databases and buses listen on the ports of their sort, so
two of one sort would claim a port twice, and only a sort that does not listen can have
several members. There is one NATS bus at most, then, and the agents of a plan are not left
with a choice.
-/
namespace Rollout

open Catalog Rollout.Topology Rollout.Validation

namespace Topology

/-- No two buses of one type, no two databases of one engine that listens, and no Redis bus
beside a Redis database. -/
structure ServersAlone (t : Topology) : Prop where
  buses : ∀ v ∈ t.vertices, ∀ w ∈ t.vertices, ∀ b c, v.node = .messageBus b →
    w.node = .messageBus c → b.busType = c.busType → v = w
  databases : ∀ v ∈ t.vertices, ∀ w ∈ t.vertices, ∀ c d, v.node = .database c →
    w.node = .database d → c.engine = d.engine → c.engine ≠ .sqlite → v = w
  redis : ∀ v ∈ t.vertices, ∀ w ∈ t.vertices, ∀ d b, v.node = .database d →
    w.node = .messageBus b → d.engine = .redis → b.busType ≠ .redis

/-- The address of the agents: that of the NATS bus under the name it has, or that of a
server of their own. -/
inductive AgentAddress (t : Topology) : String → Prop where
  | bus {v : Vertex} {b : MessageBus} (hv : v ∈ t.vertices) (hb : v.node = .messageBus b)
      (hnats : b.busType = .nats) : AgentAddress t ("nats://" ++ b.name ++ ":4222")
  | fallback (h : ∀ v ∈ t.vertices, ∀ b, v.node = .messageBus b → b.busType ≠ .nats) :
      AgentAddress t "nats://localhost:4222"

/-! ## Servers and their ports -/

theorem exists_port_busType (b : BusType) : ∃ port, port ∈ b.ports := by
  cases b <;> exact ⟨_, List.mem_cons_self⟩

theorem exists_port_engine {e : DatabaseEngine} (h : e ≠ .sqlite) :
    ∃ port, e.port? = some port := by
  cases e with
  | sqlite => exact absurd rfl h
  | _ => exact ⟨_, rfl⟩

theorem mem_exposedPorts_messageBus {n : Node} {b : MessageBus} (h : n = .messageBus b)
    {port : Nat} : port ∈ n.exposedPorts ↔ port ∈ b.busType.ports := by
  rw [h, Node.exposedPorts]

theorem mem_exposedPorts_database {n : Node} {d : Database} (h : n = .database d) {port : Nat} :
    port ∈ n.exposedPorts ↔ d.engine.port? = some port := by
  rw [h, Node.exposedPorts, Option.mem_toList]

theorem serversAlone_of_portsExclusive {t : Topology} (h : t.PortsExclusive) : t.ServersAlone where
  buses v hv w hw b c hb hc htype := by
    obtain ⟨port, hport⟩ := exists_port_busType b.busType
    refine h port v hv w hw ((mem_exposedPorts_messageBus hb).2 hport) ?_
    rw [mem_exposedPorts_messageBus hc, ← htype]
    exact hport
  databases v hv w hw c d hc hd hengine hlistens := by
    obtain ⟨port, hport⟩ := exists_port_engine hlistens
    refine h port v hv w hw ((mem_exposedPorts_database hc).2 hport) ?_
    rw [mem_exposedPorts_database hd, ← hengine]
    exact hport
  redis v hv w hw d b hd hb hengine htype := by
    have hdatabase : 6379 ∈ v.node.exposedPorts := by
      rw [mem_exposedPorts_database hd, hengine]
      rfl
    have hbus : 6379 ∈ w.node.exposedPorts := by
      rw [mem_exposedPorts_messageBus hb, htype]
      decide
    rw [h 6379 v hv w hw hdatabase hbus, hb] at hd
    cases hd

/-! ## The NATS bus -/

theorem natsBus?_eq_some_iff {v : Vertex} {entry : String × String} :
    natsBus? v = some entry ↔
      ∃ b, v.node = .messageBus b ∧ b.busType = .nats ∧ (v.id, b.name) = entry := by
  obtain ⟨id, node⟩ := v
  rw [natsBus?]
  cases node <;> simp

/-- The choice by the smallest id is one between no more than one bus. -/
theorem length_natsBuses_le_one {t : Topology} (h : t.PortsExclusive) :
    (t.vertices.filterMap natsBus?).length ≤ 1 := by
  rw [List.length_filterMap_eq_countP, List.countP_eq_length_filter,
    length_le_one_iff (t.nodup_vertices.filter _)]
  intro v hv w hw
  obtain ⟨hv, hvnats⟩ := List.mem_filter.1 hv
  obtain ⟨hw, hwnats⟩ := List.mem_filter.1 hw
  obtain ⟨_, hvbus⟩ := Option.isSome_iff_exists.1 hvnats
  obtain ⟨_, hwbus⟩ := Option.isSome_iff_exists.1 hwnats
  obtain ⟨b, hb, hbtype, -⟩ := natsBus?_eq_some_iff.1 hvbus
  obtain ⟨c, hc, hctype, -⟩ := natsBus?_eq_some_iff.1 hwbus
  exact (serversAlone_of_portsExclusive h).buses v hv w hw b c hb hc (hbtype.trans hctype.symm)

theorem natsAddress_eq (host : String) : natsAddress host = "nats://" ++ host ++ ":4222" := by
  rw [natsAddress, String.append_assoc, String.append_assoc]
  rfl

theorem smallestId_eq_none_iff {entries : List (String × String)} :
    smallestId entries = none ↔ entries = [] := by
  cases entries with
  | nil => simp [smallestId]
  | cons entry rest =>
    rw [smallestId]
    split
    · split <;> simp
    · simp

theorem mem_of_smallestId {entries : List (String × String)} {entry : String × String}
    (h : smallestId entries = some entry) : entry ∈ entries := by
  induction entries generalizing entry with
  | nil => cases h
  | cons first rest ih =>
    rw [smallestId] at h
    split at h
    case h_1 other hother =>
      split at h
      case isTrue =>
        obtain rfl := Option.some.inj h
        exact List.mem_cons_of_mem _ (ih hother)
      case isFalse =>
        obtain rfl := Option.some.inj h
        exact List.mem_cons_self
    case h_2 =>
      obtain rfl := Option.some.inj h
      exact List.mem_cons_self

theorem agentAddress_natsUrl (t : Topology) : t.AgentAddress t.natsUrl := by
  rw [natsUrl]
  cases hchosen : smallestId (t.vertices.filterMap natsBus?) with
  | none =>
    have hnone := List.filterMap_eq_nil_iff.1 (smallestId_eq_none_iff.1 hchosen)
    have hdefault : defaultNatsUrl = "nats://localhost:4222" := natsAddress_eq "localhost"
    rw [hdefault]
    refine .fallback fun v hv b hb hnats => ?_
    have hsome := natsBus?_eq_some_iff.2 ⟨b, hb, hnats, rfl⟩
    rw [hnone v hv] at hsome
    cases hsome
  | some entry =>
    obtain ⟨v, hv, hbus⟩ := List.mem_filterMap.1 (mem_of_smallestId hchosen)
    obtain ⟨b, hb, hnats, rfl⟩ := natsBus?_eq_some_iff.1 hbus
    show t.AgentAddress (natsAddress b.name)
    rw [natsAddress_eq]
    exact .bus hv hb hnats

end Topology

theorem natsUrl_of_mem_agents {p : Policy} {t : Topology} {plan : Plan}
    (h : (t.plan p).result = .ok plan) : ∀ a ∈ plan.agents, a.natsUrl = t.natsUrl := by
  intro a ha
  obtain ⟨order, horder, -⟩ := exists_order_of_plan h
  have he : PlanEntry.agent a ∈ plan.collection .agent := List.mem_map_of_mem ha
  obtain ⟨⟨id, node⟩, -, hkind, heq⟩ := (lists_placed_of_plan h horder).exists_vertex he
  cases node with
  | agent b =>
    rw [PlanEntry.agent.inj heq]
    rfl
  | _ => cases hkind

/-- A topology that is validated has one server at most of each sort that claims ports, and
no two NATS buses to choose from. It is planned, and all agents of all its plans get one
address, which is that of the NATS bus wherever there is one. -/
theorem one_nats_bus_of_validate {p : Policy} {t : Topology}
    (h : (validate p t).result = .ok ()) :
    t.ServersAlone ∧ (t.vertices.filterMap natsBus?).length ≤ 1 ∧
      (∃ plan, (t.plan p).result = .ok plan) ∧
      ∃ url, t.AgentAddress url ∧ ∀ q plan, (t.plan q).result = .ok plan →
        ∀ a ∈ plan.agents, a.natsUrl = url := by
  obtain ⟨plan, hplan⟩ := exists_result_plan_iff.2 h
  have hports := portsExclusive_of_plan hplan
  exact ⟨serversAlone_of_portsExclusive hports, length_natsBuses_le_one hports, ⟨plan, hplan⟩,
    t.natsUrl, t.agentAddress_natsUrl, fun q other hother => natsUrl_of_mem_agents hother⟩

/-- Servers of different sorts, two files, and two agents. The name of the NATS bus is not
its id. -/
def exchange : Topology where
  vertices :=
    [⟨"b", .messageBus ⟨"orders", .kafka, 3, true, []⟩⟩,
      ⟨"x", .database ⟨"left", .sqlite, "3", false, none, .empty⟩⟩,
      ⟨"w", .agent ⟨"writer", [], [], none, .empty⟩⟩,
      ⟨"c", .messageBus ⟨"events", .nats, 1, false, []⟩⟩,
      ⟨"y", .database ⟨"right", .sqlite, "3", false, none, .empty⟩⟩,
      ⟨"r", .agent ⟨"reader", [], [], none, .empty⟩⟩,
      ⟨"a", .messageBus ⟨"cache", .redis, 1, false, []⟩⟩,
      ⟨"z", .database ⟨"store", .postgres, "16", true, none, .empty⟩⟩]
  links :=
    [⟨"w", "c", .dependsOn true none⟩, ⟨"r", "c", .dependsOn true none⟩,
      ⟨"w", "x", .dependsOn false none⟩, ⟨"r", "y", .dependsOn false none⟩,
      ⟨"b", "z", .dependsOn true none⟩, ⟨"a", "z", .dependsOn true none⟩]
  nodup_ids := by decide

theorem one_nats_bus_exchange :
    (validate stackPolicy exchange).result = .ok () ∧ exchange.ServersAlone ∧
      ∃ plan url, (exchange.plan stackPolicy).result = .ok plan ∧ exchange.AgentAddress url ∧
        (∀ a ∈ plan.agents, a.natsUrl = url) ∧
        plan.agents.map PlannedAgent.natsUrl = ["nats://events:4222", "nats://events:4222"] := by
  have hverdict : (validate stackPolicy exchange).result = .ok () := by decide +kernel
  obtain ⟨halone, -, -, url, haddress, hagents⟩ := one_nats_bus_of_validate hverdict
  have hvalue : (exchange.plan stackPolicy).result.map (fun plan =>
      plan.agents.map PlannedAgent.natsUrl) =
        .ok ["nats://events:4222", "nats://events:4222"] := by
    decide +kernel
  obtain ⟨plan, hplan, hurls⟩ := map_eq_ok_iff.1 hvalue
  exact ⟨hverdict, halone, plan, url, hplan, haddress, hagents stackPolicy plan hplan, hurls⟩

end Rollout
