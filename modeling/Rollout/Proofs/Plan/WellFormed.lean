import Rollout.Proofs.Plan.Ports
import Rollout.Proofs.Schema.Figures
import Rollout.Proofs.Text.Blank
import Rollout.Proofs.Topology.Decode
import Rollout.Proofs.Validation.Conditions

/-
What every plan keeps to, whatever payloads it was made of. Names, commands and versions
are filled in and clusters have members, since the validation asks for it; ports are in
their range, since payloads and tables have no others; and figures are the whole numbers
that the payloads state. The validation does not look at the names of topics, which may be
blank.
-/
namespace Rollout

open Catalog Rollout.Topology Rollout.Validation

/-! ## Conditions -/

/-- Some node has a whole number under a path of its payload. -/
def RawTopology.NodeStates (raw : RawTopology) (path : List String) (n : Nat) : Prop :=
  ∃ r ∈ raw.nodes, Json.at? r.data path = some (.nat n)

/-- Some edge to a target has a whole number under a key of its payload. -/
def RawTopology.EdgeStates (raw : RawTopology) (target key : String) (n : Nat) : Prop :=
  ∃ r ∈ raw.edges, r.target = target ∧ Json.at? r.data [key] = some (.nat n)

/-- What an entry keeps to by its collection. -/
def PlanEntry.WellFormed (raw : RawTopology) : PlanEntry → Prop
  | .service s =>
    Text.trim s.name ≠ "" ∧ Text.trim s.command ≠ "" ∧
      ∀ n, s.port = some n → IsPort n ∧ raw.NodeStates ["port"] n
  | .agent a => Text.trim a.name ≠ ""
  | .database d =>
    Text.trim d.name ≠ "" ∧ Text.trim d.version ≠ "" ∧
      (d.port = 0 ↔ d.engine = .sqlite) ∧ (d.port ≠ 0 → IsPort d.port)
  | .messageBus b =>
    Text.trim b.name ≠ "" ∧ 1 ≤ b.clusterSize ∧
      raw.NodeStates ["clusterSize"] b.clusterSize ∧ ∀ n ∈ b.ports, IsPort n
  | .loadBalancer b =>
    Text.trim b.name ≠ "" ∧ ∀ e ∈ b.backends, IsPort e.port ∧ ∀ w, e.weight = some w →
      raw.NodeStates ["strategy", "weighted", e.service] w ∨ raw.EdgeStates e.service "weight" w
  | .storage v => Text.trim v.name ≠ ""

structure Plan.WellFormed (raw : RawTopology) (plan : Plan) : Prop where
  entries : ∀ k, ∀ e ∈ plan.collection k, e.WellFormed raw
  connections : ∀ c ∈ plan.network.connections,
    IsPort c.port ∧ raw.EdgeStates c.target "port" c.port
  exposedPorts : ∀ m ∈ plan.network.exposedPorts, ∀ n ∈ m.2, IsPort n

/-! ## Nodes that are planned -/

theorem nodesWellFormed_of_plan {p : Policy} {t : Topology} {plan : Plan}
    (h : (t.plan p).result = .ok plan) : t.NodesWellFormed := by
  have hpassed : Check.nodeConfig.fault? p t = none := fault?_eq_none_of_plan h (by decide)
  exact nodeFault_eq_none_iff.1 hpassed

theorem port_planDatabase (d : Database) :
    ((planDatabase d).port = 0 ↔ d.engine = .sqlite) ∧
      ((planDatabase d).port ≠ 0 → IsPort (planDatabase d).port) := by
  have hport : (planDatabase d).port = d.engine.port?.getD 0 := rfl
  rw [hport]
  cases d.engine <;> decide

theorem exists_vertex_of_exposedPorts {t : Topology} {m : String × List Nat}
    (h : m ∈ t.network.exposedPorts) : ∃ v ∈ t.vertices, m = (v.id, v.node.exposedPorts) := by
  obtain ⟨v, hv, rfl⟩ := List.mem_map.1 (t.exposedPorts_perm.mem_iff.1 h)
  exact ⟨v, List.mem_of_mem_filter hv, rfl⟩

/-! ## Backends -/

theorem resolveBackend_eq_inl {t : Topology} {id backend : String} {s : Strategy} {e : Backend}
    (h : t.resolveBackend id s backend = .inl e) :
    ∃ service, (⟨backend, .service service⟩ : Vertex) ∈ t.vertices ∧
      e = ⟨backend, service.port.getD defaultBackendPort, t.backendWeight id s backend⟩ := by
  rw [resolveBackend] at h
  split at h
  · cases h
  · rename_i v hv
    obtain ⟨hmem, hid⟩ := vertex?_eq_some_iff.1 hv
    split at h
    · rename_i service hnode
      cases h
      obtain ⟨_, node⟩ := v
      cases hid
      cases hnode
      exact ⟨service, hmem, rfl⟩
    · cases h

theorem exists_resolveBackend_of_mem {t : Topology} {id : String} {l : LoadBalancer} {e : Backend}
    (h : e ∈ (t.planBalancer id l).backends) :
    ∃ backend, t.resolveBackend id l.strategy backend = .inl e := by
  obtain ⟨backend, -, hleft⟩ := List.mem_filterMap.1 h
  exact ⟨backend, Sum.getLeft?_eq_some_iff.1 hleft⟩

theorem linkWeight?_eq_some_iff {backend : String} {l : Link} {w : Nat} :
    linkWeight? backend l = some w ↔
      l.target = backend ∧ ∃ check, l.edge = .loadBalances (some w) check := by
  obtain ⟨source, target, edge⟩ := l
  rw [linkWeight?]
  cases edge <;> simp

/-- A weight is among those of the strategy or on an edge to the backend. -/
theorem backendWeight_eq_some {t : Topology} {id backend : String} {s : Strategy} {w : Nat}
    (h : t.backendWeight id s backend = some w) :
    (∃ weights, s = .weighted weights ∧ Record.get? weights backend = some w) ∨
      ∃ l ∈ t.links, l.target = backend ∧ ∃ check, l.edge = .loadBalances (some w) check := by
  have hlink : (t.edgesFrom id).findSome? (linkWeight? backend) = some w →
      ∃ l ∈ t.links, l.target = backend ∧ ∃ check, l.edge = .loadBalances (some w) check := by
    intro hfound
    obtain ⟨l, hl, hw⟩ := List.exists_of_findSome?_eq_some hfound
    exact ⟨l, (mem_edgesFrom.1 hl).1, linkWeight?_eq_some_iff.1 hw⟩
  cases s with
  | basic => exact .inr (hlink h)
  | weighted weights =>
    rcases Option.or_eq_some_iff.1 h with hown | ⟨-, hfound⟩
    · exact .inl ⟨weights, rfl, hown⟩
    · exact .inr (hlink hfound)

section Decoded

variable {mode : OnInvalid} {raw : RawTopology} {d : Decoded}

theorem stated_of_backendWeight (hdecode : (raw.decode mode).result = .ok d) {v : Vertex}
    {l : LoadBalancer} (hv : v ∈ d.topology.vertices) (hnode : v.node = .loadBalancer l)
    {backend : String} {w : Nat}
    (hw : d.topology.backendWeight v.id l.strategy backend = some w) :
    raw.NodeStates ["strategy", "weighted", backend] w ∨ raw.EdgeStates backend "weight" w := by
  rcases backendWeight_eq_some hw with ⟨weights, hstrategy, hown⟩ | ⟨link, hl, rfl, check, hedge⟩
  · obtain ⟨r, hr, -, hread⟩ := RawTopology.exists_raw_of_decode hdecode v hv
    rw [hnode] at hread
    exact .inl ⟨r, hr, Schema.at?_of_weighted hread hstrategy hown⟩
  · obtain ⟨r, hr, -, htarget, hread⟩ := RawTopology.exists_rawEdge_of_decode hdecode link hl
    rw [hedge] at hread
    exact .inr ⟨r, hr, htarget, Schema.at?_of_loadBalances hread⟩

theorem stated_of_port (hdecode : (raw.decode mode).result = .ok d) {id : String} {s : Service}
    (hv : (⟨id, .service s⟩ : Vertex) ∈ d.topology.vertices) {n : Nat} (hn : s.port = some n) :
    IsPort n ∧ raw.NodeStates ["port"] n := by
  obtain ⟨r, hr, -, hread⟩ := RawTopology.exists_raw_of_decode hdecode _ hv
  obtain ⟨hstated, hrange⟩ := Schema.port_of_service hread hn
  exact ⟨hrange, r, hr, hstated⟩

/-- A service is reached under its own port, or under the one of those that have none. -/
theorem isPort_of_resolveBackend (hdecode : (raw.decode mode).result = .ok d)
    {id backend : String} {s : Strategy} {e : Backend}
    (h : d.topology.resolveBackend id s backend = .inl e) : IsPort e.port := by
  obtain ⟨service, hv, rfl⟩ := resolveBackend_eq_inl h
  cases hport : service.port with
  | none => exact (by decide : IsPort defaultBackendPort)
  | some n => exact (stated_of_port hdecode hv hport).1

/-! ## Plans -/

theorem wellFormed_entry (hdecode : (raw.decode mode).result = .ok d) {v : Vertex}
    (hv : v ∈ d.topology.vertices) (hwell : v.node.WellFormed) :
    (d.topology.entry v).WellFormed raw := by
  -- The validation answers for the texts and the clusters, the payload for the figures.
  obtain ⟨id, node⟩ := v
  obtain ⟨hname, hfields⟩ := hwell
  replace hname := Text.isBlank_eq_false_iff.1 hname
  cases node with
  | service s =>
    exact ⟨hname, Text.isBlank_eq_false_iff.1 hfields, fun n hn => stated_of_port hdecode hv hn⟩
  | agent a => exact hname
  | database b => exact ⟨hname, Text.isBlank_eq_false_iff.1 hfields, port_planDatabase b⟩
  | messageBus b =>
    obtain ⟨r, hr, -, hread⟩ := RawTopology.exists_raw_of_decode hdecode _ hv
    have hsize : raw.NodeStates ["clusterSize"] b.clusterSize :=
      ⟨r, hr, Schema.clusterSize_of_messageBus hread⟩
    exact ⟨hname, hfields, hsize, isPort_of_busType b.busType⟩
  | loadBalancer l =>
    refine ⟨hname, fun e he => ?_⟩
    obtain ⟨backend, hinl⟩ := exists_resolveBackend_of_mem he
    refine ⟨isPort_of_resolveBackend hdecode hinl, fun w hw => ?_⟩
    obtain ⟨service, -, rfl⟩ := resolveBackend_eq_inl hinl
    exact stated_of_backendWeight hdecode hv rfl hw
  | storage s => exact hname

theorem stated_of_connection (hdecode : (raw.decode mode).result = .ok d) :
    ∀ c ∈ d.topology.network.connections,
      IsPort c.port ∧ raw.EdgeStates c.target "port" c.port := by
  intro c hc
  obtain ⟨⟨source, target, edge⟩, hl, hconnection⟩ := List.mem_filterMap.1 hc
  obtain ⟨r, hr, -, htarget, hread⟩ := RawTopology.exists_rawEdge_of_decode hdecode _ hl
  cases edge with
  | connectsTo protocol port encrypted =>
    cases hconnection
    obtain ⟨hstated, hrange⟩ := Schema.port_of_connectsTo hread
    exact ⟨hrange, r, hr, htarget, hstated⟩
  | _ => cases hconnection

theorem isPort_of_exposedPorts (hdecode : (raw.decode mode).result = .ok d) :
    ∀ m ∈ d.topology.network.exposedPorts, ∀ n ∈ m.2, IsPort n := by
  intro m hm n hn
  obtain ⟨v, hv, rfl⟩ := exists_vertex_of_exposedPorts hm
  obtain ⟨r, -, -, hread⟩ := RawTopology.exists_raw_of_decode hdecode v hv
  exact Schema.isPort_of_node hread n hn

/-- Every plan is well formed, whatever the payloads and the policy. -/
theorem wellFormed_of_plan (hdecode : (raw.decode mode).result = .ok d) {p : Policy}
    {plan : Plan} (hplan : (d.topology.plan p).result = .ok plan) : plan.WellFormed raw := by
  obtain ⟨order, horder, rfl⟩ := exists_order_of_plan hplan
  have hlists := lists_placed_of_plan hplan horder
  refine ⟨fun k e he => ?_, stated_of_connection hdecode, isPort_of_exposedPorts hdecode⟩
  rw [hlists.collections] at he
  obtain ⟨v, hv, rfl⟩ := List.mem_map.1 he
  have hvertex := hlists.perm.mem_iff.1 (List.mem_of_mem_filter hv)
  exact wellFormed_entry hdecode hvertex (nodesWellFormed_of_plan hplan v hvertex)

end Decoded

/-- A balancer that gives one of its backends a weight and leaves the other to an edge,
in front of a service that connects to a bus and needs a database without a port. -/
def frontage (topic : String) : RawTopology where
  nodes :=
    [⟨"api", some (.object [("kind", .text "service"), ("name", .text "api"),
        ("command", .text "serve")])⟩,
      ⟨"web", some (.object [("kind", .text "service"), ("name", .text "web"),
        ("command", .text "serve"), ("port", .nat 8080)])⟩,
      ⟨"bus", some (.object [("kind", .text "message_bus"), ("name", .text "events"),
        ("busType", .text "kafka"), ("clusterSize", .nat 3),
        ("topics", .array [.object [("name", .text topic)]])])⟩,
      ⟨"db", some (.object [("kind", .text "database"), ("name", .text "local"),
        ("engine", .text "sqlite"), ("version", .text "3")])⟩,
      ⟨"edge", some (.object [("kind", .text "load_balancer"), ("name", .text "edge"),
        ("strategy", .object [("weighted", .object [("api", .nat 2)])]),
        ("backends", .texts ["api", "web"])])⟩]
  edges :=
    [⟨"api", "bus", some (.object [("kind", .text "connects_to"), ("protocol", .text "tcp"),
        ("port", .nat 9092)])⟩,
      ⟨"api", "db", some (.object [("kind", .text "depends_on"), ("required", .bool true)])⟩,
      ⟨"edge", "web", some (.object [("kind", .text "load_balances"), ("weight", .nat 1)])⟩]

def frontagePolicy : Policy := { limits := ⟨.ofNat 4, .infinity, .infinity⟩, allowOrphans := false }

theorem wellFormed_of_frontage :
    ∃ d plan, ((frontage "orders").decode .reject).result = .ok d ∧
      (d.topology.plan frontagePolicy).result = .ok plan ∧
      plan.WellFormed (frontage "orders") ∧
      plan.loadBalancers.map PlannedBalancer.backends =
        [[⟨"api", 80, some 2⟩, ⟨"web", 8080, some 1⟩]] := by
  have hvalue : ((frontage "orders").decode .reject).result.map (fun d =>
      (d.topology.plan frontagePolicy).result.map fun plan =>
        plan.loadBalancers.map PlannedBalancer.backends) =
          .ok (.ok [[⟨"api", 80, some 2⟩, ⟨"web", 8080, some 1⟩]]) := by
    decide +kernel
  obtain ⟨d, hdecode, hresult⟩ := map_eq_ok_iff.1 hvalue
  obtain ⟨plan, hplan, hbackends⟩ := map_eq_ok_iff.1 hresult
  exact ⟨d, plan, hdecode, hplan, wellFormed_of_plan hdecode hplan, hbackends⟩

/-- A plan can list a topic whose name is blank. -/
theorem blank_topic_of_frontage :
    ∃ d plan, ((frontage " ").decode .reject).result = .ok d ∧
      (d.topology.plan frontagePolicy).result = .ok plan ∧
      ∃ bus ∈ plan.messageBuses, ∃ topic ∈ bus.topics, Text.trim topic.name = "" := by
  have hvalue : ((frontage " ").decode .reject).result.map (fun d =>
      (d.topology.plan frontagePolicy).result.map fun plan =>
        plan.messageBuses.map PlannedBus.topics) =
          .ok (.ok [[⟨" ", none, none, none⟩]]) := by
    decide +kernel
  obtain ⟨d, hdecode, hresult⟩ := map_eq_ok_iff.1 hvalue
  obtain ⟨plan, hplan, htopics⟩ := map_eq_ok_iff.1 hresult
  have hlisted : [(⟨" ", none, none, none⟩ : Topic)] ∈ plan.messageBuses.map PlannedBus.topics := by
    rw [htopics]
    exact List.mem_cons_self
  obtain ⟨bus, hbus, hbusTopics⟩ := List.mem_map.1 hlisted
  refine ⟨d, plan, hdecode, hplan, bus, hbus, ⟨" ", none, none, none⟩, ?_, by decide⟩
  rw [hbusTopics]
  exact List.mem_cons_self

end Rollout
