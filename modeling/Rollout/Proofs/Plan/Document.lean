import Rollout.CommandLine.Run
import Rollout.Proofs.Plan.ReadBack
import Rollout.Proofs.Plan.WellFormed
import Rollout.Proofs.Source.Legal
import Rollout.Proofs.Validation.Criteria

/-
Plans as documents. The figures of a plan are finite for different reasons: whole numbers
and ports are read as such, the tables of engines and buses have nothing else, and the
ceilings let no footprint pass that is not finite. The seconds between the health checks of
a balancer are the one figure that nothing bounds from above: a plan is read back as it was,
up to the sign of its zeros, exactly where all of those are finite.
-/
namespace Rollout

open Catalog Rollout.Topology Rollout.Validation

/-! ## Entries as documents -/

def PlanEntry.toJson : PlanEntry → Json
  | .service s => Plan.serviceJson s
  | .agent a => Plan.agentJson a
  | .database d => Plan.databaseJson d
  | .messageBus b => Plan.busJson b
  | .loadBalancer b => Plan.balancerJson b
  | .storage v => Plan.volumeJson v

/-- The figures of an entry that need not be finite as they are read. -/
def PlanEntry.Finite : PlanEntry → Prop
  | .service s => ∀ c, s.resources.cpuCores = some c → c.isFinite = true
  | .agent a => ∀ c, a.resources.cpuCores = some c → c.isFinite = true
  | .database d => ∀ c, d.resources.cpuCores = some c → c.isFinite = true
  | .messageBus _ => True
  | .loadBalancer b => b.healthCheckIntervalSeconds.isFinite = true
  | .storage _ => True

namespace Plan

@[simp] theorem lossless_recordJson_iff {α : Type} {encode : α → Json} {r : Record α} :
    (Schema.recordJson encode r).Lossless ↔ ∀ m ∈ r, (encode m.2).Lossless := by
  rw [Schema.recordJson, Json.lossless_object_iff, List.forall_mem_map]

@[simp] theorem lossless_wordJson {α : Type} [Worded α] (a : α) : (Schema.wordJson a).Lossless :=
  .text _

@[simp] theorem lossless_resourcesJson_iff {r : Resources} :
    (resourcesJson r).Lossless ↔ ∀ c, r.cpuCores = some c → c.isFinite = true := by
  simp [resourcesJson, openNat]

end Plan

theorem PlanEntry.lossless_toJson_iff {e : PlanEntry} : e.toJson.Lossless ↔ e.Finite := by
  cases e with
  | service s =>
    simp [toJson, Finite, Plan.serviceJson, Plan.texts, Plan.openNat, Schema.healthCheckJson]
  | agent a => simp [toJson, Finite, Plan.agentJson, Plan.texts, Schema.rateLimitJson]
  | database d => simp [toJson, Finite, Plan.databaseJson]
  | messageBus b => simp [toJson, Finite, Plan.busJson, Plan.ports, Plan.topicJson, Plan.openNat]
  | loadBalancer b => simp [toJson, Finite, Plan.balancerJson, Plan.backendJson, Plan.openNat]
  | storage v => simp [toJson, Finite, Plan.volumeJson, Plan.mountJson]

/-- The entries for the nodes of a kind, as a document. -/
def Plan.entriesJson (p : Plan) (k : NodeKind) : Json :=
  .array ((p.collection k).map PlanEntry.toJson)

namespace Plan

variable {plan : Plan}

theorem toJson_eq (p : Plan) :
    p.toJson = .object
      [("services", p.entriesJson .service), ("databases", p.entriesJson .database),
        ("agents", p.entriesJson .agent), ("messageBuses", p.entriesJson .messageBus),
        ("loadBalancers", p.entriesJson .loadBalancer),
        ("storageVolumes", p.entriesJson .storage),
        ("dependencies", dependenciesJson p.dependencies),
        ("networkTopology", networkJson p.network)] := by
  simp only [toJson, entriesJson, collection, List.map_map]
  rfl

theorem lossless_entriesJson_iff {k : NodeKind} :
    (plan.entriesJson k).Lossless ↔ ∀ e ∈ plan.collection k, e.Finite := by
  rw [entriesJson, Json.lossless_array_iff, List.forall_mem_map]
  simp only [PlanEntry.lossless_toJson_iff]

theorem lossless_dependenciesJson (d : Record (List String)) : (dependenciesJson d).Lossless := by
  simp [dependenciesJson, texts]

theorem lossless_networkJson (n : NetworkPlan) : (networkJson n).Lossless := by
  simp [networkJson, connectionJson, ports]

theorem lossless_toJson_iff : plan.toJson.Lossless ↔ ∀ k, ∀ e ∈ plan.collection k, e.Finite := by
  rw [toJson_eq, Json.lossless_object_iff]
  simp only [List.forall_mem_cons, lossless_entriesJson_iff]
  constructor
  · rintro ⟨hservices, hdatabases, hagents, hbuses, hbalancers, hvolumes, -⟩ k
    cases k <;> assumption
  · intro h
    exact ⟨h _, h _, h _, h _, h _, h _, lossless_dependenciesJson _, lossless_networkJson _,
      List.forall_mem_nil _⟩

end Plan

/-! ## Legal payloads -/

theorem legal_nat_of_isPort {n : Nat} (h : IsPort n) : (Json.nat n).Legal :=
  .number (Binary64.isBinary64_ofNat (h.2.trans (by decide)))

theorem legal_ports {ns : List Nat} (h : ∀ n ∈ ns, IsPort n) : (Plan.ports ns).Legal := by
  refine .array fun v hv => ?_
  obtain ⟨n, hn, rfl⟩ := List.mem_map.1 hv
  exact legal_nat_of_isPort (h n hn)

namespace RawTopology.Legal

variable {raw : RawTopology} {n : Nat}

theorem nodeStates (hraw : raw.Legal) {path : List String} (h : raw.NodeStates path n) :
    (Json.nat n).Legal := by
  obtain ⟨r, hr, hat⟩ := h
  exact Json.legal_of_at? (hraw.nodes r hr) hat

theorem edgeStates (hraw : raw.Legal) {target key : String} (h : raw.EdgeStates target key n) :
    (Json.nat n).Legal := by
  obtain ⟨r, hr, -, hat⟩ := h
  exact Json.legal_of_at? (hraw.edges r hr) hat

end RawTopology.Legal

section Members

open Schema

variable {ms : List (String × Json)}

theorem legal_serviceJson (hms : (Json.object ms).Legal) {s : Service}
    (h : serviceFields ms = .valid s) (t : Topology) (id : String) :
    (Plan.serviceJson (t.planService id s)).Legal := by
  have hkeys : ["name", "command", "args", "environment", "port", "healthCheck", "resources",
    "dependencies"].Pairwise Record.Precedes := by decide
  obtain ⟨-, -, -, henvironment, hport, hcheck, hresources⟩ := serviceFields_eq_valid_iff.1 h
  have hempty : (recordJson Json.text []).Legal :=
    .object List.Pairwise.nil (List.forall_mem_nil _)
  refine .object hkeys ?_
  simp only [List.forall_mem_cons]
  exact ⟨.text _, .text _, Json.legal_texts _,
    (keeps_orElse (keeps_record keeps_text) hempty).field hms henvironment,
    (keeps_optional keeps_port).field hms hport,
    (keeps_optional keeps_healthCheck).field hms hcheck,
    keeps_resources.field hms hresources, Json.legal_texts _, List.forall_mem_nil _⟩

theorem legal_agentJson (hms : (Json.object ms).Legal) {a : Agent}
    (h : agentFields ms = .valid a) (natsUrl : String) :
    (Plan.agentJson (planAgent natsUrl a)).Legal := by
  have hkeys : ["name", "capabilities", "subscriptions", "natsUrl", "rateLimit",
    "resources"].Pairwise Record.Precedes := by decide
  obtain ⟨-, -, -, hlimit, hresources⟩ := agentFields_eq_valid_iff.1 h
  refine .object hkeys ?_
  simp only [List.forall_mem_cons]
  exact ⟨.text _, Json.legal_texts _, Json.legal_texts _, .text _,
    (keeps_optional keeps_rateLimit).field hms hlimit, keeps_resources.field hms hresources,
    List.forall_mem_nil _⟩

theorem legal_databaseJson (hms : (Json.object ms).Legal) {d : Database}
    (h : databaseFields ms = .valid d) : (Plan.databaseJson (planDatabase d)).Legal := by
  have hkeys : ["name", "engine", "version", "port", "persistent", "backupSchedule",
    "resources"].Pairwise Record.Precedes := by decide
  have hport : (planDatabase d).port < 2 ^ 53 := by
    rcases Nat.eq_zero_or_pos (planDatabase d).port with hzero | hpos
    · rw [hzero]
      decide
    · exact Nat.lt_of_le_of_lt ((port_planDatabase d).2 (Nat.ne_of_gt hpos)).2 (by decide)
  obtain ⟨-, -, -, -, hbackup, hresources⟩ := databaseFields_eq_valid_iff.1 h
  refine .object hkeys ?_
  simp only [List.forall_mem_cons]
  exact ⟨.text _, .text _, .text _, .number (Binary64.isBinary64_ofNat hport.le), .bool _,
    (keeps_optional keeps_text).field hms hbackup, keeps_resources.field hms hresources,
    List.forall_mem_nil _⟩

theorem legal_busJson (hms : (Json.object ms).Legal) {b : MessageBus}
    (h : messageBusFields ms = .valid b) : (Plan.busJson (planBus b)).Legal := by
  have hkeys : ["name", "busType", "clusterSize", "persistence", "ports", "topics"].Pairwise
    Record.Precedes := by decide
  obtain ⟨-, -, hsize, -, htopics⟩ := messageBusFields_eq_valid_iff.1 h
  refine .object hkeys ?_
  simp only [List.forall_mem_cons]
  exact ⟨.text _, .text _, keeps_natural.field hms hsize, .bool _,
    legal_ports (isPort_of_busType b.busType),
    (keeps_list keeps_topic).field hms htopics,
    List.forall_mem_nil _⟩

theorem legal_balancerJson (hms : (Json.object ms).Legal) {l : LoadBalancer}
    (h : loadBalancerFields ms = .valid l) {t : Topology} {id : String}
    (hbackends : ∀ e ∈ (t.planBalancer id l).backends, (Plan.backendJson e).Legal) :
    (Plan.balancerJson (t.planBalancer id l)).Legal := by
  have hkeys : ["name", "strategy", "backends", "healthCheckIntervalSeconds"].Pairwise
    Record.Precedes := by decide
  have hdefault : (Json.number defaultHealthCheckInterval).Legal :=
    .number (Binary64.isBinary64_ofNat (by decide))
  obtain ⟨-, -, hinterval, -⟩ := loadBalancerFields_eq_valid_iff.1 h
  refine .object hkeys ?_
  simp only [List.forall_mem_cons]
  exact ⟨.text _, .text _, .array (List.forall_mem_map.2 hbackends),
    (keeps_orElse keeps_nonNegative hdefault).field hms hinterval, List.forall_mem_nil _⟩

theorem legal_volumeJson (v : PlannedVolume) : (Plan.volumeJson v).Legal := by
  have hkeys : ["name", "storageType", "size", "mountPath", "accessMode", "mountPaths"].Pairwise
    Record.Precedes := by decide
  have hmount : ["service", "path", "readOnly"].Pairwise Record.Precedes := by decide
  refine .object hkeys ?_
  simp only [List.forall_mem_cons]
  refine ⟨.text _, .text _, .text _, .text _, .text _,
    .array (List.forall_mem_map.2 fun m _ => .object hmount ?_), List.forall_mem_nil _⟩
  simp only [List.forall_mem_cons]
  exact ⟨.text _, .text _, .bool _, List.forall_mem_nil _⟩

end Members

section Decoded

variable {mode : OnInvalid} {raw : RawTopology} {d : Decoded}

theorem legal_backendJson (hraw : raw.Legal) (hdecode : (raw.decode mode).result = .ok d)
    {id : String} {l : LoadBalancer}
    (hv : (⟨id, .loadBalancer l⟩ : Vertex) ∈ d.topology.vertices) :
    ∀ e ∈ (d.topology.planBalancer id l).backends, (Plan.backendJson e).Legal := by
  have hkeys : ["service", "port", "weight"].Pairwise Record.Precedes := by decide
  intro e he
  obtain ⟨backend, hinl⟩ := exists_resolveBackend_of_mem he
  have hweight : (Plan.openNat e.weight).Legal := by
    refine Json.legal_orNull_iff.2 fun w hw => ?_
    obtain ⟨service, -, rfl⟩ := resolveBackend_eq_inl hinl
    rcases stated_of_backendWeight hdecode hv rfl hw with hnode | hedge
    · exact hraw.nodeStates hnode
    · exact hraw.edgeStates hedge
  refine .object hkeys ?_
  simp only [List.forall_mem_cons]
  exact ⟨.text _, legal_nat_of_isPort (isPort_of_resolveBackend hdecode hinl), hweight,
    List.forall_mem_nil _⟩

theorem legal_entry (hraw : raw.Legal) (hdecode : (raw.decode mode).result = .ok d) {v : Vertex}
    (hv : v ∈ d.topology.vertices) : (d.topology.entry v).toJson.Legal := by
  obtain ⟨id, node⟩ := v
  obtain ⟨r, hr, -, hread⟩ := RawTopology.exists_raw_of_decode hdecode _ hv
  obtain ⟨j, ms, hj, hms, hfields⟩ := Schema.exists_members_of_node hread
  have hlegal := (hraw.nodes r hr j hj).members hms
  cases node with
  | service s => exact legal_serviceJson hlegal hfields d.topology id
  | agent a => exact legal_agentJson hlegal hfields d.topology.natsUrl
  | database b => exact legal_databaseJson hlegal hfields
  | messageBus b => exact legal_busJson hlegal hfields
  | loadBalancer l => exact legal_balancerJson hlegal hfields (legal_backendJson hraw hdecode hv)
  | storage s => exact legal_volumeJson _

theorem legal_networkJson (hdecode : (raw.decode mode).result = .ok d) :
    (Plan.networkJson d.topology.network).Legal := by
  have hkeys : ["connections", "exposedPorts"].Pairwise Record.Precedes := by decide
  have hconnection : ["from", "to", "protocol", "port", "encrypted"].Pairwise Record.Precedes := by
    decide
  have hports : Record.Canonical d.topology.network.exposedPorts := Record.canonical_ofList _
  refine .object hkeys ?_
  simp only [List.forall_mem_cons]
  refine ⟨.array (List.forall_mem_map.2 fun c hc => .object hconnection ?_),
    .object ((Record.canonical_map_iff _).2 hports) (List.forall_mem_map.2 fun m hm => ?_),
    List.forall_mem_nil _⟩
  · simp only [List.forall_mem_cons]
    exact ⟨.text _, .text _, .text _, legal_nat_of_isPort (stated_of_connection hdecode c hc).1,
      .bool _, List.forall_mem_nil _⟩
  · exact legal_ports (isPort_of_exposedPorts hdecode m hm)

theorem legal_dependenciesJson (t : Topology) : (Plan.dependenciesJson t.dependencies).Legal := by
  have hkeys : Record.Canonical t.dependencies := Record.canonical_ofList _
  refine .object ((Record.canonical_map_iff _).2 hkeys) ?_
  exact List.forall_mem_map.2 fun m _ => Json.legal_texts m.2

theorem legal_toJson (hraw : raw.Legal) (hdecode : (raw.decode mode).result = .ok d) {p : Policy}
    {plan : Plan} (hplan : (d.topology.plan p).result = .ok plan) : plan.toJson.Legal := by
  have hkeys : ["services", "databases", "agents", "messageBuses", "loadBalancers",
    "storageVolumes", "dependencies", "networkTopology"].Pairwise Record.Precedes := by decide
  obtain ⟨order, horder, rfl⟩ := exists_order_of_plan hplan
  have hlists := lists_placed_of_plan hplan horder
  have hentries : ∀ k, ((d.topology.planOf order).entriesJson k).Legal := by
    intro k
    refine .array (List.forall_mem_map.2 fun e he => ?_)
    obtain ⟨v, hv, -, rfl⟩ := hlists.exists_vertex he
    exact legal_entry hraw hdecode hv
  rw [Plan.toJson_eq]
  refine .object hkeys ?_
  simp only [List.forall_mem_cons]
  exact ⟨hentries _, hentries _, hentries _, hentries _, hentries _, hentries _,
    legal_dependenciesJson _, legal_networkJson hdecode, List.forall_mem_nil _⟩

/-! ## Finite figures -/

/-- Under finite ceilings every figure of a plan is finite, apart from the balancers. -/
theorem finite_of_plan (hdecode : (raw.decode mode).result = .ok d) {limits : Limits}
    (hlimits : ∀ dim, (limits.get dim).isFinite = true) {allowOrphans : Bool} {plan : Plan}
    (hplan : (d.topology.plan { limits, allowOrphans }).result = .ok plan) {k : NodeKind}
    (hk : k ≠ .loadBalancer) : ∀ e ∈ plan.collection k, e.Finite := by
  have hpassed : Check.resources.fault? { limits, allowOrphans } d.topology = none :=
    fault?_eq_none_of_plan hplan (by decide)
  have hfootprint := isFinite_of_budgetFault hlimits (footprintsNonNegative_of_decode hdecode)
    hpassed
  obtain ⟨order, horder, rfl⟩ := exists_order_of_plan hplan
  have hlists := lists_placed_of_plan hplan horder
  intro e he
  obtain ⟨⟨id, node⟩, hvertex, hkind, rfl⟩ := hlists.exists_vertex he
  have hcores : ∀ r : Resources, node.resources? = some r →
      ∀ c, r.cpuCores = some c → c.isFinite = true := by
    intro r hr c hc
    have hfinite := hfootprint _ hvertex r hr
    rwa [hc] at hfinite
  cases node with
  | service s => exact hcores s.resources rfl
  | agent a => exact hcores a.resources rfl
  | database b => exact hcores b.resources rfl
  | messageBus b => trivial
  | loadBalancer l => exact absurd hkind.symm hk
  | storage s => trivial

/-- The interval of a balancer is finite unless its payload states an infinite one. -/
theorem interval_of_plan (hdecode : (raw.decode mode).result = .ok d) {p : Policy} {plan : Plan}
    (hplan : (d.topology.plan p).result = .ok plan) :
    ∀ b ∈ plan.loadBalancers, b.healthCheckIntervalSeconds.isFinite = true ∨
      b.healthCheckIntervalSeconds = .infinity ∧ ∃ r ∈ raw.nodes,
        Json.at? r.data ["healthCheckIntervalSeconds"] = some (.number .infinity) := by
  obtain ⟨order, horder, rfl⟩ := exists_order_of_plan hplan
  have hlists := lists_placed_of_plan hplan horder
  intro b hb
  obtain ⟨id, l, hvertex, rfl⟩ := hlists.exists_loadBalancer hb
  obtain ⟨r, hr, -, hread⟩ := RawTopology.exists_raw_of_decode hdecode _ hvertex
  rcases Schema.interval_of_loadBalancer hread with hfinite | ⟨hinfinite, hstated⟩
  · exact .inl hfinite
  · exact .inr ⟨hinfinite, r, hr, hstated⟩

/-! ## Reading plans back -/

/-- The only number of a list of balancers that need not be finite is an interval. -/
theorem Plan.numberAt_balancers {plan : Plan} {path : List Schema.Step} {n : Number}
    (h : (plan.entriesJson .loadBalancer).NumberAt path n) :
    n.isFinite = true ∨ ∃ i b, plan.loadBalancers[i]? = some b ∧
      path = [.item i, .key "healthCheckIntervalSeconds"] ∧ n = b.healthCheckIntervalSeconds := by
  obtain ⟨i, v, rest, hi, rfl, hitem⟩ := Json.numberAt_array_iff.1 h
  rw [collection, List.map_map, List.getElem?_map, Option.map_eq_some_iff] at hi
  obtain ⟨b, hb, rfl⟩ := hi
  obtain ⟨m, hm, rest, rfl, hnumber⟩ := Json.numberAt_object_iff.1 hitem
  have hbackends : (Json.array (b.backends.map backendJson)).Lossless := by
    simp [backendJson, openNat]
  simp only [List.mem_cons, List.not_mem_nil, or_false] at hm
  rcases hm with rfl | rfl | rfl | rfl
  · cases hnumber
  · cases hnumber
  · exact .inl (hbackends.isFinite hnumber)
  · cases hnumber
    exact .inr ⟨i, b, hb, rfl, rfl⟩

theorem Plan.numberAt_interval {plan : Plan} {i : Nat} {b : PlannedBalancer}
    (h : plan.loadBalancers[i]? = some b) :
    plan.toJson.NumberAt [.key "loadBalancers", .item i, .key "healthCheckIntervalSeconds"]
      b.healthCheckIntervalSeconds := by
  have hbalancer : (balancerJson b).NumberAt [.key "healthCheckIntervalSeconds"]
      b.healthCheckIntervalSeconds :=
    Json.numberAt_object_iff.2
      ⟨("healthCheckIntervalSeconds", .number b.healthCheckIntervalSeconds), by simp, [], rfl,
        .here _⟩
  have hitem : ((plan.collection .loadBalancer).map PlanEntry.toJson)[i]? =
      some (balancerJson b) := by
    rw [collection, List.map_map, List.getElem?_map, h]
    rfl
  rw [toJson_eq]
  exact Json.numberAt_object_iff.2 ⟨("loadBalancers", plan.entriesJson .loadBalancer), by simp, _,
    rfl, Json.numberAt_array_iff.2 ⟨i, _, _, hitem, rfl, hbalancer⟩⟩

theorem Plan.numberAt_toJson {plan : Plan}
    (hfinite : ∀ k, k ≠ .loadBalancer → ∀ e ∈ plan.collection k, e.Finite)
    {path : List Schema.Step} {n : Number} (h : plan.toJson.NumberAt path n) :
    n.isFinite = true ∨ ∃ i b, plan.loadBalancers[i]? = some b ∧
      path = [.key "loadBalancers", .item i, .key "healthCheckIntervalSeconds"] ∧
      n = b.healthCheckIntervalSeconds := by
  rw [toJson_eq] at h
  obtain ⟨m, hm, rest, rfl, hnumber⟩ := Json.numberAt_object_iff.1 h
  have hentries : ∀ k, k ≠ .loadBalancer → (plan.entriesJson k).NumberAt rest n →
      n.isFinite = true :=
    fun k hk hat => (lossless_entriesJson_iff.2 (hfinite k hk)).isFinite hat
  simp only [List.mem_cons, List.not_mem_nil, or_false] at hm
  rcases hm with rfl | rfl | rfl | rfl | rfl | rfl | rfl | rfl
  · exact .inl (hentries _ (by decide) hnumber)
  · exact .inl (hentries _ (by decide) hnumber)
  · exact .inl (hentries _ (by decide) hnumber)
  · exact .inl (hentries _ (by decide) hnumber)
  · rcases numberAt_balancers hnumber with hn | ⟨i, b, hb, rfl, hn⟩
    · exact .inl hn
    · exact .inr ⟨i, b, hb, rfl, hn⟩
  · exact .inl (hentries _ (by decide) hnumber)
  · exact .inl ((lossless_dependenciesJson _).isFinite hnumber)
  · exact .inl ((lossless_networkJson _).isFinite hnumber)

/-- Under finite ceilings a plan says everything as a document unless an interval is
infinite. -/
theorem lossless_toJson_of_plan (hdecode : (raw.decode mode).result = .ok d) {limits : Limits}
    (hlimits : ∀ dim, (limits.get dim).isFinite = true) {allowOrphans : Bool} {plan : Plan}
    (hplan : (d.topology.plan { limits, allowOrphans }).result = .ok plan) :
    plan.toJson.Lossless ↔ ∀ b ∈ plan.loadBalancers, b.healthCheckIntervalSeconds ≠ .infinity := by
  rw [Plan.lossless_toJson_iff]
  constructor
  · intro h b hb hinfinite
    have hfinite : b.healthCheckIntervalSeconds.isFinite = true :=
      h .loadBalancer (.loadBalancer b) (List.mem_map_of_mem hb)
    rw [hinfinite] at hfinite
    cases hfinite
  · intro h k
    by_cases hk : k = .loadBalancer
    · subst hk
      refine List.forall_mem_map.2 fun b hb => ?_
      exact (interval_of_plan hdecode hplan b hb).resolve_right fun hb' => h b hb hb'.1
    · exact finite_of_plan hdecode hlimits hplan hk

/-- Under finite ceilings every number of a plan is finite, but for an infinite interval that
the payload of a balancer states. The document of the plan says all of it, and the text of the
document is read back as the plan, up to the sign of its zeros, exactly where there is no
infinite interval. A negative zero that a payload states is written as `0` and read back as
zero, which is the same number here. -/
theorem plan_reads_back (hraw : raw.Legal) (hdecode : (raw.decode mode).result = .ok d)
    {limits : Limits} (hlimits : ∀ dim, (limits.get dim).isFinite = true) {allowOrphans : Bool}
    {plan : Plan} (hplan : (d.topology.plan { limits, allowOrphans }).result = .ok plan) :
    (∀ path n, plan.toJson.NumberAt path n → n.isFinite = true ∨
        n = .infinity ∧
          (∃ i, path = [.key "loadBalancers", .item i, .key "healthCheckIntervalSeconds"]) ∧
          ∃ r ∈ raw.nodes,
            Json.at? r.data ["healthCheckIntervalSeconds"] = some (.number .infinity)) ∧
      Plan.ofDocument? plan.toJson = some plan ∧
      (∀ a : CommandLine.Arguments, a.format = .json →
        Json.read? (CommandLine.planAnswer a plan) = some plan.toJson.written) ∧
      (plan.toJson.written = plan.toJson ↔
        ∀ b ∈ plan.loadBalancers, b.healthCheckIntervalSeconds ≠ .infinity) ∧
      ∀ a : CommandLine.Arguments, a.format = .json →
        ((Json.read? (CommandLine.planAnswer a plan)).bind Plan.ofDocument? = some plan ↔
          ∀ b ∈ plan.loadBalancers, b.healthCheckIntervalSeconds ≠ .infinity) := by
  have hlegal := legal_toJson hraw hdecode hplan
  have hintervals := interval_of_plan hdecode hplan
  have hfinite : ∀ k, k ≠ .loadBalancer → ∀ e ∈ plan.collection k, e.Finite :=
    fun k hk => finite_of_plan hdecode hlimits hplan hk
  have hanswer : ∀ a : CommandLine.Arguments, a.format = .json →
      Json.read? (CommandLine.planAnswer a plan) = some plan.toJson.written := by
    intro a ha
    rw [CommandLine.planAnswer, ha]
    exact Json.read?_pretty hlegal
  have hsame : plan.toJson.written = plan.toJson ↔
      ∀ b ∈ plan.loadBalancers, b.healthCheckIntervalSeconds ≠ .infinity := by
    rw [← lossless_toJson_of_plan hdecode hlimits hplan]
    exact ⟨hlegal.lossless_of_written_eq, Json.Lossless.written_eq⟩
  refine ⟨fun path n hn => ?_, Plan.ofDocument?_toJson plan, hanswer, hsame, fun a ha => ?_⟩
  · rcases Plan.numberAt_toJson hfinite hn with hn | ⟨i, b, hb, hpath, rfl⟩
    · exact .inl hn
    · rcases hintervals b (List.mem_of_getElem? hb) with hn | ⟨hn, hstated⟩
      · exact .inl hn
      · exact .inr ⟨hn, ⟨i, hpath⟩, hstated⟩
  · rw [hanswer a ha, Option.bind_some]
    constructor
    · intro h b hb hinfinite
      have hinterval := Plan.isFinite_of_ofDocument? hlegal.lossless_written h b hb
      rw [hinfinite] at hinterval
      cases hinterval
    · intro h
      rw [hsame.2 h]
      exact Plan.ofDocument?_toJson plan

end Decoded

/-- A balancer with some interval, in front of nothing that is there. -/
def lobbyText (interval : String) : String :=
  "\x7b\"nodes\":[\x7b\"id\":\"front\",\"data\":\x7b\"kind\":\"load_balancer\"," ++
    "\"name\":\"front\",\"strategy\":\"random\",\"backends\":[\"api\"]," ++
    "\"healthCheckIntervalSeconds\":" ++ interval ++ "\x7d\x7d]\x7d"

def lobbyLimits : Limits := ⟨.ofNat 4, .ofNat 1024, .ofNat 10⟩

theorem finite_lobbyLimits : ∀ dim, (lobbyLimits.get dim).isFinite = true := by
  intro dim
  cases dim <;> rfl

/-- The balancers that are planned for a lobby. -/
def lobbyBalancers (interval : String) :
    Except Source.DocumentFault (Except Fault (Except Fault (List PlannedBalancer))) :=
  (Source.ofText (lobbyText interval) "lobby.json").map fun raw =>
    (raw.decode .reject).result.map fun d =>
      (d.topology.plan { limits := lobbyLimits, allowOrphans := true }).result.map
        Plan.loadBalancers

theorem exists_plan_of_lobby {interval : String} {bs : List PlannedBalancer}
    (h : lobbyBalancers interval = .ok (.ok (.ok bs))) :
    ∃ raw d plan, Source.ofText (lobbyText interval) "lobby.json" = .ok raw ∧
      (raw.decode .reject).result = .ok d ∧
      (d.topology.plan { limits := lobbyLimits, allowOrphans := true }).result = .ok plan ∧
      plan.loadBalancers = bs := by
  obtain ⟨raw, hraw, hresult⟩ := map_eq_ok_iff.1 h
  obtain ⟨d, hdecode, hplans⟩ := map_eq_ok_iff.1 hresult
  obtain ⟨plan, hplan, hbs⟩ := map_eq_ok_iff.1 hplans
  exact ⟨raw, d, plan, hraw, hdecode, hplan, hbs⟩

/-- A plan with fractions among its figures is read back as it was. -/
theorem plan_reads_back_of_lobby :
    ∃ raw d plan, Source.ofText (lobbyText "7.5") "lobby.json" = .ok raw ∧
      (raw.decode .reject).result = .ok d ∧
      (d.topology.plan { limits := lobbyLimits, allowOrphans := true }).result = .ok plan ∧
      (Json.read? (CommandLine.planAnswer ⟨"lobby.json", .json, .plan, true⟩ plan)).bind
        Plan.ofDocument? = some plan := by
  have hvalue : lobbyBalancers "7.5" =
      .ok (.ok (.ok
        [⟨"front", "random", [], .finite (mkRat 15 2)⟩])) := by
    decide +kernel
  obtain ⟨raw, d, plan, hraw, hdecode, hplan, hbalancers⟩ := exists_plan_of_lobby hvalue
  have hlegal := Source.legal_of_ofText hraw
  obtain ⟨-, -, -, -, hread⟩ := plan_reads_back hlegal hdecode finite_lobbyLimits hplan
  have hintervals : ∀ b ∈ plan.loadBalancers, b.healthCheckIntervalSeconds ≠ .infinity := by
    rw [hbalancers]
    decide
  exact ⟨raw, d, plan, hraw, hdecode, hplan, (hread _ rfl).2 hintervals⟩

/-- A plan can have an infinite interval, and then it is not read back. -/
theorem infinite_interval_of_lobby :
    ∃ raw d plan, Source.ofText (lobbyText "1e400") "lobby.json" = .ok raw ∧
      (raw.decode .reject).result = .ok d ∧
      (d.topology.plan { limits := lobbyLimits, allowOrphans := true }).result = .ok plan ∧
      plan.toJson.NumberAt [.key "loadBalancers", .item 0, .key "healthCheckIntervalSeconds"]
        .infinity ∧
      Json.read? plan.toJson.pretty ≠ some plan.toJson ∧
      (Json.read? plan.toJson.pretty).bind Plan.ofDocument? ≠ some plan := by
  have hvalue : lobbyBalancers "1e400" =
      .ok (.ok (.ok [⟨"front", "random", [], .infinity⟩])) := by
    decide +kernel
  obtain ⟨raw, d, plan, hraw, hdecode, hplan, hbalancers⟩ := exists_plan_of_lobby hvalue
  have hlegal := legal_toJson (Source.legal_of_ofText hraw) hdecode hplan
  have hfirst : plan.loadBalancers[0]? =
      some ⟨"front", "random", [], .infinity⟩ := by
    rw [hbalancers]
    rfl
  have hnumber := Plan.numberAt_interval hfirst
  refine ⟨raw, d, plan, hraw, hdecode, hplan, hnumber, fun hread => ?_, fun hread => ?_⟩
  · have hfinite := ((Json.read?_pretty_eq_self_iff hlegal).1 hread).isFinite hnumber
    cases hfinite
  · rw [Json.read?_pretty hlegal, Option.bind_some] at hread
    have hfinite := Plan.isFinite_of_ofDocument? hlegal.lossless_written hread _
      (List.mem_of_getElem? hfirst)
    cases hfinite

end Rollout
