import Rollout.Plan.Basic
import Rollout.Schedule.Sweep
import Rollout.Validation.Verdict

/-
From a topology to its plan. The topology is validated and ordered first; every entry
of the plan then comes from one node, in start order.
-/
namespace Rollout

open Catalog

namespace Topology

/-! ## Dependencies and network -/

/-- The startup targets of every source, in record order. Neither end has to be a
node. -/
def dependencies (t : Topology) : Record (List String) :=
  Record.ofList (Grouping.ofList ((t.links.filter isStartupLink).map fun l => (l.source, l.target)))

def connection? (l : Link) : Option Connection :=
  match l.edge with
  | .connectsTo protocol port encrypted => some ⟨l.source, l.target, protocol, port, encrypted⟩
  | _ => none

def network (t : Topology) : NetworkPlan where
  connections := t.links.filterMap connection?
  exposedPorts :=
    Record.ofList
      ((t.vertices.filter fun v => !v.node.exposedPorts.isEmpty).map fun v =>
        (v.id, v.node.exposedPorts))

/-! ## Entries -/

def planService (t : Topology) (id : String) (s : Service) : PlannedService where
  name := s.name
  command := s.command
  args := s.args
  environment := s.environment
  port := s.port
  healthCheck := s.healthCheck
  resources := s.resources
  dependencies := t.startupTargets id

/-- The services in topology order. -/
def services (t : Topology) : List PlannedService :=
  t.vertices.filterMap fun v =>
    match v.node with
    | .service s => some (t.planService v.id s)
    | _ => none

def planDatabase (d : Database) : PlannedDatabase where
  name := d.name
  engine := d.engine
  version := d.version
  port := d.engine.port?.getD 0
  persistent := d.persistent
  backupSchedule := d.backupSchedule
  resources := d.resources

def planAgent (natsUrl : String) (a : Agent) : PlannedAgent where
  name := a.name
  capabilities := a.capabilities
  subscriptions := a.subscriptions
  natsUrl := natsUrl
  rateLimit := a.rateLimit
  resources := a.resources

def planBus (b : MessageBus) : PlannedBus where
  name := b.name
  busType := b.busType
  clusterSize := b.clusterSize
  persistence := b.persistence
  ports := b.busType.ports
  topics := b.topics

def mount? (l : Link) : Option Mount :=
  match l.edge with
  | .mountsVolume path readOnly => some ⟨l.source, path, readOnly⟩
  | _ => none

def planVolume (t : Topology) (id : String) (s : Storage) : PlannedVolume where
  name := s.name
  storageType := s.storageType
  size := s.size
  mountPath := s.mountPath
  accessMode := s.accessMode
  mounts := (t.edgesTo id).filterMap mount?

/-! ## Message bus of the agents -/

/-- The address of a NATS server. -/
def natsAddress (host : String) : String := "nats://" ++ host ++ ":" ++ toString natsClientPort

/-- The address agents get where the topology has no NATS bus. -/
def defaultNatsUrl : String := natsAddress "localhost"

/-- The id and the name of a NATS bus. -/
def natsBus? (v : Vertex) : Option (String × String) :=
  match v.node with
  | .messageBus b => if b.busType = .nats then some (v.id, b.name) else none
  | _ => none

/-- The entry with the smallest id. -/
def smallestId : List (String × String) → Option (String × String)
  | [] => none
  | entry :: rest =>
    match smallestId rest with
    | some other => if Text.precedes other.1 entry.1 then some other else some entry
    | none => some entry

/-- The address of the NATS bus, the one with the smallest id if there are several. -/
def natsUrl (t : Topology) : String :=
  match smallestId (t.vertices.filterMap natsBus?) with
  | some (_, name) => natsAddress name
  | none => defaultNatsUrl

/-! ## Load balancers -/

/-- The port of a service that declares none. -/
def defaultBackendPort : Nat := 80

/-- The weight an edge from a balancer gives a backend. -/
def linkWeight? (backend : String) (l : Link) : Option Nat :=
  match l.edge with
  | .loadBalances weight _ => if l.target = backend then weight else none
  | _ => none

/-- The weight of a backend: its own entry among the weights of the strategy, else that
of the first edge from the balancer to it that carries one. -/
def backendWeight (t : Topology) (id : String) (s : Strategy) (backend : String) : Option Nat :=
  let fromLinks := (t.edgesFrom id).findSome? (linkWeight? backend)
  match s with
  | .weighted weights => (Record.get? weights backend).or fromLinks
  | .basic _ => fromLinks

/-- What becomes of a backend: an entry, or the reason why there is none. -/
def resolveBackend (t : Topology) (id : String) (s : Strategy) (backend : String) :
    Backend ⊕ String :=
  match t.vertex? backend with
  | none => .inr "node not found"
  | some v =>
    match v.node with
    | .service target =>
      .inl ⟨backend, target.port.getD defaultBackendPort, t.backendWeight id s backend⟩
    | other => .inr ("node is a " ++ Worded.word other.kind)

def strategyName : Strategy → String
  | .basic rule => Worded.word rule
  | .weighted _ => "weighted"

def planBalancer (t : Topology) (id : String) (l : LoadBalancer) : PlannedBalancer where
  name := l.name
  strategy := strategyName l.strategy
  backends := l.backends.filterMap fun b => (t.resolveBackend id l.strategy b).getLeft?
  healthCheckIntervalSeconds := l.healthCheckIntervalSeconds

/-- The backends of a balancer that no service stands behind. -/
def unresolvedBackends (t : Topology) (id : String) (l : LoadBalancer) : List Log.Event :=
  l.backends.filterMap fun b =>
    (t.resolveBackend id l.strategy b).getRight?.map fun reason => .backendUnresolved id b reason

/-! ## The plan -/

/-- The nodes of an order. -/
def placed (t : Topology) (order : List String) : List Vertex := order.filterMap t.vertex?

def planOf (t : Topology) (order : List String) : Plan where
  services := (t.placed order).filterMap fun v =>
    match v.node with
    | .service s => some (t.planService v.id s)
    | _ => none
  databases := (t.placed order).filterMap fun v =>
    match v.node with
    | .database d => some (planDatabase d)
    | _ => none
  agents := (t.placed order).filterMap fun v =>
    match v.node with
    | .agent a => some (planAgent t.natsUrl a)
    | _ => none
  messageBuses := (t.placed order).filterMap fun v =>
    match v.node with
    | .messageBus b => some (planBus b)
    | _ => none
  loadBalancers := (t.placed order).filterMap fun v =>
    match v.node with
    | .loadBalancer l => some (t.planBalancer v.id l)
    | _ => none
  storageVolumes := (t.placed order).filterMap fun v =>
    match v.node with
    | .storage s => some (t.planVolume v.id s)
    | _ => none
  dependencies := t.dependencies
  network := t.network

/-- The backends that no service stands behind, balancer by balancer. -/
def planWarnings (t : Topology) (order : List String) : List Log.Event :=
  (t.placed order).flatMap fun v =>
    match v.node with
    | .loadBalancer l => t.unresolvedBackends v.id l
    | _ => []

end Topology

def Plan.counts (p : Plan) : PlanCounts where
  services := p.services.length
  databases := p.databases.length
  agents := p.agents.length
  messageBuses := p.messageBuses.length
  loadBalancers := p.loadBalancers.length
  storageVolumes := p.storageVolumes.length

/-- Validates, orders and plans a topology. -/
def Topology.plan (policy : Validation.Policy) (t : Topology) : Outcome Plan :=
  let verdict := Validation.validate policy t
  match verdict.result with
  | .error fault => ⟨verdict.events, .error fault⟩
  | .ok () =>
    match Schedule.compute t with
    | .error fault => ⟨verdict.events, .error fault⟩
    | .ok order =>
      let plan := t.planOf order
      ⟨verdict.events ++ t.planWarnings order ++ [.planned order plan.counts], .ok plan⟩

end Rollout
