import Rollout.Catalog.Words
import Rollout.Number.Basic
import Rollout.Record
import Rollout.Text.Blank

/-
Deployable units. Whole figures are natural numbers; figures that may have a fraction
or be infinite are `Number`s.
-/
namespace Rollout
namespace Catalog

/-- The declared footprint of a unit; an absent figure counts as zero. -/
structure Resources where
  cpuCores : Option Number
  memoryMb : Option Nat
  diskGb : Option Nat
  deriving DecidableEq

def Resources.empty : Resources := ⟨none, none, none⟩

structure HealthCheck where
  endpoint : String
  intervalSeconds : Nat
  timeoutSeconds : Nat
  retries : Nat
  deriving DecidableEq

structure RateLimit where
  requestsPerSecond : Nat
  burstSize : Nat
  deriving DecidableEq

structure Topic where
  name : String
  partitions : Option Nat
  replicationFactor : Option Nat
  retentionHours : Option Nat
  deriving DecidableEq

/-- How a balancer spreads requests: by a fixed rule, or by weights of its backends. -/
inductive Strategy where
  | basic (rule : BasicStrategy)
  | weighted (weights : Record Nat)
  deriving DecidableEq

structure Service where
  name : String
  command : String
  args : List String
  environment : Record String
  port : Option Nat
  healthCheck : Option HealthCheck
  resources : Resources
  deriving DecidableEq

structure Agent where
  name : String
  capabilities : List String
  subscriptions : List String
  rateLimit : Option RateLimit
  resources : Resources
  deriving DecidableEq

structure Database where
  name : String
  engine : DatabaseEngine
  version : String
  persistent : Bool
  backupSchedule : Option String
  resources : Resources
  deriving DecidableEq

structure MessageBus where
  name : String
  busType : BusType
  clusterSize : Nat
  persistence : Bool
  topics : List Topic
  deriving DecidableEq

structure LoadBalancer where
  name : String
  strategy : Strategy
  healthCheckIntervalSeconds : Number
  backends : List String
  deriving DecidableEq

structure Storage where
  name : String
  storageType : StorageType
  size : String
  mountPath : String
  accessMode : AccessMode
  deriving DecidableEq

inductive Node where
  | service (data : Service)
  | agent (data : Agent)
  | database (data : Database)
  | messageBus (data : MessageBus)
  | loadBalancer (data : LoadBalancer)
  | storage (data : Storage)
  deriving DecidableEq

inductive NodeKind where
  | service | agent | database | messageBus | loadBalancer | storage
  deriving DecidableEq

instance : Worded NodeKind where
  members := [.service, .agent, .database, .messageBus, .loadBalancer, .storage]
  word
    | .service => "service"
    | .agent => "agent"
    | .database => "database"
    | .messageBus => "message_bus"
    | .loadBalancer => "load_balancer"
    | .storage => "storage"

/-- The kind as sentences begin with it. -/
def NodeKind.label : NodeKind → String
  | .service => "Service"
  | .agent => "Agent"
  | .database => "Database"
  | .messageBus => "Message bus"
  | .loadBalancer => "Load balancer"
  | .storage => "Storage"

namespace Node

def kind : Node → NodeKind
  | .service _ => .service
  | .agent _ => .agent
  | .database _ => .database
  | .messageBus _ => .messageBus
  | .loadBalancer _ => .loadBalancer
  | .storage _ => .storage

def name : Node → String
  | .service s => s.name
  | .agent a => a.name
  | .database d => d.name
  | .messageBus b => b.name
  | .loadBalancer l => l.name
  | .storage s => s.name

/-- The footprint a unit declares. Buses, balancers and volumes declare none. -/
def resources? : Node → Option Resources
  | .service s => some s.resources
  | .agent a => some a.resources
  | .database d => some d.resources
  | _ => none

def requiresPersistence : Node → Bool
  | .database d => d.persistent
  | .messageBus b => b.persistence
  | .storage _ => true
  | _ => false

/-- The ports a unit listens on once deployed. -/
def exposedPorts : Node → List Nat
  | .service s => s.port.toList
  | .database d => d.engine.port?.toList
  | .messageBus b => b.busType.ports
  | _ => []

/-- What is wrong with a unit on its own. -/
inductive Problem where
  | emptyName (kind : NodeKind)
  | emptyCommand (name : String)
  | noVersion (name : String)
  | emptyCluster (name : String)
  | noBackend (name : String)
  deriving DecidableEq

def Problem.text : Problem → String
  | .emptyName kind => kind.label ++ " name cannot be empty"
  | .emptyCommand name => "Service '" ++ name ++ "' has empty command"
  | .noVersion name => "Database '" ++ name ++ "' has no version specified"
  | .emptyCluster name => "Message bus '" ++ name ++ "' cluster size must be at least 1"
  | .noBackend name => "Load balancer '" ++ name ++ "' must have at least one backend"

/-- The problem of a unit apart from its name. -/
def ownProblem? : Node → Option Problem
  | .service s => if Text.isBlank s.command then some (.emptyCommand s.name) else none
  | .database d => if Text.isBlank d.version then some (.noVersion d.name) else none
  | .messageBus b => if b.clusterSize < 1 then some (.emptyCluster b.name) else none
  | .loadBalancer l => if l.backends.isEmpty then some (.noBackend l.name) else none
  | _ => none

/-- The first problem of a unit, a blank name before any other. -/
def problem? (n : Node) : Option Problem :=
  if Text.isBlank n.name then some (.emptyName n.kind) else n.ownProblem?

end Node
end Catalog
end Rollout
