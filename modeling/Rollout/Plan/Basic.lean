import Rollout.Catalog.Edge
import Rollout.Catalog.Node
import Rollout.Json.Basic

/-
Plans: what is to be provisioned, resolved in full. Figures that a topology leaves open
stay open here and are written as null.
-/
namespace Rollout

open Catalog

structure PlannedService where
  name : String
  command : String
  args : List String
  environment : Record String
  port : Option Nat
  healthCheck : Option HealthCheck
  resources : Resources
  /-- The ids the service waits for at its start. -/
  dependencies : List String
  deriving DecidableEq

structure PlannedDatabase where
  name : String
  engine : DatabaseEngine
  version : String
  /-- The port of the engine; zero where it does not listen. -/
  port : Nat
  persistent : Bool
  backupSchedule : Option String
  resources : Resources
  deriving DecidableEq

structure PlannedAgent where
  name : String
  capabilities : List String
  subscriptions : List String
  natsUrl : String
  rateLimit : Option RateLimit
  resources : Resources
  deriving DecidableEq

structure PlannedBus where
  name : String
  busType : BusType
  clusterSize : Nat
  persistence : Bool
  ports : List Nat
  topics : List Topic
  deriving DecidableEq

/-- A service that a balancer sends requests to. -/
structure Backend where
  service : String
  port : Nat
  weight : Option Nat
  deriving DecidableEq

structure PlannedBalancer where
  name : String
  strategy : String
  backends : List Backend
  healthCheckIntervalSeconds : Number
  deriving DecidableEq

/-- A mount of a volume. -/
structure Mount where
  service : String
  path : String
  readOnly : Bool
  deriving DecidableEq

structure PlannedVolume where
  name : String
  storageType : StorageType
  size : String
  mountPath : String
  accessMode : AccessMode
  mounts : List Mount
  deriving DecidableEq

structure Connection where
  source : String
  target : String
  protocol : Protocol
  port : Nat
  encrypted : Bool
  deriving DecidableEq

structure NetworkPlan where
  connections : List Connection
  /-- The ports of every node that has any. -/
  exposedPorts : Record (List Nat)
  deriving DecidableEq

structure Plan where
  services : List PlannedService
  databases : List PlannedDatabase
  agents : List PlannedAgent
  messageBuses : List PlannedBus
  loadBalancers : List PlannedBalancer
  storageVolumes : List PlannedVolume
  /-- The ids every node waits for at its start, for the nodes that wait. -/
  dependencies : Record (List String)
  network : NetworkPlan
  deriving DecidableEq

end Rollout
