import Rollout.Plan.Basic
import Rollout.Schema.Node

/-
Plans as documents. Every member is written, with null for what a plan leaves open, in
the order in which the members are listed here.
-/
namespace Rollout

open Catalog

namespace Plan

def texts (items : List String) : Json := .texts items

def ports (items : List Nat) : Json := .array (items.map .nat)

def openNat (n : Option Nat) : Json := Json.orNull .nat n

def resourcesJson (r : Resources) : Json :=
  .object
    [("cpuCores", Json.orNull .number r.cpuCores), ("memoryMb", openNat r.memoryMb),
      ("diskGb", openNat r.diskGb)]

def serviceJson (s : PlannedService) : Json :=
  .object
    [("name", .text s.name), ("command", .text s.command), ("args", texts s.args),
      ("environment", Schema.recordJson .text s.environment), ("port", openNat s.port),
      ("healthCheck", Json.orNull Schema.healthCheckJson s.healthCheck),
      ("resources", resourcesJson s.resources), ("dependencies", texts s.dependencies)]

def databaseJson (d : PlannedDatabase) : Json :=
  .object
    [("name", .text d.name), ("engine", Schema.wordJson d.engine), ("version", .text d.version),
      ("port", .nat d.port), ("persistent", .bool d.persistent),
      ("backupSchedule", Json.orNull .text d.backupSchedule),
      ("resources", resourcesJson d.resources)]

def agentJson (a : PlannedAgent) : Json :=
  .object
    [("name", .text a.name), ("capabilities", texts a.capabilities),
      ("subscriptions", texts a.subscriptions), ("natsUrl", .text a.natsUrl),
      ("rateLimit", Json.orNull Schema.rateLimitJson a.rateLimit),
      ("resources", resourcesJson a.resources)]

def topicJson (t : Topic) : Json :=
  .object
    [("name", .text t.name), ("partitions", openNat t.partitions),
      ("replicationFactor", openNat t.replicationFactor),
      ("retentionHours", openNat t.retentionHours)]

def busJson (b : PlannedBus) : Json :=
  .object
    [("name", .text b.name), ("busType", Schema.wordJson b.busType),
      ("clusterSize", .nat b.clusterSize), ("persistence", .bool b.persistence),
      ("ports", ports b.ports), ("topics", .array (b.topics.map topicJson))]

def backendJson (b : Backend) : Json :=
  .object [("service", .text b.service), ("port", .nat b.port), ("weight", openNat b.weight)]

def balancerJson (b : PlannedBalancer) : Json :=
  .object
    [("name", .text b.name), ("strategy", .text b.strategy),
      ("backends", .array (b.backends.map backendJson)),
      ("healthCheckIntervalSeconds", .number b.healthCheckIntervalSeconds)]

def mountJson (m : Mount) : Json :=
  .object [("service", .text m.service), ("path", .text m.path), ("readOnly", .bool m.readOnly)]

def volumeJson (v : PlannedVolume) : Json :=
  .object
    [("name", .text v.name), ("storageType", Schema.wordJson v.storageType),
      ("size", .text v.size), ("mountPath", .text v.mountPath),
      ("accessMode", Schema.wordJson v.accessMode), ("mountPaths", .array (v.mounts.map mountJson))]

def connectionJson (c : Connection) : Json :=
  .object
    [("from", .text c.source), ("to", .text c.target), ("protocol", Schema.wordJson c.protocol),
      ("port", .nat c.port), ("encrypted", .bool c.encrypted)]

def networkJson (n : NetworkPlan) : Json :=
  .object
    [("connections", .array (n.connections.map connectionJson)),
      ("exposedPorts", Schema.recordJson ports n.exposedPorts)]

def dependenciesJson (d : Record (List String)) : Json := Schema.recordJson texts d

def toJson (p : Plan) : Json :=
  .object
    [("services", .array (p.services.map serviceJson)),
      ("databases", .array (p.databases.map databaseJson)),
      ("agents", .array (p.agents.map agentJson)),
      ("messageBuses", .array (p.messageBuses.map busJson)),
      ("loadBalancers", .array (p.loadBalancers.map balancerJson)),
      ("storageVolumes", .array (p.storageVolumes.map volumeJson)),
      ("dependencies", dependenciesJson p.dependencies),
      ("networkTopology", networkJson p.network)]

end Plan
end Rollout
