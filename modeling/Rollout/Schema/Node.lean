import Rollout.Catalog.Node
import Rollout.Schema.Check

/-
Payloads of nodes: the fields of every kind, read and written. Reading what was
written gives the same node back.
-/
namespace Rollout
namespace Schema

open Catalog

/-! ## Reading -/

def resourceFields (ms : List (String × Json)) : Checked Resources :=
  Resources.mk <$> field "cpuCores" (optional nonNegative) ms
    <*> field "memoryMb" (optional natural) ms
    <*> field "diskGb" (optional natural) ms

/-- A footprint; absent, it is empty. -/
def resources : Reader Resources := orElse .empty (object resourceFields)

def healthCheckFields (ms : List (String × Json)) : Checked HealthCheck :=
  HealthCheck.mk <$> field "endpoint" text ms
    <*> field "intervalSeconds" natural ms
    <*> field "timeoutSeconds" natural ms
    <*> field "retries" natural ms

def rateLimitFields (ms : List (String × Json)) : Checked RateLimit :=
  RateLimit.mk <$> field "requestsPerSecond" natural ms <*> field "burstSize" natural ms

def topicFields (ms : List (String × Json)) : Checked Topic :=
  Topic.mk <$> field "name" text ms
    <*> field "partitions" (optional positive) ms
    <*> field "replicationFactor" (optional positive) ms
    <*> field "retentionHours" (optional natural) ms

/-- A strategy is a word or an object of weights. A value of neither form is refused
as a whole, but where only weights are out of range those are named. -/
def strategy : Reader Strategy := fun v =>
  match choice BasicStrategy v with
  | .valid rule => .valid (.basic rule)
  | .faulty _ =>
    match object (field "weighted" (record natural)) v with
    | .valid weights => .valid (.weighted weights)
    | .faulty is => if is.toList.all (·.cause.isRange) then .faulty is else .fail .noForm

def serviceFields (ms : List (String × Json)) : Checked Service :=
  Service.mk <$> field "name" text ms
    <*> field "command" text ms
    <*> field "args" (orElse [] (items text)) ms
    <*> field "environment" (orElse [] (record text)) ms
    <*> field "port" (optional port) ms
    <*> field "healthCheck" (optional (object healthCheckFields)) ms
    <*> field "resources" resources ms

def agentFields (ms : List (String × Json)) : Checked Agent :=
  Agent.mk <$> field "name" text ms
    <*> field "capabilities" (orElse [] (items text)) ms
    <*> field "subscriptions" (orElse [] (items text)) ms
    <*> field "rateLimit" (optional (object rateLimitFields)) ms
    <*> field "resources" resources ms

def databaseFields (ms : List (String × Json)) : Checked Database :=
  Database.mk <$> field "name" text ms
    <*> field "engine" (choice DatabaseEngine) ms
    <*> field "version" text ms
    <*> field "persistent" (orElse false flag) ms
    <*> field "backupSchedule" (optional text) ms
    <*> field "resources" resources ms

def messageBusFields (ms : List (String × Json)) : Checked MessageBus :=
  MessageBus.mk <$> field "name" text ms
    <*> field "busType" (choice BusType) ms
    <*> field "clusterSize" natural ms
    <*> field "persistence" (orElse false flag) ms
    <*> field "topics" (orElse [] (items (object topicFields))) ms

/-- The seconds between health checks of a balancer that does not say. -/
def defaultHealthCheckInterval : Number := .ofNat 10

def loadBalancerFields (ms : List (String × Json)) : Checked LoadBalancer :=
  LoadBalancer.mk <$> field "name" text ms
    <*> field "strategy" strategy ms
    <*> field "healthCheckIntervalSeconds" (orElse defaultHealthCheckInterval nonNegative) ms
    <*> field "backends" (items text) ms

def storageFields (ms : List (String × Json)) : Checked Storage :=
  Storage.mk <$> field "name" text ms
    <*> field "storageType" (choice StorageType) ms
    <*> field "size" text ms
    <*> field "mountPath" text ms
    <*> field "accessMode" (choice AccessMode) ms

def nodeFields : NodeKind → List (String × Json) → Checked Node
  | .service, ms => Node.service <$> serviceFields ms
  | .agent, ms => Node.agent <$> agentFields ms
  | .database, ms => Node.database <$> databaseFields ms
  | .messageBus, ms => Node.messageBus <$> messageBusFields ms
  | .loadBalancer, ms => Node.loadBalancer <$> loadBalancerFields ms
  | .storage, ms => Node.storage <$> storageFields ms

def node : Reader Node := byKind NodeKind nodeFields

/-! ## Writing -/

/-- The object of the members that are present. -/
def present (members : List (String × Option Json)) : Json :=
  .object (members.filterMap fun (k, v) => v.map fun x => (k, x))

def wordJson {α : Type} [Worded α] (a : α) : Json := .text (Worded.word a)

def resourcesJson (r : Resources) : Json :=
  present
    [("cpuCores", r.cpuCores.map .number), ("memoryMb", r.memoryMb.map .nat),
      ("diskGb", r.diskGb.map .nat)]

def healthCheckJson (h : HealthCheck) : Json :=
  .object
    [("endpoint", .text h.endpoint), ("intervalSeconds", .nat h.intervalSeconds),
      ("timeoutSeconds", .nat h.timeoutSeconds), ("retries", .nat h.retries)]

def rateLimitJson (r : RateLimit) : Json :=
  .object [("requestsPerSecond", .nat r.requestsPerSecond), ("burstSize", .nat r.burstSize)]

def topicJson (t : Topic) : Json :=
  present
    [("name", some (.text t.name)), ("partitions", t.partitions.map .nat),
      ("replicationFactor", t.replicationFactor.map .nat),
      ("retentionHours", t.retentionHours.map .nat)]

/-- A record with its values written. -/
def recordJson {α : Type} (encode : α → Json) (r : Record α) : Json :=
  .object (r.map fun m => (m.1, encode m.2))

def strategyJson : Strategy → Json
  | .basic rule => wordJson rule
  | .weighted weights => .object [("weighted", recordJson .nat weights)]

def nodeJson : Node → Json
  | .service s =>
    present
      [("kind", some (wordJson NodeKind.service)), ("name", some (.text s.name)),
        ("command", some (.text s.command)), ("args", some (.texts s.args)),
        ("environment", some (recordJson .text s.environment)), ("port", s.port.map .nat),
        ("healthCheck", s.healthCheck.map healthCheckJson),
        ("resources", some (resourcesJson s.resources))]
  | .agent a =>
    present
      [("kind", some (wordJson NodeKind.agent)), ("name", some (.text a.name)),
        ("capabilities", some (.texts a.capabilities)),
        ("subscriptions", some (.texts a.subscriptions)),
        ("rateLimit", a.rateLimit.map rateLimitJson),
        ("resources", some (resourcesJson a.resources))]
  | .database d =>
    present
      [("kind", some (wordJson NodeKind.database)), ("name", some (.text d.name)),
        ("engine", some (wordJson d.engine)), ("version", some (.text d.version)),
        ("persistent", some (.bool d.persistent)),
        ("backupSchedule", d.backupSchedule.map .text),
        ("resources", some (resourcesJson d.resources))]
  | .messageBus b =>
    present
      [("kind", some (wordJson NodeKind.messageBus)), ("name", some (.text b.name)),
        ("busType", some (wordJson b.busType)), ("clusterSize", some (.nat b.clusterSize)),
        ("persistence", some (.bool b.persistence)),
        ("topics", some (.array (b.topics.map topicJson)))]
  | .loadBalancer l =>
    present
      [("kind", some (wordJson NodeKind.loadBalancer)), ("name", some (.text l.name)),
        ("strategy", some (strategyJson l.strategy)),
        ("healthCheckIntervalSeconds", some (.number l.healthCheckIntervalSeconds)),
        ("backends", some (.texts l.backends))]
  | .storage s =>
    present
      [("kind", some (wordJson NodeKind.storage)), ("name", some (.text s.name)),
        ("storageType", some (wordJson s.storageType)), ("size", some (.text s.size)),
        ("mountPath", some (.text s.mountPath)), ("accessMode", some (wordJson s.accessMode))]

end Schema
end Rollout
