import Rollout.Plan.Document
import Rollout.Proofs.Catalog.Words
import Rollout.Proofs.Json.RoundTrip
import Rollout.Proofs.Number.Whole

/-
The plan that a document says. An object is read where it has just the members of what is
meant, in their order, so that nothing of the document is passed over; and a plan is the one
that its own document says, so that the document leaves nothing of the plan out.
-/
namespace Rollout

open Catalog

namespace Json

variable {α : Type}

/-! ## Values -/

def text? : Json → Option String
  | .text s => some s
  | _ => none

def bool? : Json → Option Bool
  | .bool b => some b
  | _ => none

def number? : Json → Option Number
  | .number n => some n
  | _ => none

/-- The natural number that a value is. -/
def nat? (v : Json) : Option Nat :=
  (number? v).bind fun n => if Number.ofNat n.toNat = n then some n.toNat else none

def word? [Worded α] (v : Json) : Option α := (text? v).bind Worded.ofWord?

def items? (read : Json → Option α) : Json → Option (List α)
  | .array items => items.mapM read
  | _ => none

def record? (read : Json → Option α) : Json → Option (Record α)
  | .object members => members.mapM fun m => (read m.2).map fun a => (m.1, a)
  | _ => none

/-- What a value says that is null where it is left open. -/
def open? (read : Json → Option α) : Json → Option (Option α)
  | .null => some none
  | v => (read v).map some

/-- The values of an object that has members under just these keys, in this order. -/
def values? (keys : List String) : Json → Option (List Json)
  | .object members => if members.map Prod.fst = keys then some (members.map Prod.snd) else none
  | _ => none

@[simp] theorem text?_text (s : String) : text? (.text s) = some s := rfl

@[simp] theorem bool?_bool (b : Bool) : bool? (.bool b) = some b := rfl

@[simp] theorem number?_number (n : Number) : number? (.number n) = some n := rfl

@[simp] theorem nat?_nat (n : Nat) : nat? (.nat n) = some n := by
  simp [nat?, nat, Number.toNat_ofNat]

@[simp] theorem word?_wordJson [Worded α] [LawfulWorded α] (a : α) :
    word? (Schema.wordJson a) = some a :=
  LawfulWorded.ofWord?_word a

theorem mapM_map_eq_some {β : Type} {read : β → Option α} {write : α → β}
    (h : ∀ a, read (write a) = some a) (as : List α) : (as.map write).mapM read = some as := by
  induction as with
  | nil => rfl
  | cons a rest ih => simp [h, ih]

theorem exists_mem_of_mapM {β : Type} {read : β → Option α} {bs : List β} {as : List α}
    (h : bs.mapM read = some as) : ∀ a ∈ as, ∃ b ∈ bs, read b = some a := by
  induction bs generalizing as with
  | nil =>
    obtain rfl : [] = as := Option.some.inj h
    exact List.forall_mem_nil _
  | cons b rest ih =>
    simp only [List.mapM_cons, Option.bind_eq_bind, Option.bind_eq_some_iff, Option.pure_def,
      Option.some.injEq] at h
    obtain ⟨a, ha, others, hothers, rfl⟩ := h
    refine List.forall_mem_cons.2 ⟨⟨b, List.mem_cons_self, ha⟩, fun a' ha' => ?_⟩
    obtain ⟨b', hb', hread⟩ := ih hothers a' ha'
    exact ⟨b', List.mem_cons_of_mem _ hb', hread⟩

@[simp] theorem items?_map {read : Json → Option α} {write : α → Json}
    (h : ∀ a, read (write a) = some a) (as : List α) :
    items? read (.array (as.map write)) = some as :=
  mapM_map_eq_some h as

@[simp] theorem record?_recordJson {read : Json → Option α} {write : α → Json}
    (h : ∀ a, read (write a) = some a) (r : Record α) :
    record? read (Schema.recordJson write r) = some r :=
  mapM_map_eq_some (fun m => by rw [h, Option.map_some]) r

@[simp] theorem open?_orNull {read : Json → Option α} {write : α → Json}
    (h : ∀ a, read (write a) = some a) (hnull : read .null = none) (o : Option α) :
    open? read (orNull write o) = some o := by
  cases o with
  | none => rfl
  | some a =>
    have hread := h a
    rw [orNull]
    cases hwrite : write a with
    | null => simp [hwrite, hnull] at hread
    | _ => simp [open?, ← hwrite, hread]

@[simp] theorem record?_texts (r : Record String) :
    record? text? (Schema.recordJson .text r) = some r :=
  record?_recordJson text?_text r

@[simp] theorem open?_text (s : Option String) : open? text? (orNull .text s) = some s :=
  open?_orNull text?_text rfl s

@[simp] theorem open?_number (n : Option Number) : open? number? (orNull .number n) = some n :=
  open?_orNull number?_number rfl n

/-! ## Values that lose nothing -/

variable {v : Json}

theorem Lossless.number? {n : Number} (hv : v.Lossless) (h : v.number? = some n) :
    n.isFinite = true := by
  cases hv with
  | number hfinite =>
    obtain rfl := Option.some.inj h
    exact hfinite
  | _ => cases h

theorem Lossless.values? {keys : List String} {vs : List Json} (hv : v.Lossless)
    (h : Json.values? keys v = some vs) : ∀ x ∈ vs, x.Lossless := by
  cases hv with
  | object hmembers =>
    simp only [Json.values?, Option.ite_none_right_eq_some, Option.some.injEq] at h
    obtain ⟨-, rfl⟩ := h
    exact List.forall_mem_map.2 hmembers
  | _ => cases h

theorem Lossless.exists_of_items? {read : Json → Option α} {as : List α} (hv : v.Lossless)
    (h : items? read v = some as) : ∀ a ∈ as, ∃ i : Json, i.Lossless ∧ read i = some a := by
  cases hv with
  | array hitems =>
    intro a ha
    obtain ⟨i, hi, hread⟩ := exists_mem_of_mapM h a ha
    exact ⟨i, hitems i hi, hread⟩
  | _ => cases h

end Json

namespace Plan

open Json

/-! ## Documents -/

def resources? (v : Json) : Option Resources :=
  match values? ["cpuCores", "memoryMb", "diskGb"] v with
  | some [cores, memory, disk] => do
    return ⟨← open? number? cores, ← open? nat? memory, ← open? nat? disk⟩
  | _ => none

def healthCheck? (v : Json) : Option HealthCheck :=
  match values? ["endpoint", "intervalSeconds", "timeoutSeconds", "retries"] v with
  | some [endpoint, interval, timeout, retries] => do
    return ⟨← text? endpoint, ← nat? interval, ← nat? timeout, ← nat? retries⟩
  | _ => none

def rateLimit? (v : Json) : Option RateLimit :=
  match values? ["requestsPerSecond", "burstSize"] v with
  | some [requests, burst] => do return ⟨← nat? requests, ← nat? burst⟩
  | _ => none

def service? (v : Json) : Option PlannedService :=
  match values? ["name", "command", "args", "environment", "port", "healthCheck", "resources",
    "dependencies"] v with
  | some [name, command, args, environment, port, check, resources, dependencies] => do
    return {
      name := ← text? name
      command := ← text? command
      args := ← items? text? args
      environment := ← record? text? environment
      port := ← open? nat? port
      healthCheck := ← open? healthCheck? check
      resources := ← resources? resources
      dependencies := ← items? text? dependencies }
  | _ => none

def database? (v : Json) : Option PlannedDatabase :=
  match values? ["name", "engine", "version", "port", "persistent", "backupSchedule",
    "resources"] v with
  | some [name, engine, version, port, persistent, backup, resources] => do
    return {
      name := ← text? name
      engine := ← word? engine
      version := ← text? version
      port := ← nat? port
      persistent := ← bool? persistent
      backupSchedule := ← open? text? backup
      resources := ← resources? resources }
  | _ => none

def agent? (v : Json) : Option PlannedAgent :=
  match values? ["name", "capabilities", "subscriptions", "natsUrl", "rateLimit", "resources"] v with
  | some [name, capabilities, subscriptions, natsUrl, limit, resources] => do
    return {
      name := ← text? name
      capabilities := ← items? text? capabilities
      subscriptions := ← items? text? subscriptions
      natsUrl := ← text? natsUrl
      rateLimit := ← open? rateLimit? limit
      resources := ← resources? resources }
  | _ => none

def topic? (v : Json) : Option Topic :=
  match values? ["name", "partitions", "replicationFactor", "retentionHours"] v with
  | some [name, partitions, factor, retention] => do
    return ⟨← text? name, ← open? nat? partitions, ← open? nat? factor, ← open? nat? retention⟩
  | _ => none

def bus? (v : Json) : Option PlannedBus :=
  match values? ["name", "busType", "clusterSize", "persistence", "ports", "topics"] v with
  | some [name, busType, size, persistence, ports, topics] => do
    return {
      name := ← text? name
      busType := ← word? busType
      clusterSize := ← nat? size
      persistence := ← bool? persistence
      ports := ← items? nat? ports
      topics := ← items? topic? topics }
  | _ => none

def backend? (v : Json) : Option Backend :=
  match values? ["service", "port", "weight"] v with
  | some [service, port, weight] => do
    return ⟨← text? service, ← nat? port, ← open? nat? weight⟩
  | _ => none

def balancer? (v : Json) : Option PlannedBalancer :=
  match values? ["name", "strategy", "backends", "healthCheckIntervalSeconds"] v with
  | some [name, strategy, backends, interval] => do
    return ⟨← text? name, ← text? strategy, ← items? backend? backends, ← number? interval⟩
  | _ => none

def mount? (v : Json) : Option Mount :=
  match values? ["service", "path", "readOnly"] v with
  | some [service, path, readOnly] => do
    return ⟨← text? service, ← text? path, ← bool? readOnly⟩
  | _ => none

def volume? (v : Json) : Option PlannedVolume :=
  match values? ["name", "storageType", "size", "mountPath", "accessMode", "mountPaths"] v with
  | some [name, storageType, size, mountPath, accessMode, mounts] => do
    return {
      name := ← text? name
      storageType := ← word? storageType
      size := ← text? size
      mountPath := ← text? mountPath
      accessMode := ← word? accessMode
      mounts := ← items? mount? mounts }
  | _ => none

def connection? (v : Json) : Option Connection :=
  match values? ["from", "to", "protocol", "port", "encrypted"] v with
  | some [source, target, protocol, port, encrypted] => do
    return ⟨← text? source, ← text? target, ← word? protocol, ← nat? port, ← bool? encrypted⟩
  | _ => none

def network? (v : Json) : Option NetworkPlan :=
  match values? ["connections", "exposedPorts"] v with
  | some [connections, ports] => do
    return ⟨← items? connection? connections, ← record? (items? nat?) ports⟩
  | _ => none

/-- The plan that a document says. -/
def ofDocument? (v : Json) : Option Plan :=
  match values? ["services", "databases", "agents", "messageBuses", "loadBalancers",
    "storageVolumes", "dependencies", "networkTopology"] v with
  | some [services, databases, agents, buses, balancers, volumes, dependencies, network] => do
    return {
      services := ← items? service? services
      databases := ← items? database? databases
      agents := ← items? agent? agents
      messageBuses := ← items? bus? buses
      loadBalancers := ← items? balancer? balancers
      storageVolumes := ← items? volume? volumes
      dependencies := ← record? (items? text?) dependencies
      network := ← network? network }
  | _ => none

@[simp] theorem items?_texts (items : List String) : items? text? (texts items) = some items :=
  items?_map text?_text items

@[simp] theorem items?_ports (items : List Nat) : items? nat? (ports items) = some items :=
  items?_map nat?_nat items

@[simp] theorem open?_openNat (n : Option Nat) : open? nat? (openNat n) = some n :=
  open?_orNull nat?_nat rfl n

@[simp] theorem resources?_resourcesJson (r : Resources) :
    resources? (resourcesJson r) = some r := by
  simp [resources?, resourcesJson, values?]

@[simp] theorem healthCheck?_healthCheckJson (h : HealthCheck) :
    healthCheck? (Schema.healthCheckJson h) = some h := by
  simp [healthCheck?, Schema.healthCheckJson, values?]

@[simp] theorem rateLimit?_rateLimitJson (r : RateLimit) :
    rateLimit? (Schema.rateLimitJson r) = some r := by
  simp [rateLimit?, Schema.rateLimitJson, values?]

@[simp] theorem service?_serviceJson (s : PlannedService) : service? (serviceJson s) = some s := by
  have hnull : healthCheck? .null = none := rfl
  simp [service?, serviceJson, values?, hnull]

@[simp] theorem database?_databaseJson (d : PlannedDatabase) :
    database? (databaseJson d) = some d := by
  simp [database?, databaseJson, values?]

@[simp] theorem agent?_agentJson (a : PlannedAgent) : agent? (agentJson a) = some a := by
  have hnull : rateLimit? .null = none := rfl
  simp [agent?, agentJson, values?, hnull]

@[simp] theorem topic?_topicJson (t : Topic) : topic? (topicJson t) = some t := by
  simp [topic?, topicJson, values?]

@[simp] theorem bus?_busJson (b : PlannedBus) : bus? (busJson b) = some b := by
  simp [bus?, busJson, values?]

@[simp] theorem backend?_backendJson (b : Backend) : backend? (backendJson b) = some b := by
  simp [backend?, backendJson, values?]

@[simp] theorem balancer?_balancerJson (b : PlannedBalancer) :
    balancer? (balancerJson b) = some b := by
  simp [balancer?, balancerJson, values?]

@[simp] theorem mount?_mountJson (m : Mount) : mount? (mountJson m) = some m := by
  simp [mount?, mountJson, values?]

@[simp] theorem volume?_volumeJson (v : PlannedVolume) : volume? (volumeJson v) = some v := by
  simp [volume?, volumeJson, values?]

@[simp] theorem connection?_connectionJson (c : Connection) :
    connection? (connectionJson c) = some c := by
  simp [connection?, connectionJson, values?]

@[simp] theorem network?_networkJson (n : NetworkPlan) : network? (networkJson n) = some n := by
  simp [network?, networkJson, values?]

/-- The document of a plan says that plan. -/
theorem ofDocument?_toJson (p : Plan) : ofDocument? p.toJson = some p := by
  simp [ofDocument?, toJson, dependenciesJson, values?]

/-! ## Intervals -/

variable {v : Json}

theorem isFinite_of_balancer? {b : PlannedBalancer} (hv : v.Lossless) (h : balancer? v = some b) :
    b.healthCheckIntervalSeconds.isFinite = true := by
  unfold balancer? at h
  split at h
  case h_1 name strategy backends interval hvalues =>
    have hinterval := hv.values? hvalues interval (by simp)
    simp only [Option.bind_eq_bind, Option.bind_eq_some_iff, Option.pure_def,
      Option.some.injEq] at h
    obtain ⟨_, -, _, -, _, -, n, hn, rfl⟩ := h
    exact hinterval.number? hn
  case h_2 => cases h

/-- A document that says everything has no balancer with an infinite interval. -/
theorem isFinite_of_ofDocument? {p : Plan} (hv : v.Lossless) (h : ofDocument? v = some p) :
    ∀ b ∈ p.loadBalancers, b.healthCheckIntervalSeconds.isFinite = true := by
  unfold ofDocument? at h
  split at h
  case h_1 services databases agents buses balancers volumes dependencies network hvalues =>
    have hbalancers := hv.values? hvalues balancers (by simp)
    simp only [Option.bind_eq_bind, Option.bind_eq_some_iff, Option.pure_def,
      Option.some.injEq] at h
    obtain ⟨_, -, _, -, _, -, _, -, bs, hbs, _, -, _, -, _, -, rfl⟩ := h
    intro b hb
    obtain ⟨i, hi, hread⟩ := hbalancers.exists_of_items? hbs b hb
    exact isFinite_of_balancer? hi hread
  case h_2 => cases h

end Plan
end Rollout
