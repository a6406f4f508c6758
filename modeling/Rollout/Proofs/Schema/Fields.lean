import Rollout.Proofs.Schema.Checked
import Rollout.Schema.Edge

/-
The fields of payloads, kind by kind. An object is read as a unit or a relationship
exactly where each of its fields is read as the figure that the result has under that
name; one field that cannot be read is enough to refuse the whole.
-/
namespace Rollout
namespace Schema

open Catalog Checked

variable {ms : List (String × Json)}

/-! ## Parts of nodes -/

theorem resourceFields_eq_valid_iff {r : Resources} :
    resourceFields ms = .valid r ↔
      field "cpuCores" (optional nonNegative) ms = .valid r.cpuCores ∧
        field "memoryMb" (optional natural) ms = .valid r.memoryMb ∧
        field "diskGb" (optional natural) ms = .valid r.diskGb := by
  constructor
  · intro h
    rw [resourceFields, seq_eq_valid_iff] at h
    simp only [exists_seq_iff, exists_map_iff] at h
    obtain ⟨_, hdisk, _, hmemory, _, hcpu, rfl⟩ := h
    exact ⟨hcpu, hmemory, hdisk⟩
  · rintro ⟨hcpu, hmemory, hdisk⟩
    rw [resourceFields, hcpu, hmemory, hdisk]
    rfl

theorem healthCheckFields_eq_valid_iff {c : HealthCheck} :
    healthCheckFields ms = .valid c ↔
      field "endpoint" text ms = .valid c.endpoint ∧
        field "intervalSeconds" natural ms = .valid c.intervalSeconds ∧
        field "timeoutSeconds" natural ms = .valid c.timeoutSeconds ∧
        field "retries" natural ms = .valid c.retries := by
  constructor
  · intro h
    rw [healthCheckFields, seq_eq_valid_iff] at h
    simp only [exists_seq_iff, exists_map_iff] at h
    obtain ⟨_, hretries, _, htimeout, _, hinterval, _, hendpoint, rfl⟩ := h
    exact ⟨hendpoint, hinterval, htimeout, hretries⟩
  · rintro ⟨hendpoint, hinterval, htimeout, hretries⟩
    rw [healthCheckFields, hendpoint, hinterval, htimeout, hretries]
    rfl

theorem rateLimitFields_eq_valid_iff {l : RateLimit} :
    rateLimitFields ms = .valid l ↔
      field "requestsPerSecond" natural ms = .valid l.requestsPerSecond ∧
        field "burstSize" natural ms = .valid l.burstSize := by
  constructor
  · intro h
    rw [rateLimitFields, seq_eq_valid_iff] at h
    simp only [exists_map_iff] at h
    obtain ⟨_, hburst, _, hrequests, rfl⟩ := h
    exact ⟨hrequests, hburst⟩
  · rintro ⟨hrequests, hburst⟩
    rw [rateLimitFields, hrequests, hburst]
    rfl

theorem topicFields_eq_valid_iff {t : Topic} :
    topicFields ms = .valid t ↔
      field "name" text ms = .valid t.name ∧
        field "partitions" (optional positive) ms = .valid t.partitions ∧
        field "replicationFactor" (optional positive) ms = .valid t.replicationFactor ∧
        field "retentionHours" (optional natural) ms = .valid t.retentionHours := by
  constructor
  · intro h
    rw [topicFields, seq_eq_valid_iff] at h
    simp only [exists_seq_iff, exists_map_iff] at h
    obtain ⟨_, hretention, _, hreplication, _, hpartitions, _, hname, rfl⟩ := h
    exact ⟨hname, hpartitions, hreplication, hretention⟩
  · rintro ⟨hname, hpartitions, hreplication, hretention⟩
    rw [topicFields, hname, hpartitions, hreplication, hretention]
    rfl

/-! ## Nodes -/

theorem serviceFields_eq_valid_iff {s : Service} :
    serviceFields ms = .valid s ↔
      field "name" text ms = .valid s.name ∧
        field "command" text ms = .valid s.command ∧
        field "args" (orElse [] (items text)) ms = .valid s.args ∧
        field "environment" (orElse [] (record text)) ms = .valid s.environment ∧
        field "port" (optional port) ms = .valid s.port ∧
        field "healthCheck" (optional (object healthCheckFields)) ms = .valid s.healthCheck ∧
        field "resources" resources ms = .valid s.resources := by
  constructor
  · intro h
    rw [serviceFields, seq_eq_valid_iff] at h
    simp only [exists_seq_iff, exists_map_iff] at h
    obtain ⟨_, hresources, _, hcheck, _, hport, _, henvironment, _, hargs, _, hcommand, _, hname,
      rfl⟩ := h
    exact ⟨hname, hcommand, hargs, henvironment, hport, hcheck, hresources⟩
  · rintro ⟨hname, hcommand, hargs, henvironment, hport, hcheck, hresources⟩
    rw [serviceFields, hname, hcommand, hargs, henvironment, hport, hcheck, hresources]
    rfl

theorem agentFields_eq_valid_iff {a : Agent} :
    agentFields ms = .valid a ↔
      field "name" text ms = .valid a.name ∧
        field "capabilities" (orElse [] (items text)) ms = .valid a.capabilities ∧
        field "subscriptions" (orElse [] (items text)) ms = .valid a.subscriptions ∧
        field "rateLimit" (optional (object rateLimitFields)) ms = .valid a.rateLimit ∧
        field "resources" resources ms = .valid a.resources := by
  constructor
  · intro h
    rw [agentFields, seq_eq_valid_iff] at h
    simp only [exists_seq_iff, exists_map_iff] at h
    obtain ⟨_, hresources, _, hlimit, _, hsubscriptions, _, hcapabilities, _, hname, rfl⟩ := h
    exact ⟨hname, hcapabilities, hsubscriptions, hlimit, hresources⟩
  · rintro ⟨hname, hcapabilities, hsubscriptions, hlimit, hresources⟩
    rw [agentFields, hname, hcapabilities, hsubscriptions, hlimit, hresources]
    rfl

theorem databaseFields_eq_valid_iff {d : Database} :
    databaseFields ms = .valid d ↔
      field "name" text ms = .valid d.name ∧
        field "engine" (choice DatabaseEngine) ms = .valid d.engine ∧
        field "version" text ms = .valid d.version ∧
        field "persistent" (orElse false flag) ms = .valid d.persistent ∧
        field "backupSchedule" (optional text) ms = .valid d.backupSchedule ∧
        field "resources" resources ms = .valid d.resources := by
  constructor
  · intro h
    rw [databaseFields, seq_eq_valid_iff] at h
    simp only [exists_seq_iff, exists_map_iff] at h
    obtain ⟨_, hresources, _, hbackup, _, hpersistent, _, hversion, _, hengine, _, hname, rfl⟩ :=
      h
    exact ⟨hname, hengine, hversion, hpersistent, hbackup, hresources⟩
  · rintro ⟨hname, hengine, hversion, hpersistent, hbackup, hresources⟩
    rw [databaseFields, hname, hengine, hversion, hpersistent, hbackup, hresources]
    rfl

theorem messageBusFields_eq_valid_iff {b : MessageBus} :
    messageBusFields ms = .valid b ↔
      field "name" text ms = .valid b.name ∧
        field "busType" (choice BusType) ms = .valid b.busType ∧
        field "clusterSize" natural ms = .valid b.clusterSize ∧
        field "persistence" (orElse false flag) ms = .valid b.persistence ∧
        field "topics" (orElse [] (items (object topicFields))) ms = .valid b.topics := by
  constructor
  · intro h
    rw [messageBusFields, seq_eq_valid_iff] at h
    simp only [exists_seq_iff, exists_map_iff] at h
    obtain ⟨_, htopics, _, hpersistence, _, hsize, _, htype, _, hname, rfl⟩ := h
    exact ⟨hname, htype, hsize, hpersistence, htopics⟩
  · rintro ⟨hname, htype, hsize, hpersistence, htopics⟩
    rw [messageBusFields, hname, htype, hsize, hpersistence, htopics]
    rfl

theorem loadBalancerFields_eq_valid_iff {l : LoadBalancer} :
    loadBalancerFields ms = .valid l ↔
      field "name" text ms = .valid l.name ∧
        field "strategy" strategy ms = .valid l.strategy ∧
        field "healthCheckIntervalSeconds" (orElse defaultHealthCheckInterval nonNegative) ms =
          .valid l.healthCheckIntervalSeconds ∧
        field "backends" (items text) ms = .valid l.backends := by
  constructor
  · intro h
    rw [loadBalancerFields, seq_eq_valid_iff] at h
    simp only [exists_seq_iff, exists_map_iff] at h
    obtain ⟨_, hbackends, _, hinterval, _, hstrategy, _, hname, rfl⟩ := h
    exact ⟨hname, hstrategy, hinterval, hbackends⟩
  · rintro ⟨hname, hstrategy, hinterval, hbackends⟩
    rw [loadBalancerFields, hname, hstrategy, hinterval, hbackends]
    rfl

theorem storageFields_eq_valid_iff {s : Storage} :
    storageFields ms = .valid s ↔
      field "name" text ms = .valid s.name ∧
        field "storageType" (choice StorageType) ms = .valid s.storageType ∧
        field "size" text ms = .valid s.size ∧
        field "mountPath" text ms = .valid s.mountPath ∧
        field "accessMode" (choice AccessMode) ms = .valid s.accessMode := by
  constructor
  · intro h
    rw [storageFields, seq_eq_valid_iff] at h
    simp only [exists_seq_iff, exists_map_iff] at h
    obtain ⟨_, hmode, _, hpath, _, hsize, _, htype, _, hname, rfl⟩ := h
    exact ⟨hname, htype, hsize, hpath, hmode⟩
  · rintro ⟨hname, htype, hsize, hpath, hmode⟩
    rw [storageFields, hname, htype, hsize, hpath, hmode]
    rfl

/-- What the members of an object say of a node, by its kind. -/
def NodeReadFrom (ms : List (String × Json)) : Node → Prop
  | .service s => serviceFields ms = .valid s
  | .agent a => agentFields ms = .valid a
  | .database d => databaseFields ms = .valid d
  | .messageBus b => messageBusFields ms = .valid b
  | .loadBalancer l => loadBalancerFields ms = .valid l
  | .storage s => storageFields ms = .valid s

theorem nodeFields_eq_valid_iff {k : NodeKind} {n : Node} :
    nodeFields k ms = .valid n ↔ n.kind = k ∧ NodeReadFrom ms n := by
  constructor
  · intro h
    cases k <;>
    · obtain ⟨_, hfields, rfl⟩ := map_eq_valid_iff.1 h
      exact ⟨rfl, hfields⟩
  · rintro ⟨rfl, h⟩
    cases n <;> exact map_eq_valid_iff.2 ⟨_, h, rfl⟩

theorem exists_members_of_node {v : Option Json} {n : Node} (h : node v = .valid n) :
    ∃ j ms, v = some j ∧ j.members? = some ms ∧ NodeReadFrom ms n := by
  obtain ⟨k, j, ms, hv, hj, hform⟩ := exists_form_of_byKind h
  exact ⟨j, ms, hv, hj, (nodeFields_eq_valid_iff.1 hform).2⟩

/-! ## Edges -/

theorem dataVolumeFields_eq_valid_iff {v : DataVolume} :
    dataVolumeFields ms = .valid v ↔
      field "messagesPerSecond" nonNegative ms = .valid v.messagesPerSecond ∧
        field "averageSizeBytes" natural ms = .valid v.averageSizeBytes ∧
        field "peakMultiplier" nonNegative ms = .valid v.peakMultiplier := by
  constructor
  · intro h
    rw [dataVolumeFields, seq_eq_valid_iff] at h
    simp only [exists_seq_iff, exists_map_iff] at h
    obtain ⟨_, hpeak, _, hsize, _, hmessages, rfl⟩ := h
    exact ⟨hmessages, hsize, hpeak⟩
  · rintro ⟨hmessages, hsize, hpeak⟩
    rw [dataVolumeFields, hmessages, hsize, hpeak]
    rfl

/-- What the members of an object say of an edge, field by field. -/
def EdgeReadFrom (ms : List (String × Json)) : Edge → Prop
  | .dependsOn required delay =>
    field "required" flag ms = .valid required ∧
      field "startupDelaySeconds" (optional nonNegative) ms = .valid delay
  | .connectsTo protocol number encrypted =>
    field "protocol" (choice Protocol) ms = .valid protocol ∧
      field "port" port ms = .valid number ∧
      field "encrypted" (orElse false flag) ms = .valid encrypted
  | .mountsVolume path readOnly =>
    field "mountPath" text ms = .valid path ∧
      field "readOnly" (orElse false flag) ms = .valid readOnly
  | .loadBalances weight healthCheck =>
    field "weight" (optional natural) ms = .valid weight ∧
      field "healthCheck" (orElse true flag) ms = .valid healthCheck
  | .dataFlow direction format volume =>
    field "direction" (choice FlowDirection) ms = .valid direction ∧
      field "format" (choice DataFormat) ms = .valid format ∧
      field "volume" (optional (object dataVolumeFields)) ms = .valid volume
  | .publishesTo topic rateLimit =>
    field "topic" text ms = .valid topic ∧
      field "rateLimit" (optional natural) ms = .valid rateLimit
  | .subscribesTo topic group =>
    field "topic" text ms = .valid topic ∧
      field "consumerGroup" (optional text) ms = .valid group
  | .manages permissions =>
    field "permissions" (orElse [] (items (choice Permission))) ms = .valid permissions

theorem edgeFields_eq_valid_iff {k : EdgeKind} {e : Edge} :
    edgeFields k ms = .valid e ↔ e.kind = k ∧ EdgeReadFrom ms e := by
  constructor
  · intro h
    cases k <;> simp only [edgeFields, seq_eq_valid_iff, map_eq_valid_iff] at h
    case dependsOn =>
      obtain ⟨_, hdelay, _, ⟨_, hrequired, rfl⟩, rfl⟩ := h
      exact ⟨rfl, hrequired, hdelay⟩
    case connectsTo =>
      obtain ⟨_, hencrypted, _, ⟨_, hport, _, ⟨_, hprotocol, rfl⟩, rfl⟩, rfl⟩ := h
      exact ⟨rfl, hprotocol, hport, hencrypted⟩
    case mountsVolume =>
      obtain ⟨_, hreadOnly, _, ⟨_, hpath, rfl⟩, rfl⟩ := h
      exact ⟨rfl, hpath, hreadOnly⟩
    case loadBalances =>
      obtain ⟨_, hcheck, _, ⟨_, hweight, rfl⟩, rfl⟩ := h
      exact ⟨rfl, hweight, hcheck⟩
    case dataFlow =>
      obtain ⟨_, hvolume, _, ⟨_, hformat, _, ⟨_, hdirection, rfl⟩, rfl⟩, rfl⟩ := h
      exact ⟨rfl, hdirection, hformat, hvolume⟩
    case publishesTo =>
      obtain ⟨_, hlimit, _, ⟨_, htopic, rfl⟩, rfl⟩ := h
      exact ⟨rfl, htopic, hlimit⟩
    case subscribesTo =>
      obtain ⟨_, hgroup, _, ⟨_, htopic, rfl⟩, rfl⟩ := h
      exact ⟨rfl, htopic, hgroup⟩
    case manages =>
      obtain ⟨_, hpermissions, rfl⟩ := h
      exact ⟨rfl, hpermissions⟩
  · rintro ⟨rfl, h⟩
    cases e with
    | manages permissions =>
      rw [Edge.kind, edgeFields, h]
      rfl
    | connectsTo | dataFlow =>
      obtain ⟨hfirst, hsecond, hthird⟩ := h
      rw [Edge.kind, edgeFields, hfirst, hsecond, hthird]
      rfl
    | _ =>
      obtain ⟨hfirst, hsecond⟩ := h
      rw [Edge.kind, edgeFields, hfirst, hsecond]
      rfl

theorem exists_members_of_edge {v : Option Json} {e : Edge} (h : edge v = .valid e) :
    ∃ j ms, v = some j ∧ j.members? = some ms ∧ EdgeReadFrom ms e := by
  obtain ⟨k, j, ms, hv, hj, hform⟩ := exists_form_of_byKind h
  exact ⟨j, ms, hv, hj, (edgeFields_eq_valid_iff.1 hform).2⟩

end Schema
end Rollout
