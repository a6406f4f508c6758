import Rollout.Proofs.Aligned
import Rollout.Proofs.Record
import Rollout.Proofs.Schema.Fields
import Rollout.Proofs.Schema.Values

/-
Reading again what was written. A typed value need not be what stood in the payload:
defaults are filled in, members that no field names are gone, and so is the dropped key.
But what a reader has once made of a payload it makes again of the payload that is written
for the result.
-/
namespace Rollout
namespace Schema

open Catalog Checked

variable {α : Type}

/-- Whatever the reader gives, it gives again for the way the result is written. -/
def Restores (r : Reader α) (write : α → Option Json) : Prop :=
  ∀ v a, r v = .valid a → r (write a) = .valid a

/-! ## Values -/

/-- A reader restores what it accepts in one form only. -/
theorem restores_of_eq {r : Reader α} {write : α → Option Json}
    (h : ∀ v a, r v = .valid a → v = write a) : Restores r write := by
  intro v a hread
  obtain rfl := h v a hread
  exact hread

theorem restores_text : Restores text fun s => some (.text s) :=
  restores_of_eq fun _ _ h => text_eq_valid_iff.1 h

theorem restores_flag : Restores flag fun b => some (.bool b) :=
  restores_of_eq fun _ _ h => flag_eq_valid_iff.1 h

theorem restores_choice [Worded α] [LawfulWorded α] :
    Restores (choice α) fun a => some (wordJson a) :=
  restores_of_eq fun _ _ h => choice_eq_valid_iff.1 h

theorem restores_nonNegative : Restores nonNegative fun n => some (.number n) :=
  restores_of_eq fun _ _ h => (nonNegative_eq_valid_iff.1 h).1

theorem restores_natural : Restores natural fun n => some (.nat n) :=
  restores_of_eq fun _ _ h => natural_eq_valid_iff.1 h

theorem restores_positive : Restores positive fun n => some (.nat n) :=
  restores_of_eq fun _ _ h => (positive_eq_valid_iff.1 h).1

theorem restores_port : Restores port fun n => some (.nat n) :=
  restores_of_eq fun _ _ h => (port_eq_valid_iff.1 h).1

section Combined

variable {r : Reader α} {write : α → Json}

theorem restores_optional (hr : Restores r fun a => some (write a)) :
    Restores (optional r) fun o => o.map write := by
  intro v o h
  rcases optional_eq_valid_iff.1 h with ⟨-, rfl⟩ | ⟨j, a, rfl, ha, rfl⟩
  · rfl
  · exact optional_eq_valid_some_iff.2 ⟨write a, rfl, hr _ a ha⟩

/-- A default is written out, so it has to be one that its own reader accepts. -/
theorem restores_orElse {default : α} (hr : Restores r fun a => some (write a))
    (hdefault : r (some (write default)) = .valid default) :
    Restores (orElse default r) fun a => some (write a) := by
  intro v a h
  rcases orElse_eq_valid_iff.1 h with ⟨-, rfl⟩ | ⟨j, rfl, ha⟩
  · exact hdefault
  · exact hr _ a ha

theorem restores_items (hr : Restores r fun a => some (write a)) :
    Restores (items r) fun as => some (.array (as.map write)) := by
  intro v as h
  obtain ⟨vs, -, has⟩ := items_eq_valid_iff.1 h
  refine items_map_eq_valid_iff.2 fun a ha => ?_
  obtain ⟨j, -, hread⟩ := exists_mem_of_forall₂ has a ha
  exact hr _ a hread

/-- What a record keeps has another key than the dropped one, so nothing is dropped when it
is read again. -/
theorem restores_record (hr : Restores r fun a => some (write a)) :
    Restores (record r) fun rec => some (recordJson write rec) := by
  intro v rec h
  obtain ⟨_, ms, -, -, hms⟩ := record_eq_valid_iff.1 h
  obtain ⟨as, has, rfl⟩ := members_eq_valid_iff.1 hms
  let kept := as.filter fun a => a.1 ≠ Record.droppedKey
  have hwritten : ∀ a ∈ kept, a.1 = a.1 ∧ r (some (write a.2)) = .valid a.2 := by
    intro a ha
    obtain ⟨m, -, -, hread⟩ := exists_mem_of_forall₂ has a (List.mem_filter.1 ha).1
    exact ⟨rfl, hr _ a.2 hread⟩
  have hkept : kept = kept.filter fun a => a.1 ≠ Record.droppedKey := by
    rw [List.filter_filter]
    simp [kept]
  refine record_eq_valid_iff.2 ⟨_, _, rfl, rfl, members_eq_valid_iff.2 ⟨kept, ?_, hkept⟩⟩
  exact List.forall₂_map_left_iff.2 (List.forall₂_same.2 hwritten)

end Combined

/-! ## Objects -/

/-- The members of an object that is written: those that are present. -/
def presentMembers (members : List (String × Option Json)) : List (String × Json) :=
  members.filterMap fun (k, v) => v.map fun x => (k, x)

theorem get?_presentMembers {members : List (String × Option Json)}
    (hkeys : (members.map (·.1)).Nodup) (key : String) :
    Record.get? (presentMembers members) key = (Record.get? members key).join := by
  induction members with
  | nil => rfl
  | cons m rest ih =>
    obtain ⟨k, v⟩ := m
    obtain ⟨hk, hrest⟩ := List.nodup_cons.1 hkeys
    rw [Record.get?]
    cases v with
    | none =>
      show Record.get? (presentMembers rest) key = _
      rw [ih hrest]
      by_cases hkey : k = key
      · subst hkey
        rw [if_pos rfl, Record.get?_eq_none_iff.2 hk]
        rfl
      · rw [if_neg hkey]
    | some x =>
      show Record.get? ((k, x) :: presentMembers rest) key = _
      rw [Record.get?, ih hrest]
      by_cases hkey : k = key
      · rw [if_pos hkey, if_pos hkey]
        rfl
      · rw [if_neg hkey, if_neg hkey]

/-- A field is restored where the object that is written has its value under its key. -/
theorem Restores.field {r : Reader α} {write : α → Option Json} (hr : Restores r write)
    {ms ms' : List (String × Json)} {key : String} {a : α} (h : field key r ms = .valid a)
    (hget : Record.get? ms' key = write a) : Schema.field key r ms' = .valid a := by
  rw [field_eq_valid_iff] at h ⊢
  rw [hget]
  exact hr _ a h

theorem Restores.present {r : Reader α} {write : α → Option Json} (hr : Restores r write)
    {ms : List (String × Json)} {members : List (String × Option Json)} {key : String} {a : α}
    (hkeys : (members.map (·.1)).Nodup) (h : Schema.field key r ms = .valid a)
    (hget : (Record.get? members key).join = write a) :
    Schema.field key r (presentMembers members) = .valid a :=
  hr.field h ((get?_presentMembers hkeys key).trans hget)

theorem restores_object {fields : List (String × Json) → Checked α} {write : α → Json}
    (h : ∀ ms a, fields ms = .valid a → object fields (some (write a)) = .valid a) :
    Restores (object fields) fun a => some (write a) := by
  intro v a hread
  obtain ⟨_, ms, -, -, hms⟩ := object_eq_valid_iff.1 hread
  exact h ms a hms

/-! ## Parts of nodes -/

theorem restores_resourceObject :
    Restores (object resourceFields) fun r => some (resourcesJson r) := by
  refine restores_object fun ms r h => ?_
  obtain ⟨hcpu, hmemory, hdisk⟩ := resourceFields_eq_valid_iff.1 h
  have hkeys : ["cpuCores", "memoryMb", "diskGb"].Nodup := by decide
  refine resourceFields_eq_valid_iff.2 ⟨?_, ?_, ?_⟩
  · exact (restores_optional restores_nonNegative).present hkeys hcpu rfl
  · exact (restores_optional restores_natural).present hkeys hmemory rfl
  · exact (restores_optional restores_natural).present hkeys hdisk rfl

theorem restores_resources : Restores resources fun r => some (resourcesJson r) :=
  restores_orElse restores_resourceObject rfl

theorem restores_healthCheck :
    Restores (object healthCheckFields) fun c => some (healthCheckJson c) := by
  refine restores_object fun ms c h => ?_
  obtain ⟨hendpoint, hinterval, htimeout, hretries⟩ := healthCheckFields_eq_valid_iff.1 h
  refine healthCheckFields_eq_valid_iff.2 ⟨?_, ?_, ?_, ?_⟩
  · exact restores_text.field hendpoint rfl
  · exact restores_natural.field hinterval rfl
  · exact restores_natural.field htimeout rfl
  · exact restores_natural.field hretries rfl

theorem restores_rateLimit : Restores (object rateLimitFields) fun l => some (rateLimitJson l) := by
  refine restores_object fun ms l h => ?_
  obtain ⟨hrequests, hburst⟩ := rateLimitFields_eq_valid_iff.1 h
  refine rateLimitFields_eq_valid_iff.2 ⟨?_, ?_⟩
  · exact restores_natural.field hrequests rfl
  · exact restores_natural.field hburst rfl

theorem restores_topic : Restores (object topicFields) fun t => some (topicJson t) := by
  refine restores_object fun ms t h => ?_
  obtain ⟨hname, hpartitions, hreplication, hretention⟩ := topicFields_eq_valid_iff.1 h
  have hkeys : ["name", "partitions", "replicationFactor", "retentionHours"].Nodup := by decide
  refine topicFields_eq_valid_iff.2 ⟨?_, ?_, ?_, ?_⟩
  · exact restores_text.present hkeys hname rfl
  · exact (restores_optional restores_positive).present hkeys hpartitions rfl
  · exact (restores_optional restores_positive).present hkeys hreplication rfl
  · exact (restores_optional restores_natural).present hkeys hretention rfl

theorem restores_texts : Restores (orElse [] (items text)) fun as => some (.texts as) :=
  restores_orElse (restores_items restores_text) rfl

theorem restores_strategy : Restores strategy fun s => some (strategyJson s) := by
  intro v s h
  rcases strategy_eq_valid_iff.1 h with ⟨rule, hrule, rfl⟩ | ⟨weights, hweights, rfl⟩
  · exact strategy_eq_valid_iff.2 (.inl ⟨rule, restores_choice v rule hrule, rfl⟩)
  · obtain ⟨_, ms, -, -, hms⟩ := object_eq_valid_iff.1 hweights
    have hwritten : field "weighted" (record natural) [("weighted", recordJson .nat weights)] =
        .valid weights := (restores_record restores_natural).field hms rfl
    exact strategy_eq_valid_iff.2 (.inr ⟨weights, hwritten, rfl⟩)

/-! ## Nodes -/

/-- The kind leads back to the form under which the members were written. -/
theorem byKind_present {κ : Type} [Worded κ] [LawfulWorded κ]
    {forms : κ → List (String × Json) → Checked α} {k : κ} {rest : List (String × Option Json)} :
    byKind κ forms (some (present (("kind", some (wordJson k)) :: rest))) =
      forms k (presentMembers (("kind", some (wordJson k)) :: rest)) := by
  let ms := presentMembers (("kind", some (wordJson k)) :: rest)
  have hmembers : (present (("kind", some (wordJson k)) :: rest)).members? = some ms := rfl
  have hkind : Record.get? ms "kind" = some (.text (Worded.word k)) := rfl
  simp only [byKind, object, hmembers, hkind, LawfulWorded.ofWord?_word]
  rfl

theorem node_service {ms : List (String × Json)} {s : Service} (h : serviceFields ms = .valid s) :
    node (some (nodeJson (.service s))) = .valid (.service s) := by
  obtain ⟨hname, hcommand, hargs, henvironment, hport, hcheck, hresources⟩ :=
    serviceFields_eq_valid_iff.1 h
  have hkeys : ["kind", "name", "command", "args", "environment", "port", "healthCheck",
    "resources"].Nodup := by decide
  refine byKind_present.trans (map_eq_valid_iff.2 ⟨s, serviceFields_eq_valid_iff.2 ?_, rfl⟩)
  refine ⟨?_, ?_, ?_, ?_, ?_, ?_, ?_⟩
  · exact restores_text.present hkeys hname rfl
  · exact restores_text.present hkeys hcommand rfl
  · exact restores_texts.present hkeys hargs rfl
  · exact (restores_orElse (restores_record restores_text) rfl).present hkeys henvironment rfl
  · exact (restores_optional restores_port).present hkeys hport rfl
  · exact (restores_optional restores_healthCheck).present hkeys hcheck rfl
  · exact restores_resources.present hkeys hresources rfl

theorem node_agent {ms : List (String × Json)} {a : Agent} (h : agentFields ms = .valid a) :
    node (some (nodeJson (.agent a))) = .valid (.agent a) := by
  obtain ⟨hname, hcapabilities, hsubscriptions, hlimit, hresources⟩ := agentFields_eq_valid_iff.1 h
  have hkeys : ["kind", "name", "capabilities", "subscriptions", "rateLimit",
    "resources"].Nodup := by decide
  refine byKind_present.trans (map_eq_valid_iff.2 ⟨a, agentFields_eq_valid_iff.2 ?_, rfl⟩)
  refine ⟨?_, ?_, ?_, ?_, ?_⟩
  · exact restores_text.present hkeys hname rfl
  · exact restores_texts.present hkeys hcapabilities rfl
  · exact restores_texts.present hkeys hsubscriptions rfl
  · exact (restores_optional restores_rateLimit).present hkeys hlimit rfl
  · exact restores_resources.present hkeys hresources rfl

theorem node_database {ms : List (String × Json)} {d : Database}
    (h : databaseFields ms = .valid d) :
    node (some (nodeJson (.database d))) = .valid (.database d) := by
  obtain ⟨hname, hengine, hversion, hpersistent, hbackup, hresources⟩ :=
    databaseFields_eq_valid_iff.1 h
  have hkeys : ["kind", "name", "engine", "version", "persistent", "backupSchedule",
    "resources"].Nodup := by decide
  refine byKind_present.trans (map_eq_valid_iff.2 ⟨d, databaseFields_eq_valid_iff.2 ?_, rfl⟩)
  refine ⟨?_, ?_, ?_, ?_, ?_, ?_⟩
  · exact restores_text.present hkeys hname rfl
  · exact restores_choice.present hkeys hengine rfl
  · exact restores_text.present hkeys hversion rfl
  · exact (restores_orElse restores_flag rfl).present hkeys hpersistent rfl
  · exact (restores_optional restores_text).present hkeys hbackup rfl
  · exact restores_resources.present hkeys hresources rfl

theorem node_messageBus {ms : List (String × Json)} {b : MessageBus}
    (h : messageBusFields ms = .valid b) :
    node (some (nodeJson (.messageBus b))) = .valid (.messageBus b) := by
  obtain ⟨hname, htype, hsize, hpersistence, htopics⟩ := messageBusFields_eq_valid_iff.1 h
  have hkeys : ["kind", "name", "busType", "clusterSize", "persistence", "topics"].Nodup := by
    decide
  refine byKind_present.trans (map_eq_valid_iff.2 ⟨b, messageBusFields_eq_valid_iff.2 ?_, rfl⟩)
  refine ⟨?_, ?_, ?_, ?_, ?_⟩
  · exact restores_text.present hkeys hname rfl
  · exact restores_choice.present hkeys htype rfl
  · exact restores_natural.present hkeys hsize rfl
  · exact (restores_orElse restores_flag rfl).present hkeys hpersistence rfl
  · exact (restores_orElse (restores_items restores_topic) rfl).present hkeys htopics rfl

theorem node_loadBalancer {ms : List (String × Json)} {l : LoadBalancer}
    (h : loadBalancerFields ms = .valid l) :
    node (some (nodeJson (.loadBalancer l))) = .valid (.loadBalancer l) := by
  obtain ⟨hname, hstrategy, hinterval, hbackends⟩ := loadBalancerFields_eq_valid_iff.1 h
  have hkeys : ["kind", "name", "strategy", "healthCheckIntervalSeconds", "backends"].Nodup := by
    decide
  have hdefault : nonNegative (some (.number defaultHealthCheckInterval)) =
      .valid defaultHealthCheckInterval :=
    nonNegative_eq_valid_iff.2 ⟨rfl, Number.zero_atMost_ofNat 10⟩
  refine byKind_present.trans (map_eq_valid_iff.2 ⟨l, loadBalancerFields_eq_valid_iff.2 ?_, rfl⟩)
  refine ⟨?_, ?_, ?_, ?_⟩
  · exact restores_text.present hkeys hname rfl
  · exact restores_strategy.present hkeys hstrategy rfl
  · exact (restores_orElse restores_nonNegative hdefault).present hkeys hinterval rfl
  · exact (restores_items restores_text).present hkeys hbackends rfl

theorem node_storage {ms : List (String × Json)} {s : Storage} (h : storageFields ms = .valid s) :
    node (some (nodeJson (.storage s))) = .valid (.storage s) := by
  obtain ⟨hname, htype, hsize, hpath, hmode⟩ := storageFields_eq_valid_iff.1 h
  have hkeys : ["kind", "name", "storageType", "size", "mountPath", "accessMode"].Nodup := by
    decide
  refine byKind_present.trans (map_eq_valid_iff.2 ⟨s, storageFields_eq_valid_iff.2 ?_, rfl⟩)
  refine ⟨?_, ?_, ?_, ?_, ?_⟩
  · exact restores_text.present hkeys hname rfl
  · exact restores_choice.present hkeys htype rfl
  · exact restores_text.present hkeys hsize rfl
  · exact restores_text.present hkeys hpath rfl
  · exact restores_choice.present hkeys hmode rfl

theorem restores_node : Restores node fun n => some (nodeJson n) := by
  intro v n h
  obtain ⟨_, ms, -, -, hread⟩ := exists_members_of_node h
  cases n with
  | service s => exact node_service hread
  | agent a => exact node_agent hread
  | database d => exact node_database hread
  | messageBus b => exact node_messageBus hread
  | loadBalancer l => exact node_loadBalancer hread
  | storage s => exact node_storage hread

/-! ## Edges -/

theorem restores_dataVolume :
    Restores (object dataVolumeFields) fun v => some (dataVolumeJson v) := by
  refine restores_object fun ms v h => ?_
  obtain ⟨hmessages, hsize, hpeak⟩ := dataVolumeFields_eq_valid_iff.1 h
  refine dataVolumeFields_eq_valid_iff.2 ⟨?_, ?_, ?_⟩
  · exact restores_nonNegative.field hmessages rfl
  · exact restores_natural.field hsize rfl
  · exact restores_nonNegative.field hpeak rfl

theorem restores_edge : Restores edge fun e => some (edgeJson e) := by
  intro v e h
  obtain ⟨_, ms, -, -, hread⟩ := exists_members_of_edge h
  cases e with
  | dependsOn required delay =>
    obtain ⟨hrequired, hdelay⟩ := hread
    have hkeys : ["kind", "required", "startupDelaySeconds"].Nodup := by decide
    refine byKind_present.trans (edgeFields_eq_valid_iff.2 ⟨rfl, ?_, ?_⟩)
    · exact restores_flag.present hkeys hrequired rfl
    · exact (restores_optional restores_nonNegative).present hkeys hdelay rfl
  | connectsTo protocol number encrypted =>
    obtain ⟨hprotocol, hport, hencrypted⟩ := hread
    have hkeys : ["kind", "protocol", "port", "encrypted"].Nodup := by decide
    refine byKind_present.trans (edgeFields_eq_valid_iff.2 ⟨rfl, ?_, ?_, ?_⟩)
    · exact restores_choice.present hkeys hprotocol rfl
    · exact restores_port.present hkeys hport rfl
    · exact (restores_orElse restores_flag rfl).present hkeys hencrypted rfl
  | mountsVolume path readOnly =>
    obtain ⟨hpath, hreadOnly⟩ := hread
    have hkeys : ["kind", "mountPath", "readOnly"].Nodup := by decide
    refine byKind_present.trans (edgeFields_eq_valid_iff.2 ⟨rfl, ?_, ?_⟩)
    · exact restores_text.present hkeys hpath rfl
    · exact (restores_orElse restores_flag rfl).present hkeys hreadOnly rfl
  | loadBalances weight healthCheck =>
    obtain ⟨hweight, hcheck⟩ := hread
    have hkeys : ["kind", "weight", "healthCheck"].Nodup := by decide
    refine byKind_present.trans (edgeFields_eq_valid_iff.2 ⟨rfl, ?_, ?_⟩)
    · exact (restores_optional restores_natural).present hkeys hweight rfl
    · exact (restores_orElse restores_flag rfl).present hkeys hcheck rfl
  | dataFlow direction format volume =>
    obtain ⟨hdirection, hformat, hvolume⟩ := hread
    have hkeys : ["kind", "direction", "format", "volume"].Nodup := by decide
    refine byKind_present.trans (edgeFields_eq_valid_iff.2 ⟨rfl, ?_, ?_, ?_⟩)
    · exact restores_choice.present hkeys hdirection rfl
    · exact restores_choice.present hkeys hformat rfl
    · exact (restores_optional restores_dataVolume).present hkeys hvolume rfl
  | publishesTo topic rateLimit =>
    obtain ⟨htopic, hlimit⟩ := hread
    have hkeys : ["kind", "topic", "rateLimit"].Nodup := by decide
    refine byKind_present.trans (edgeFields_eq_valid_iff.2 ⟨rfl, ?_, ?_⟩)
    · exact restores_text.present hkeys htopic rfl
    · exact (restores_optional restores_natural).present hkeys hlimit rfl
  | subscribesTo topic group =>
    obtain ⟨htopic, hgroup⟩ := hread
    have hkeys : ["kind", "topic", "consumerGroup"].Nodup := by decide
    refine byKind_present.trans (edgeFields_eq_valid_iff.2 ⟨rfl, ?_, ?_⟩)
    · exact restores_text.present hkeys htopic rfl
    · exact (restores_optional restores_text).present hkeys hgroup rfl
  | manages permissions =>
    have hkeys : ["kind", "permissions"].Nodup := by decide
    have hpermissions : Restores (orElse [] (items (choice Permission)))
        fun as => some (.array (as.map wordJson)) :=
      restores_orElse (restores_items restores_choice) rfl
    refine byKind_present.trans (edgeFields_eq_valid_iff.2 ⟨rfl, ?_⟩)
    exact hpermissions.present hkeys hread rfl

end Schema
end Rollout
