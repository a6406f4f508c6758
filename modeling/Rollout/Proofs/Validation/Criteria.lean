import Rollout.Proofs.Schema.Node
import Rollout.Proofs.Topology.Decode
import Rollout.Proofs.Validation.Budget
import Rollout.Proofs.Validation.Conditions
import Rollout.Proofs.Validation.Cycle
import Rollout.Proofs.Validation.Mounts
import Rollout.Proofs.Validation.Verdict

/-
The verdict on a decoded topology. It is in favour exactly where every condition holds,
and a fault is that of the first condition, in the order of the checks, that does not.
-/
namespace Rollout
namespace Validation
namespace Check

/-! ## Conditions in their order -/

/-- The order in which violations count. -/
def sequence : List Check :=
  [.cycles, .dependencies, .ports, .resources, .storage, .nodeConfig, .orphans]

/-- What a check asks of a topology. A node without edges matters only where it is not
allowed, and not if it is alone. -/
def Holds (p : Policy) (t : Topology) : Check → Prop
  | .cycles => t.Acyclic
  | .dependencies => t.TargetsPresent
  | .ports => t.PortsExclusive
  | .resources => WithinBudget (totalsWith p.add t) p.limits
  | .storage => t.MountsExclusive
  | .nodeConfig => t.NodesWellFormed
  | .orphans => p.allowOrphans = false → 2 ≤ t.size → t.Attached

/-- A condition that fails while all those before it hold. -/
def FirstViolated (p : Policy) (t : Topology) (c : Check) : Prop :=
  ∃ before after, sequence = before ++ c :: after ∧ (∀ b ∈ before, b.Holds p t) ∧ ¬c.Holds p t

/-- The sort of fault that a check reports. -/
def faultKind : Check → FaultKind
  | .cycles => .cyclicDependency
  | .dependencies => .missingDependency
  | .ports => .portConflict
  | .resources => .resourceLimit
  | .storage => .storageConflict
  | .nodeConfig => .invalidNode
  | .orphans => .orphanedNode

theorem kind_of_fault? {p : Policy} {t : Topology} {c : Check} {fault : Fault}
    (h : c.fault? p t = some fault) : fault.kind = c.faultKind := by
  cases c with
  | nodeConfig =>
    obtain ⟨v, -, hv⟩ := List.exists_of_findSome?_eq_some h
    obtain ⟨problem, -, rfl⟩ := Option.map_eq_some_iff.1 hv
    rfl
  | orphans =>
    rw [fault?, orphanFault] at h
    split at h
    · cases h
    · obtain ⟨_, -, rfl⟩ := Option.map_eq_some_iff.1 h
      rfl
  | _ =>
    obtain ⟨_, -, rfl⟩ := Option.map_eq_some_iff.1 h
    rfl

end Check

/-! ## The checks of a policy -/

/-- The checks that a policy leaves out. -/
def Policy.omitted (p : Policy) : List Check := if p.allowOrphans then [.orphans] else []

theorem checks_append_omitted (p : Policy) : p.checks ++ p.omitted = Check.sequence := by
  rw [Policy.checks, Policy.omitted]
  cases p.allowOrphans <;> rfl

theorem mem_sequence (c : Check) : c ∈ Check.sequence := by
  cases c <;> decide

theorem Check.holds_of_mem_omitted {p : Policy} {t : Topology} {c : Check} (h : c ∈ p.omitted) :
    c.Holds p t := by
  rw [Policy.omitted] at h
  split at h
  · rename_i hallow
    rw [List.mem_singleton.1 h]
    exact fun hdeny => absurd hallow (by rw [hdeny]; decide)
  · cases h

/-- A member that is not among the last stands in the beginning. -/
theorem exists_split_of_append {α : Type} {xs ys before after : List α} {c : α}
    (h : xs ++ ys = before ++ c :: after) (hc : c ∉ ys) :
    ∃ rest, xs = before ++ c :: rest := by
  rcases List.append_eq_append_iff.1 h with ⟨mid, -, hys⟩ | ⟨mid, hxs, hafter⟩
  · rw [hys] at hc
    simp at hc
  · cases mid with
    | nil =>
      rw [List.nil_append] at hafter
      rw [← hafter] at hc
      simp at hc
    | cons d rest =>
      rw [List.cons_append, List.cons.injEq] at hafter
      rw [hafter.1]
      exact ⟨rest, hxs⟩

section Exact

variable {p : Policy} {t : Topology}

theorem fault?_eq_none_iff (hbudget : budgetFault (totalsWith p.add t) p.limits = none ↔
      WithinBudget (totalsWith p.add t) p.limits) {c : Check} (hc : c ∈ p.checks) :
    c.fault? p t = none ↔ c.Holds p t := by
  cases c with
  | cycles => exact cycleFault_eq_none_iff
  | dependencies => exact targetFault_eq_none_iff
  | ports => exact portFault_eq_none_iff
  | resources => exact hbudget
  | storage => exact mountFault_eq_none_iff
  | nodeConfig => exact nodeFault_eq_none_iff
  | orphans =>
    have hdeny : p.allowOrphans = false := by
      rw [Policy.checks] at hc
      cases hallow : p.allowOrphans with
      | false => rfl
      | true => simp [hallow] at hc
    rw [Check.fault?, orphanFault_eq_none_iff, Check.Holds]
    exact ⟨fun h _ => h, fun h => h hdeny⟩

variable (hexact : ∀ c ∈ p.checks, (c.fault? p t = none ↔ c.Holds p t))
include hexact

theorem result_validate_eq_ok_iff_holds :
    (validate p t).result = .ok () ↔ ∀ c : Check, c.Holds p t := by
  rw [result_validate_eq_ok_iff, firstFault_eq_none_iff]
  constructor
  · intro h c
    have hc := mem_sequence c
    rw [← checks_append_omitted p] at hc
    rcases List.mem_append.1 hc with hc | hc
    · exact (hexact c hc).1 (h c hc)
    · exact Check.holds_of_mem_omitted hc
  · exact fun h c hc => (hexact c hc).2 (h c)

theorem firstFault_eq_some_iff_violated {c : Check} {fault : Fault} :
    firstFault p t = some (c, fault) ↔
      c.FirstViolated p t ∧ c.fault? p t = some fault := by
  rw [firstFault_eq_some_iff]
  constructor
  · rintro ⟨before, after, hchecks, hfault, hbefore⟩
    have hmem : ∀ b ∈ before, b ∈ p.checks := fun b hb => by
      rw [hchecks]
      exact List.mem_append_left _ hb
    have hc : c ∈ p.checks := by
      rw [hchecks]
      exact List.mem_append_right _ List.mem_cons_self
    refine ⟨⟨before, after ++ p.omitted, ?_, fun b hb => ?_, fun hholds => ?_⟩, hfault⟩
    · rw [← checks_append_omitted p, hchecks, List.append_assoc, List.cons_append]
    · exact (hexact b (hmem b hb)).1 (hbefore b hb)
    · rw [(hexact c hc).2 hholds] at hfault
      cases hfault
  · rintro ⟨⟨before, after, hsequence, hbefore, hviolated⟩, hfault⟩
    rw [← checks_append_omitted p] at hsequence
    obtain ⟨rest, hchecks⟩ := exists_split_of_append hsequence
      fun hc => hviolated (Check.holds_of_mem_omitted hc)
    refine ⟨before, rest, hchecks, hfault, fun b hb => ?_⟩
    have hb' : b ∈ p.checks := by
      rw [hchecks]
      exact List.mem_append_left _ hb
    exact (hexact b hb').2 (hbefore b hb)

theorem result_validate_eq_error_iff_violated {fault : Fault} :
    (validate p t).result = .error fault ↔
      ∃ c : Check, c.FirstViolated p t ∧ c.fault? p t = some fault := by
  rw [result_validate_eq_error_iff]
  exact exists_congr fun c => firstFault_eq_some_iff_violated hexact

end Exact

/-! ## Decoded topologies -/

theorem footprintsNonNegative_of_decode {mode : OnInvalid} {raw : RawTopology} {d : Decoded}
    (h : (raw.decode mode).result = .ok d) : d.topology.FootprintsNonNegative := by
  intro v hv r hr
  obtain ⟨record, -, -, hread⟩ := RawTopology.exists_raw_of_decode h v hv
  exact Schema.zero_atMost_of_node hread hr

/-- A decoded topology passes where all conditions hold. Where one does not, the fault is
the one of the first such condition, whatever conditions after it fail. -/
theorem validate_exact_of_decode {mode : OnInvalid} {raw : RawTopology} {d : Decoded}
    (hdecode : (raw.decode mode).result = .ok d) {limits : Limits}
    (hlimits : ∀ dim, limits.get dim ≠ .notANumber) (allowOrphans : Bool) :
    ((validate { limits, allowOrphans } d.topology).result = .ok () ↔
        ∀ c : Check, c.Holds { limits, allowOrphans } d.topology) ∧
      ∀ fault, (validate { limits, allowOrphans } d.topology).result = .error fault ↔
        ∃ c : Check, c.FirstViolated { limits, allowOrphans } d.topology ∧
          c.fault? { limits, allowOrphans } d.topology = some fault ∧
          fault.kind = c.faultKind := by
  have htotals : ∀ dim, (totalsWith Binary64.add d.topology).get dim ≠ .notANumber := fun dim =>
    (zero_atMost_totalsWith keepsNonNegative_binary64
      (footprintsNonNegative_of_decode hdecode) dim).right_ne_notANumber
  have hexact : ∀ c ∈ Policy.checks { limits, allowOrphans },
      (c.fault? { limits, allowOrphans } d.topology = none ↔
        c.Holds { limits, allowOrphans } d.topology) :=
    fun c hc => fault?_eq_none_iff (budgetFault_eq_none_iff htotals hlimits) hc
  refine ⟨result_validate_eq_ok_iff_holds hexact, fun fault => ?_⟩
  rw [result_validate_eq_error_iff_violated hexact]
  constructor
  · rintro ⟨c, hviolated, hfault⟩
    exact ⟨c, hviolated, hfault, Check.kind_of_fault? hfault⟩
  · rintro ⟨c, hviolated, hfault, -⟩
    exact ⟨c, hviolated, hfault⟩

/-- A service that waits for its database. -/
def shop : RawTopology where
  nodes :=
    [⟨"api", some (.object [("kind", .text "service"), ("name", .text "api"),
        ("command", .text "serve"), ("resources", .object [("cpuCores", .nat 2)])])⟩,
      ⟨"db", some (.object [("kind", .text "database"), ("name", .text "orders"),
        ("engine", .text "postgres"), ("version", .text "16")])⟩]
  edges := [⟨"api", "db", some (.object [("kind", .text "depends_on"), ("required", .bool true)])⟩]

def shopPolicy : Policy := { limits := ⟨.ofNat 4, .infinity, .infinity⟩, allowOrphans := false }

theorem exists_decoded_shop : ∃ d, (shop.decode .reject).result = .ok d ∧
    (validate shopPolicy d.topology).result = .ok () :=
  map_eq_ok_iff.1 (by decide +kernel :
    (shop.decode .reject).result.map (fun d => (validate shopPolicy d.topology).result) =
      .ok (.ok ()))

/-- Everything that is asked of a topology holds of the shop. -/
theorem validate_exact_shop :
    ∃ d, (shop.decode .reject).result = .ok d ∧ ∀ c : Check, c.Holds shopPolicy d.topology := by
  obtain ⟨d, hdecode, hverdict⟩ := exists_decoded_shop
  have hlimits : ∀ dim, shopPolicy.limits.get dim ≠ .notANumber := by
    intro dim
    cases dim <;> decide
  exact ⟨d, hdecode, (validate_exact_of_decode hdecode hlimits false).1.1 hverdict⟩

end Validation
end Rollout
