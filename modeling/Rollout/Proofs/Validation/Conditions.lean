import Rollout.Proofs.Grouping
import Rollout.Proofs.Topology.Startup
import Rollout.Validation.Checks

/-
What the single checks look for, said of the topology instead of the accumulators that
the checks build. Each check finds nothing exactly where its condition holds. The mounts,
of which more is said, have a module of their own.
-/
namespace Rollout

/-! ## Conditions -/

namespace Catalog
namespace Node

/-- What the kind of a unit asks for beyond its name. -/
def FieldsWellFormed : Node → Prop
  | .service s => Text.isBlank s.command = false
  | .database d => Text.isBlank d.version = false
  | .messageBus b => 1 ≤ b.clusterSize
  | .loadBalancer l => l.backends ≠ []
  | .agent _ | .storage _ => True

def WellFormed (n : Node) : Prop := Text.isBlank n.name = false ∧ n.FieldsWellFormed

end Node
end Catalog

namespace Topology

/-- What is required or balanced is there. -/
def TargetsPresent (t : Topology) : Prop :=
  ∀ l ∈ t.links,
    ((∃ delay, l.edge = .dependsOn true delay) ∨
        ∃ weight check, l.edge = .loadBalances weight check) →
      l.target ∈ t.ids

/-- No port is exposed by two nodes. -/
def PortsExclusive (t : Topology) : Prop :=
  ∀ port, ∀ v ∈ t.vertices, ∀ w ∈ t.vertices,
    port ∈ v.node.exposedPorts → port ∈ w.node.exposedPorts → v = w

/-- A path has one writer at most. -/
def MountsExclusive (t : Topology) : Prop :=
  ∀ path, ∀ l ∈ t.links, ∀ m ∈ t.links,
    l.edge = .mountsVolume path false → m.edge = .mountsVolume path false → l.source = m.source

def NodesWellFormed (t : Topology) : Prop := ∀ v ∈ t.vertices, v.node.WellFormed

/-- Every node is an end of some edge. -/
def Attached (t : Topology) : Prop :=
  ∀ v ∈ t.vertices, ∃ l ∈ t.links, l.source = v.id ∨ l.target = v.id

end Topology

namespace Validation

theorem length_le_one_iff {α : Type} {xs : List α} (h : xs.Nodup) :
    xs.length ≤ 1 ↔ ∀ a ∈ xs, ∀ b ∈ xs, a = b := by
  cases xs with
  | nil => simp
  | cons x rest =>
    cases rest with
    | nil => simp
    | cons y rest =>
      have hxy : x ≠ y := (List.pairwise_cons.1 h).1 y List.mem_cons_self
      simp only [List.length_cons]
      constructor
      · intro hlen
        omega
      · intro hall
        exact absurd (hall x (by simp) y (by simp)) hxy

theorem one_lt_length_iff {α : Type} {xs : List α} (h : xs.Nodup) :
    1 < xs.length ↔ ∃ a ∈ xs, ∃ b ∈ xs, a ≠ b := by
  rw [← Nat.not_le, length_le_one_iff h]
  simp only [not_forall, exists_prop, ne_eq]

/-! ## Targets -/

theorem needsTarget_iff {e : Catalog.Edge} :
    e.needsTarget = true ↔
      (∃ delay, e = .dependsOn true delay) ∨ ∃ weight check, e = .loadBalances weight check := by
  cases e <;> simp [Catalog.Edge.needsTarget]

theorem targetFault_eq_none_iff {t : Topology} : targetFault t = none ↔ t.TargetsPresent := by
  rw [targetFault, Option.map_eq_none_iff, List.find?_eq_none]
  refine forall_congr' fun l => forall_congr' fun _ => ?_
  rw [← needsTarget_iff, ← Topology.hasNode_iff]
  cases l.edge.needsTarget <;> cases t.hasNode l.target <;> simp

/-- The fault names the first edge that needs its target and has none. -/
theorem targetFault_eq_some {t : Topology} {before after : List Link} {l : Link}
    (hlinks : t.links = before ++ l :: after) (hneeds : l.edge.needsTarget = true)
    (htarget : l.target ∉ t.ids)
    (hbefore : ∀ b ∈ before, b.edge.needsTarget = true → b.target ∈ t.ids) :
    targetFault t = some (.missingDependency l.source l.target) := by
  have hmissing : t.hasNode l.target = false := by
    rw [← Bool.not_eq_true, Topology.hasNode_iff]
    exact htarget
  have hfind : (t.links.find? fun l => l.edge.needsTarget && !t.hasNode l.target) = some l := by
    refine List.find?_eq_some_iff_append.2 ⟨?_, before, after, hlinks, fun b hb => ?_⟩
    · rw [hneeds, hmissing]
      rfl
    · cases hb' : b.edge.needsTarget with
      | false => rfl
      | true =>
        rw [Topology.hasNode_iff.2 (hbefore b hb hb')]
        rfl
  rw [targetFault, hfind, Option.map_some]

/-! ## Ports -/

theorem nodup_exposedPorts (n : Catalog.Node) : n.exposedPorts.Nodup := by
  cases n with
  | service s => cases hport : s.port <;> simp [Catalog.Node.exposedPorts, hport]
  | database d => cases hport : d.engine.port? <;> simp [Catalog.Node.exposedPorts, hport]
  | messageBus b =>
    show b.busType.ports.Nodup
    cases b.busType <;> decide
  | agent => exact List.nodup_nil
  | loadBalancer => exact List.nodup_nil
  | storage => exact List.nodup_nil

/-- The claims on one port by a unit without repeated ports. -/
theorem filter_claims {port : Nat} {name : String} {ports : List Nat} (h : ports.Nodup) :
    ((ports.map fun p => (p, name)).filter fun c => c.1 = port).map (·.2) =
      if port ∈ ports then [name] else [] := by
  induction ports with
  | nil => rfl
  | cons p rest ih =>
    obtain ⟨hp, hrest⟩ := List.nodup_cons.1 h
    by_cases hport : p = port
    · subst hport
      have hnone := ih hrest
      rw [if_neg hp] at hnone
      simp [hnone]
    · have hne : port ≠ p := fun heq => hport heq.symm
      simp [hport, hne, ih hrest]

/-- The names under a port are those of the nodes that expose it. -/
theorem scan_portUsage (t : Topology) (port : Nat) :
    Grouping.scan port
        (t.vertices.flatMap fun v => v.node.exposedPorts.map fun p => (p, v.node.name)) =
      (t.vertices.filter fun v => port ∈ v.node.exposedPorts).map fun v => v.node.name := by
  induction t.vertices with
  | nil => rfl
  | cons v rest ih =>
    rw [Grouping.scan] at ih ⊢
    rw [List.flatMap_cons, List.filter_append, List.map_append, ih,
      filter_claims (nodup_exposedPorts v.node), List.filter_cons]
    by_cases hport : port ∈ v.node.exposedPorts <;> simp [hport]

theorem lowestPort_eq_none_iff {entries : List (Nat × List String)} :
    lowestPort entries = none ↔ entries = [] := by
  cases entries with
  | nil => simp [lowestPort]
  | cons entry rest =>
    rw [lowestPort]
    split
    · split <;> simp
    · simp

theorem portFault_eq_none_iff {t : Topology} : portFault t = none ↔ t.PortsExclusive := by
  rw [portFault, Option.map_eq_none_iff, lowestPort_eq_none_iff, List.filter_eq_nil_iff]
  have hshort : (∀ entry ∈ portUsage t, entry.2.length ≤ 1) ↔ t.PortsExclusive := by
    rw [portUsage, Grouping.forall_mem_ofList_iff (P := fun names => names.length ≤ 1) (by simp)]
    refine forall_congr' fun port => ?_
    rw [scan_portUsage, List.length_map, length_le_one_iff (t.nodup_vertices.filter _)]
    simp only [List.mem_filter, decide_eq_true_eq]
    constructor
    · exact fun h v hv w hw hpv hpw => h v ⟨hv, hpv⟩ w ⟨hw, hpw⟩
    · exact fun h v hv w hw => h v hv.1 w hw.1 hv.2 hw.2
  rw [← hshort]
  simp only [decide_eq_true_eq, Nat.not_lt]

/-! ## Single nodes -/

theorem ownProblem?_eq_none_iff {n : Catalog.Node} :
    n.ownProblem? = none ↔ n.FieldsWellFormed := by
  cases n with
  | service s => simp [Catalog.Node.ownProblem?, Catalog.Node.FieldsWellFormed]
  | database d => simp [Catalog.Node.ownProblem?, Catalog.Node.FieldsWellFormed]
  | messageBus b =>
    simp [Catalog.Node.ownProblem?, Catalog.Node.FieldsWellFormed, Nat.one_le_iff_ne_zero]
  | loadBalancer l => simp [Catalog.Node.ownProblem?, Catalog.Node.FieldsWellFormed]
  | agent _ => exact iff_of_true rfl trivial
  | storage _ => exact iff_of_true rfl trivial

theorem problem?_eq_none_iff {n : Catalog.Node} : n.problem? = none ↔ n.WellFormed := by
  rw [Catalog.Node.problem?, Catalog.Node.WellFormed, ← ownProblem?_eq_none_iff]
  cases Text.isBlank n.name <;> simp

theorem nodeFault_eq_none_iff {t : Topology} : nodeFault t = none ↔ t.NodesWellFormed := by
  rw [nodeFault, List.findSome?_eq_none_iff]
  refine forall_congr' fun v => forall_congr' fun _ => ?_
  rw [Option.map_eq_none_iff, problem?_eq_none_iff]

theorem isEmpty_edges_iff {t : Topology} {id : String} :
    ((t.edgesFrom id).isEmpty && (t.edgesTo id).isEmpty) = true ↔
      ¬∃ l ∈ t.links, l.source = id ∨ l.target = id := by
  rw [Bool.and_eq_true, List.isEmpty_iff, List.isEmpty_iff, Topology.edgesFrom_eq,
    Topology.edgesTo_eq, List.filter_eq_nil_iff, List.filter_eq_nil_iff]
  simp only [decide_eq_true_eq]
  constructor
  · rintro ⟨hfrom, hto⟩ ⟨l, hl, hs | ht⟩
    · exact hfrom l hl hs
    · exact hto l hl ht
  · exact fun h => ⟨fun l hl hs => h ⟨l, hl, .inl hs⟩, fun l hl ht => h ⟨l, hl, .inr ht⟩⟩

theorem orphanFault_eq_none_iff {t : Topology} :
    orphanFault t = none ↔ (2 ≤ t.size → t.Attached) := by
  rw [orphanFault]
  by_cases hsize : t.size < 2
  · rw [if_pos hsize]
    exact iff_of_true rfl fun h => absurd h (Nat.not_le.2 hsize)
  · have htwo : 2 ≤ t.size := Nat.not_lt.1 hsize
    rw [if_neg hsize, Option.map_eq_none_iff, List.find?_eq_none]
    simp only [htwo, true_imp_iff, isEmpty_edges_iff, not_not]
    rfl

/-- The node that is reported is the first one without an edge. -/
theorem orphanFault_eq_some_iff {t : Topology} {fault : Fault} :
    orphanFault t = some fault ↔ 2 ≤ t.size ∧ ∃ before v after,
      t.vertices = before ++ v :: after ∧ fault = .orphanedNode v.id ∧
        (¬∃ l ∈ t.links, l.source = v.id ∨ l.target = v.id) ∧
        ∀ w ∈ before, ∃ l ∈ t.links, l.source = w.id ∨ l.target = w.id := by
  rw [orphanFault]
  by_cases hsize : t.size < 2
  · rw [if_pos hsize]
    exact iff_of_false (by simp) fun h => absurd h.1 (Nat.not_le.2 hsize)
  · have htwo : 2 ≤ t.size := Nat.not_lt.1 hsize
    rw [if_neg hsize, Option.map_eq_some_iff]
    simp only [List.find?_eq_some_iff_append, isEmpty_edges_iff, htwo, true_and,
      Bool.not_eq_eq_eq_not, Bool.not_true]
    constructor
    · rintro ⟨v, ⟨hv, before, after, hvertices, hbefore⟩, rfl⟩
      refine ⟨before, v, after, hvertices, rfl, hv, fun w hw => ?_⟩
      by_contra hnone
      exact Bool.false_ne_true ((hbefore w hw).symm.trans (isEmpty_edges_iff.2 hnone))
    · rintro ⟨before, v, after, hvertices, rfl, hv, hbefore⟩
      refine ⟨v, ⟨hv, before, after, hvertices, fun w hw => ?_⟩, rfl⟩
      rw [Bool.eq_false_iff]
      exact fun h => isEmpty_edges_iff.1 h (hbefore w hw)

end Validation
end Rollout
