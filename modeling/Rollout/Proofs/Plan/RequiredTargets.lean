import Rollout.Proofs.Plan.Dependencies

/-
Required targets of raw topologies. Records that cannot be read may be skipped, and leave
edges behind that lead nowhere. None of them is dropped on the way to a plan: where a plan
is made, every required target was read and is deployed, and where one is missing there is
no plan but the fault of the first edge that misses it.
-/
namespace Rollout

open Rollout.Topology Rollout.Validation

/-- The edge is read as a required dependency or as one of a balancer. -/
def RawEdge.NeedsTarget (r : RawEdge) : Prop :=
  (∃ delay, Schema.edge r.data = .valid (.dependsOn true delay)) ∨
    ∃ weight check, Schema.edge r.data = .valid (.loadBalances weight check)

/-- The edge needs a target that no record declares. -/
def RawTopology.Unmet (raw : RawTopology) (r : RawEdge) : Prop :=
  r.NeedsTarget ∧ ¬raw.Declares r.target

theorem RawEdge.needsTarget_iff {r : RawEdge} :
    r.NeedsTarget ↔ ∃ l, r.read? = some l ∧ l.edge.needsTarget = true := by
  constructor
  · rintro (⟨delay, hedge⟩ | ⟨weight, check, hedge⟩)
    · exact ⟨⟨r.source, r.target, .dependsOn true delay⟩,
        read?_eq_some_iff.2 ⟨rfl, rfl, hedge⟩, rfl⟩
    · exact ⟨⟨r.source, r.target, .loadBalances weight check⟩,
        read?_eq_some_iff.2 ⟨rfl, rfl, hedge⟩, rfl⟩
  · rintro ⟨l, hread, hneeds⟩
    obtain ⟨-, -, hedge⟩ := read?_eq_some_iff.1 hread
    rcases Validation.needsTarget_iff.1 hneeds with ⟨delay, hl⟩ | ⟨weight, check, hl⟩
    · exact .inl ⟨delay, hl ▸ hedge⟩
    · exact .inr ⟨weight, check, hl ▸ hedge⟩

/-- Places for the entries of a plan, one for each node: no two nodes of a kind share
one. -/
structure Plan.Places (plan : Plan) (t : Topology) (place : Vertex → Nat) : Prop where
  entry : ∀ v ∈ t.vertices, (plan.collection v.node.kind)[place v]? = some (t.entry v)
  own : ∀ v ∈ t.vertices, ∀ w ∈ t.vertices, v.node.kind = w.node.kind → place v = place w → v = w

theorem Plan.Lists.places {plan : Plan} {t : Topology} {nodes : List Vertex}
    (h : plan.Lists t nodes) :
    plan.Places t fun v => (ofKind v.node.kind nodes).idxOf v := by
  refine ⟨fun v hv => h.getElem?_collection hv, fun v hv w hw hkind hplace => ?_⟩
  rw [← hkind] at hplace
  exact (List.idxOf_inj (h.mem_ofKind hv)).1 hplace

/-! ## Missing targets -/

theorem exists_first {α : Type} {P : α → Prop} {xs : List α} (h : ∃ a ∈ xs, P a) :
    ∃ before a after, xs = before ++ a :: after ∧ P a ∧ ∀ b ∈ before, ¬P b := by
  classical
  have hsome : (xs.find? fun a => decide (P a)).isSome = true := by
    obtain ⟨a, ha, hPa⟩ := h
    exact List.find?_isSome.2 ⟨a, ha, decide_eq_true hPa⟩
  obtain ⟨a, ha⟩ := Option.isSome_iff_exists.1 hsome
  obtain ⟨hPa, before, after, heq, hbefore⟩ := List.find?_eq_some_iff_append.1 ha
  refine ⟨before, a, after, heq, of_decide_eq_true hPa, fun b hb hPb => ?_⟩
  have hnot := hbefore b hb
  rw [decide_eq_true hPb] at hnot
  cases hnot

section Decoded

variable {mode : OnInvalid} {raw : RawTopology} {d : Decoded}
  (hdecode : (raw.decode mode).result = .ok d)
include hdecode

/-- The first edge of the records that misses its target is the one the check names. -/
theorem targetFault_of_unmet {before after : List RawEdge} {r : RawEdge}
    (hedges : raw.edges = before ++ r :: after) (hr : raw.Unmet r)
    (hbefore : ∀ b ∈ before, ¬raw.Unmet b) :
    targetFault d.topology = some (.missingDependency r.source r.target) := by
  obtain ⟨hneeds, hmissing⟩ := hr
  obtain ⟨l, hread, hl⟩ := RawEdge.needsTarget_iff.1 hneeds
  obtain ⟨hsource, htarget, -⟩ := RawEdge.read?_eq_some_iff.1 hread
  have hlinks : d.topology.links =
      before.filterMap RawEdge.read? ++ l :: after.filterMap RawEdge.read? := by
    rw [RawTopology.links_of_decode hdecode, hedges, List.filterMap_append,
      List.filterMap_cons_some hread]
  rw [RawTopology.declares_iff hdecode, htarget] at hmissing
  rw [hsource, htarget]
  refine targetFault_eq_some hlinks hl hmissing fun m hm hmneeds => ?_
  obtain ⟨b, hb, hbread⟩ := List.mem_filterMap.1 hm
  obtain ⟨-, hbtarget, -⟩ := RawEdge.read?_eq_some_iff.1 hbread
  have hmet : raw.Declares b.target := by
    by_contra hnot
    exact hbefore b hb ⟨RawEdge.needsTarget_iff.2 ⟨m, hbread, hmneeds⟩, hnot⟩
  rw [← hbtarget]
  exact (RawTopology.declares_iff hdecode).1 hmet

theorem exists_vertex_of_needsTarget {r : RawEdge} (hpresent : d.topology.TargetsPresent)
    (hr : r ∈ raw.edges) (hneeds : r.NeedsTarget) :
    ∃ record ∈ raw.nodes, record.id = r.target ∧
      ∃ node, Schema.node record.data = .valid node ∧
        (⟨r.target, node⟩ : Vertex) ∈ d.topology.vertices := by
  obtain ⟨l, hread, hl⟩ := RawEdge.needsTarget_iff.1 hneeds
  obtain ⟨-, htarget, -⟩ := RawEdge.read?_eq_some_iff.1 hread
  have hlinks : l ∈ d.topology.links := by
    rw [RawTopology.links_of_decode hdecode]
    exact List.mem_filterMap.2 ⟨r, hr, hread⟩
  have hid : l.target ∈ d.topology.ids := hpresent l hlinks (Validation.needsTarget_iff.1 hl)
  obtain ⟨v, hv, hvid⟩ := List.mem_map.1 hid
  obtain ⟨record, hrecord, hrid, hnode⟩ := RawTopology.exists_raw_of_decode hdecode v hv
  have hvtarget : v.id = r.target := hvid.trans htarget.symm
  refine ⟨record, hrecord, hrid.trans hvtarget, v.node, hnode, ?_⟩
  rw [← hvtarget]
  exact hv

theorem waits_of_raw {r : RawEdge} {delay : Option Number} (hr : r ∈ raw.edges)
    (hedge : Schema.edge r.data = .valid (.dependsOn true delay))
    (hsource : raw.Declares r.source) (htarget : r.target ∈ d.topology.ids) :
    d.topology.Waits r.source r.target := by
  refine ⟨(RawTopology.declares_iff hdecode).1 hsource, htarget, delay, ?_⟩
  rw [RawTopology.links_of_decode hdecode]
  exact List.mem_filterMap.2 ⟨r, hr, RawEdge.read?_eq_some_iff.2 ⟨rfl, rfl, hedge⟩⟩

/-- A plan deploys the target of every edge that needs one, before the nodes that wait for
it. An edge that misses its target stops the plan: the first one is named, unless there is
a cycle to name. -/
theorem required_targets_deployed_or_named (p : Policy) :
    (∀ plan, (d.topology.plan p).result = .ok plan →
      ∃ order place, Schedule.compute d.topology = .ok order ∧ plan.Places d.topology place ∧
        (∀ r ∈ raw.edges, r.NeedsTarget →
          ∃ record ∈ raw.nodes, record.id = r.target ∧
            ∃ node, Schema.node record.data = .valid node ∧
              (⟨r.target, node⟩ : Vertex) ∈ d.topology.vertices) ∧
        ∀ r ∈ raw.edges, (∃ delay, Schema.edge r.data = .valid (.dependsOn true delay)) →
          raw.Declares r.source →
            r.source ∈ order ∧ order.idxOf r.target < order.idxOf r.source) ∧
    ((∃ r ∈ raw.edges, raw.Unmet r) →
      ∃ before r after, raw.edges = before ++ r :: after ∧ raw.Unmet r ∧
        (∀ b ∈ before, ¬raw.Unmet b) ∧
        (d.topology.Acyclic →
          (d.topology.plan p).result = .error (.missingDependency r.source r.target)) ∧
        (¬d.topology.Acyclic →
          ∃ cycle, Cycle.IsSimpleCycle d.topology cycle ∧
            (d.topology.plan p).result = .error (.ofCycle cycle))) := by
  constructor
  · intro plan hplan
    have hpresent := targetsPresent_of_plan hplan
    obtain ⟨order, horder, -⟩ := exists_order_of_plan hplan
    have hstart := Schedule.isStartOrder_of_compute_eq_ok horder
    refine ⟨order, _, horder, (lists_placed_of_plan hplan horder).places,
      fun r hr hneeds => exists_vertex_of_needsTarget hdecode hpresent hr hneeds, ?_⟩
    rintro r hr ⟨delay, hedge⟩ hsource
    obtain ⟨-, -, -, node, -, hv⟩ :=
      exists_vertex_of_needsTarget hdecode hpresent hr (.inl ⟨delay, hedge⟩)
    have htarget : r.target ∈ d.topology.ids := List.mem_map_of_mem (f := Vertex.id) hv
    have hwaits := waits_of_raw hdecode hr hedge hsource htarget
    exact ⟨(hstart.mem_iff _).2 hwaits.source_mem, hstart.before _ _ hwaits⟩
  · intro hunmet
    obtain ⟨before, r, after, hedges, hr, hbefore⟩ := exists_first hunmet
    refine ⟨before, r, after, hedges, hr, hbefore, fun hacyclic => ?_, fun hcyclic => ?_⟩
    · have hfault := targetFault_of_unmet hdecode hedges hr hbefore
      exact result_plan_of_validate_error
        (result_validate_of_targetFault (cycleFault_eq_none_iff.2 hacyclic) hfault)
    · rcases Cycle.find?_cases d.topology with ⟨-, hacyclic⟩ | ⟨cycle, hfind, hcycle⟩
      · exact absurd hacyclic hcyclic
      · have hfault : cycleFault d.topology = some (.ofCycle cycle) := by
          rw [cycleFault, hfind, Option.map_some]
        exact ⟨cycle, hcycle, result_plan_of_validate_error (result_validate_of_cycleFault hfault)⟩

end Decoded

/-- A service that requires a database and a cache, behind a balancer. -/
def depot (cache : Json) : RawTopology where
  nodes :=
    [⟨"api", some (.object [("kind", .text "service"), ("name", .text "api"),
        ("command", .text "serve")])⟩,
      ⟨"cache", some cache⟩,
      ⟨"db", some (.object [("kind", .text "database"), ("name", .text "db"),
        ("engine", .text "postgres"), ("version", .text "16")])⟩,
      ⟨"edge", some (.object [("kind", .text "load_balancer"), ("name", .text "edge"),
        ("strategy", .text "random"), ("backends", .texts ["api"])])⟩]
  edges :=
    [⟨"api", "db", some (.object [("kind", .text "depends_on"), ("required", .bool true)])⟩,
      ⟨"api", "cache", some (.object [("kind", .text "depends_on"), ("required", .bool true)])⟩,
      ⟨"edge", "api", some (.object [("kind", .text "load_balances")])⟩]

/-- The cache, and a record of it without an engine. -/
def cacheRecord : Json :=
  .object [("kind", .text "database"), ("name", .text "cache"), ("engine", .text "redis"),
    ("version", .text "7")]

def brokenCacheRecord : Json :=
  .object [("kind", .text "database"), ("name", .text "cache"), ("version", .text "7")]

/-- The edge to the cache. -/
def cacheEdge : RawEdge :=
  ⟨"api", "cache", some (.object [("kind", .text "depends_on"), ("required", .bool true)])⟩

theorem cacheEdge_mem (cache : Json) : cacheEdge ∈ (depot cache).edges :=
  List.mem_cons_of_mem _ List.mem_cons_self

theorem edge_cacheEdge : Schema.edge cacheEdge.data = .valid (.dependsOn true none) := rfl

theorem required_targets_of_depot :
    (∃ d plan order place, ((depot cacheRecord).decode .skip).result = .ok d ∧
      (d.topology.plan strayPolicy).result = .ok plan ∧ plan.Places d.topology place ∧
      Schedule.compute d.topology = .ok order ∧ order.idxOf "cache" < order.idxOf "api") ∧
    ∃ d r, ((depot brokenCacheRecord).decode .skip).result = .ok d ∧
      (depot brokenCacheRecord).Unmet r ∧ r.source = "api" ∧ r.target = "cache" ∧
      (d.topology.plan strayPolicy).result = .error (.missingDependency r.source r.target) := by
  constructor
  · have hvalue : ((depot cacheRecord).decode .skip).result.map (fun d => (d.topology.ids,
        (d.topology.plan strayPolicy).result.map fun plan => plan.databases.length)) =
          .ok (["api", "cache", "db", "edge"], .ok 2) := by
      decide +kernel
    obtain ⟨d, hdecode, hparts⟩ := map_eq_ok_iff.1 hvalue
    obtain ⟨hids, hresult⟩ := Prod.mk.inj hparts
    obtain ⟨plan, hplan, -⟩ := map_eq_ok_iff.1 hresult
    have hapi : (depot cacheRecord).Declares "api" := by
      rw [RawTopology.declares_iff hdecode, hids]
      decide
    obtain ⟨order, place, horder, hplaces, -, hbefore⟩ :=
      (required_targets_deployed_or_named hdecode strayPolicy).1 plan hplan
    have hlt := hbefore cacheEdge (cacheEdge_mem _) ⟨none, edge_cacheEdge⟩ hapi
    exact ⟨d, plan, order, place, hdecode, hplan, hplaces, horder, hlt.2⟩
  · have hvalue : ((depot brokenCacheRecord).decode .skip).result.map (fun d => (d.topology.ids,
        cycleFault d.topology, (d.topology.plan strayPolicy).result.map Plan.counts)) =
          .ok (["api", "db", "edge"], none, .error (.missingDependency "api" "cache")) := by
      decide +kernel
    obtain ⟨d, hdecode, hparts⟩ := map_eq_ok_iff.1 hvalue
    obtain ⟨hids, hrest⟩ := Prod.mk.inj hparts
    obtain ⟨hcycle, hresult⟩ := Prod.mk.inj hrest
    have hcache : ¬(depot brokenCacheRecord).Declares "cache" := by
      rw [RawTopology.declares_iff hdecode, hids]
      decide
    have hunmet : (depot brokenCacheRecord).Unmet cacheEdge :=
      ⟨.inl ⟨none, edge_cacheEdge⟩, hcache⟩
    obtain ⟨-, r, -, -, hr, -, hnamed, -⟩ :=
      (required_targets_deployed_or_named hdecode strayPolicy).2
        ⟨cacheEdge, cacheEdge_mem _, hunmet⟩
    have hfault := hnamed (cycleFault_eq_none_iff.1 hcycle)
    rw [hfault] at hresult
    obtain ⟨hsource, htarget⟩ := Fault.missingDependency.inj (Except.error.inj hresult)
    exact ⟨d, r, hdecode, hr, hsource, htarget, hfault⟩

end Rollout
