import Rollout.Proofs.Grouping
import Rollout.Proofs.Plan.Entries
import Rollout.Proofs.Record
import Rollout.Proofs.Topology.Decode
import Rollout.Proofs.Validation.Conditions

/-
The dependencies a plan lists. What is listed was validated, so it is deployed, and before
the node that lists it. The node that lists it need not be deployed itself: an edge may
come from a record that was skipped, or from none.
-/
namespace Rollout

open Rollout.Topology Rollout.Validation

/-- Record order only moves the groups. -/
theorem Topology.dependencies_perm (t : Topology) :
    t.dependencies.Perm
      (Grouping.ofList ((t.links.filter isStartupLink).map fun l => (l.source, l.target))) :=
  Record.ofList_perm (Grouping.proper_ofList _).nodup

/-- The entries are the sources of startup edges with their targets in edge order. -/
theorem mem_dependencies_iff {t : Topology} {key : String} {targets : List String} :
    (key, targets) ∈ t.dependencies ↔
      targets = t.startupTargets key ∧ targets ≠ [] := by
  have hscan : Grouping.scan key ((t.links.filter isStartupLink).map fun l => (l.source, l.target)) =
      t.startupTargets key := by
    rw [Grouping.scan, startupTargets, edgesFrom_eq, List.filter_map, List.map_map, List.filter_filter,
      List.filter_filter]
    refine congrArg _ (List.filter_congr fun l _ => ?_)
    exact Bool.and_comm _ _
  rw [t.dependencies_perm.mem_iff, Grouping.mem_ofList_iff, hscan]

theorem mem_startupTargets_iff {t : Topology} {key target : String} :
    target ∈ t.startupTargets key ↔
      ∃ delay, (⟨key, target, .dependsOn true delay⟩ : Link) ∈ t.links := by
  rw [startupTargets, List.mem_map]
  constructor
  · rintro ⟨⟨source, target, edge⟩, hl, rfl⟩
    obtain ⟨hfrom, hstartup⟩ := List.mem_filter.1 hl
    obtain ⟨hlinks, rfl⟩ := mem_edgesFrom.1 hfrom
    obtain ⟨delay, rfl⟩ := isStartup_iff.1 hstartup
    exact ⟨delay, hlinks⟩
  · rintro ⟨delay, hl⟩
    exact ⟨_, List.mem_filter.2 ⟨mem_edgesFrom.2 ⟨hl, rfl⟩, rfl⟩, rfl⟩

theorem targetsPresent_of_plan {p : Policy} {t : Topology} {plan : Plan}
    (h : (t.plan p).result = .ok plan) : t.TargetsPresent := by
  have hpassed : Check.dependencies.fault? p t = none := fault?_eq_none_of_plan h (by decide)
  exact targetFault_eq_none_iff.1 hpassed

/-- Everything that is listed is a node, and comes before the node that lists it. The
lists are those of nodes throughout exactly where every startup edge leaves a node. -/
theorem dependencies_lead_to_nodes {p : Policy} {t : Topology} {plan : Plan}
    (h : (t.plan p).result = .ok plan) :
    ∃ order, Schedule.compute t = .ok order ∧
      (∀ entry ∈ plan.dependencies, ∀ target ∈ entry.2,
        target ∈ t.ids ∧ (entry.1 ∈ t.ids → order.idxOf target < order.idxOf entry.1)) ∧
      ((∀ entry ∈ plan.dependencies, entry.1 ∈ t.ids) ↔
        ∀ l ∈ t.links, isStartupLink l = true → l.source ∈ t.ids) := by
  have hpresent := targetsPresent_of_plan h
  obtain ⟨order, horder, rfl⟩ := exists_order_of_plan h
  have hstart := Schedule.isStartOrder_of_compute_eq_ok horder
  refine ⟨order, horder, ?_, ?_⟩
  · rintro ⟨key, targets⟩ hentry target htarget
    obtain ⟨rfl, -⟩ := mem_dependencies_iff.1 hentry
    obtain ⟨delay, hl⟩ := mem_startupTargets_iff.1 htarget
    have hid : target ∈ t.ids := hpresent _ hl (.inl ⟨delay, rfl⟩)
    exact ⟨hid, fun hkey => hstart.before key target ⟨hkey, hid, delay, hl⟩⟩
  · constructor
    · intro hkeys l hl hstartup
      obtain ⟨delay, hedge⟩ := isStartup_iff.1 hstartup
      have htarget : l.target ∈ t.startupTargets l.source :=
        mem_startupTargets_iff.2 ⟨delay, hedge ▸ hl⟩
      exact hkeys (l.source, t.startupTargets l.source)
        (mem_dependencies_iff.2 ⟨rfl, List.ne_nil_of_mem htarget⟩)
    · rintro hsources ⟨key, targets⟩ hentry
      obtain ⟨rfl, hfilled⟩ := mem_dependencies_iff.1 hentry
      obtain ⟨target, htarget⟩ := List.exists_mem_of_ne_nil _ hfilled
      obtain ⟨delay, hl⟩ := mem_startupTargets_iff.1 htarget
      exact hsources _ hl rfl

theorem dependencies_of_stack :
    ∃ plan, (stack.plan stackPolicy).result = .ok plan ∧
      ("api", ["auth", "db", "auth"]) ∈ plan.dependencies ∧
      stackOrder.idxOf "db" < stackOrder.idxOf "api" ∧
      ∀ entry ∈ plan.dependencies, entry.1 ∈ stack.ids := by
  obtain ⟨order, horder, hlisted, hclosed⟩ := dependencies_lead_to_nodes result_plan_stack
  obtain rfl := Except.ok.inj (horder.symm.trans compute_stack)
  have hapi : ("api", ["auth", "db", "auth"]) ∈ (stack.planOf stackOrder).dependencies :=
    mem_dependencies_iff.2 (by decide +kernel)
  have hdb := hlisted _ hapi "db" (by decide)
  exact ⟨_, result_plan_stack, hapi, hdb.2 (by decide), hclosed.2 (by decide)⟩

/-- A service that cannot be read, since it has no command, and the database it waits
for. -/
def stray : RawTopology where
  nodes :=
    [⟨"api", some (.object [("kind", .text "service"), ("name", .text "api")])⟩,
      ⟨"db", some (.object [("kind", .text "database"), ("name", .text "db"),
        ("engine", .text "postgres"), ("version", .text "16")])⟩]
  edges := [⟨"api", "db", some (.object [("kind", .text "depends_on"), ("required", .bool true)])⟩]

def strayPolicy : Policy where
  limits := ⟨.ofNat 64, .ofNat 128000, .ofNat 10000⟩
  allowOrphans := true

/-- A node that was skipped stands in the plan as one that waits. -/
theorem skipped_node_among_dependencies :
    ∃ d plan, (stray.decode .skip).result = .ok d ∧
      (d.topology.plan strayPolicy).result = .ok plan ∧
      plan.dependencies = [("api", ["db"])] ∧ "api" ∉ d.topology.ids := by
  have hvalue : (stray.decode .skip).result.map (fun d =>
      (d.topology.ids, (d.topology.plan strayPolicy).result.map Plan.dependencies)) =
        .ok (["db"], .ok [("api", ["db"])]) := by
    decide +kernel
  obtain ⟨d, hdecode, hparts⟩ := map_eq_ok_iff.1 hvalue
  obtain ⟨hids, hresult⟩ := Prod.mk.inj hparts
  obtain ⟨plan, hplan, hdependencies⟩ := map_eq_ok_iff.1 hresult
  refine ⟨d, plan, hdecode, hplan, hdependencies, ?_⟩
  rw [hids]
  decide

end Rollout
