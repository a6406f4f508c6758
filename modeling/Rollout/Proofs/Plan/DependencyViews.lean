import Rollout.Proofs.Aligned
import Rollout.Proofs.Plan.Dependencies

/-
The dependencies of a service in its entry and in the dependency map. The entry takes them
from the index of the edges by their sources, the map groups all startup edges and puts
the groups in record order. Both list the same targets under every id, whatever the id
looks like, and no startup edge is lost or listed twice on the way.
-/
namespace Rollout

open Rollout.Topology Rollout.Validation

namespace Topology

/-- The targets that the dependency map lists under an id. -/
def listedUnder (t : Topology) (id : String) : List String :=
  (Record.get? t.dependencies id).getD []

theorem startupTargets_eq (t : Topology) (id : String) :
    t.startupTargets id =
      (t.links.filter fun l => isStartupLink l && decide (l.source = id)).map Link.target := by
  rw [startupTargets, edgesFrom_eq, List.filter_filter]

theorem nodup_keys_dependencies (t : Topology) : (Record.keys t.dependencies).Nodup := by
  rw [Record.keys, (t.dependencies_perm.map (·.1)).nodup_iff]
  exact (Grouping.proper_ofList _).nodup

theorem get?_dependencies_eq_some_iff {t : Topology} {key : String} {targets : List String} :
    Record.get? t.dependencies key = some targets ↔
      targets = t.startupTargets key ∧ targets ≠ [] := by
  rw [Record.get?_eq_some_iff_mem t.nodup_keys_dependencies, mem_dependencies_iff]

/-- Under an id without startup edges nothing is listed, and the entry has no targets
either. -/
theorem listedUnder_eq (t : Topology) (id : String) : t.listedUnder id = t.startupTargets id := by
  rw [listedUnder]
  cases hlisted : Record.get? t.dependencies id with
  | some targets => exact (get?_dependencies_eq_some_iff.1 hlisted).1
  | none =>
    by_contra hne
    have hsome := get?_dependencies_eq_some_iff.2 ⟨rfl, fun hnil => hne hnil.symm⟩
    rw [hlisted] at hsome
    cases hsome

/-- Each startup edge is listed once. -/
theorem ungrouped_dependencies_perm (t : Topology) :
    (Grouping.ungrouped t.dependencies).Perm
      ((t.links.filter isStartupLink).map fun l => (l.source, l.target)) :=
  (t.dependencies_perm.flatMap_right _).trans (Grouping.ungrouped_ofList_perm _)

/-- A service entry is that of a node, with what the map lists under the node's id. -/
def ListsAlike (t : Topology) (v : Vertex) (e : PlannedService) : Prop :=
  t.entry v = .service e ∧ e.dependencies = t.listedUnder v.id

theorem forall₂_listsAlike (t : Topology) (vs : List Vertex) :
    List.Forall₂ t.ListsAlike (ofKind .service vs)
      (vs.filterMap fun v =>
        match v.node with
        | .service s => some (t.planService v.id s)
        | _ => none) := by
  refine forall₂_filter_filterMap (fun v => ?_) vs
  obtain ⟨id, node⟩ := v
  cases node with
  | service s => exact .inr ⟨t.planService id s, rfl, rfl, rfl, (t.listedUnder_eq id).symm⟩
  | _ => exact .inl ⟨rfl, rfl⟩

end Topology

/-- The entries of the services, in a plan or without one, list what the dependency map
lists under their ids; and the map lists the startup edges, each once and under its source
in edge order, and nothing else. -/
theorem dependency_views_agree (t : Topology) :
    List.Forall₂ t.ListsAlike (ofKind .service t.vertices) t.services ∧
      (∀ p plan, (t.plan p).result = .ok plan → plan.dependencies = t.dependencies ∧
        ∃ nodes, plan.Lists t nodes ∧
          List.Forall₂ t.ListsAlike (ofKind .service nodes) plan.services) ∧
      (∀ key targets, Record.get? t.dependencies key = some targets ↔ targets ≠ [] ∧
        targets =
          (t.links.filter fun l => isStartupLink l && decide (l.source = key)).map Link.target) ∧
      (t.dependencies.flatMap fun m => m.2.map fun target => (m.1, target)).Perm
        ((t.links.filter isStartupLink).map fun l => (l.source, l.target)) := by
  refine ⟨t.forall₂_listsAlike t.vertices, fun p plan hplan => ?_, fun key targets => ?_,
    t.ungrouped_dependencies_perm⟩
  · obtain ⟨order, horder, rfl⟩ := exists_order_of_plan hplan
    exact ⟨rfl, _, lists_placed_of_plan hplan horder, t.forall₂_listsAlike (t.placed order)⟩
  · rw [get?_dependencies_eq_some_iff, startupTargets_eq, and_comm]

/-- Services under ids that records treat in their own ways, one of them without startup
edges, and a startup edge that leaves no node. -/
def ledger : Topology where
  vertices :=
    [⟨"__proto__", .service ⟨"shadow", "run", [], [], none, none, .empty⟩⟩,
      ⟨"10", .service ⟨"ten", "run", [], [], none, none, .empty⟩⟩,
      ⟨"db", .service ⟨"store", "run", [], [], none, none, .empty⟩⟩,
      ⟨"2", .service ⟨"two", "run", [], [], none, none, .empty⟩⟩]
  links :=
    [⟨"ghost", "db", .dependsOn true none⟩, ⟨"10", "2", .dependsOn true none⟩,
      ⟨"__proto__", "10", .dependsOn true none⟩, ⟨"10", "db", .dependsOn true none⟩,
      ⟨"db", "2", .dependsOn false none⟩, ⟨"2", "db", .dependsOn true none⟩,
      ⟨"10", "2", .dependsOn true none⟩]
  nodup_ids := by decide

theorem dependency_views_ledger :
    ∃ plan nodes, (ledger.plan strayPolicy).result = .ok plan ∧ plan.Lists ledger nodes ∧
      List.Forall₂ ledger.ListsAlike (ofKind .service nodes) plan.services ∧
      plan.dependencies =
        [("2", ["db"]), ("10", ["2", "db", "2"]), ("ghost", ["db"]), ("__proto__", ["10"])] ∧
      ledger.services.map PlannedService.dependencies = [["10"], ["2", "db", "2"], [], ["db"]] := by
  have hvalue : (ledger.plan strayPolicy).result.map Plan.dependencies =
      .ok [("2", ["db"]), ("10", ["2", "db", "2"]), ("ghost", ["db"]), ("__proto__", ["10"])] := by
    decide +kernel
  obtain ⟨plan, hplan, hdependencies⟩ := map_eq_ok_iff.1 hvalue
  obtain ⟨-, nodes, hlists, halike⟩ := (dependency_views_agree ledger).2.1 strayPolicy plan hplan
  exact ⟨plan, nodes, hplan, hlists, halike, hdependencies, by decide⟩

end Rollout
