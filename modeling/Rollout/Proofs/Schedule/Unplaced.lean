import Rollout.Proofs.Schedule.StartOrder

/-
The nodes that a sweep leaves unplaced: those from which a cycle can be reached. Going on
from a placed node along what it waits for, one comes to earlier and earlier places, so
never to a cycle; a node that is not placed waits for another one that is not. The fault of
a topology without a start order names these nodes and no others.
-/
namespace Rollout
namespace Schedule

open Relation Text

theorem Greedy.not_leadsToCycle {t : Topology} {order : List String} (h : Greedy t [] order)
    {id : String} (hid : id ∈ order) : ¬t.LeadsToCycle id := by
  have hclosed : ∀ b, ReflTransGen t.Waits id b → b ∈ order := by
    intro b hb
    induction hb with
    | refl => exact hid
    | tail _ hab ih => exact (h.idxOf_lt ih hab).1
  have hearlier : ∀ a b, a ∈ order → TransGen t.Waits a b →
      b ∈ order ∧ order.idxOf b < order.idxOf a := by
    intro a b ha hb
    induction hb with
    | single hab => exact h.idxOf_lt ha hab
    | tail _ hbc ih =>
      obtain ⟨hmem, hlt⟩ := h.idxOf_lt ih.1 hbc
      exact ⟨hmem, Nat.lt_trans hlt ih.2⟩
  rintro ⟨c, hreach, hcycle⟩
  exact Nat.lt_irrefl _ (hearlier c c (hclosed c hreach) hcycle).2

theorem mem_completed_iff {t : Topology} {id : String} (hid : id ∈ t.ids) :
    id ∈ (completed t).order ↔ ¬t.LeadsToCycle id :=
  ⟨(sound_completed t).greedy.not_leadsToCycle,
    fun h => by_contra fun hnot => h (leadsToCycle_of_not_mem_completed hid hnot)⟩

/-- The nodes that the sweep has not placed at its end, in ascending order. -/
def unplaced (t : Topology) : List String :=
  sorted (t.ids.filter fun id => !(completed t).order.contains id)

theorem mem_unplaced_iff {t : Topology} {id : String} :
    id ∈ unplaced t ↔ id ∈ t.ids ∧ t.LeadsToCycle id := by
  rw [unplaced, mem_sorted, List.mem_filter]
  refine and_congr_right fun hid => ?_
  have hplaced := mem_completed_iff hid
  by_cases hmem : id ∈ (completed t).order
  · simp [hmem, hplaced.1 hmem]
  · simp [hmem, Classical.not_not.1 fun hn => hmem (hplaced.2 hn)]

theorem nodup_unplaced (t : Topology) : (unplaced t).Nodup :=
  (sorted_perm _).nodup_iff.2 (List.Nodup.filter _ t.nodup_ids)

theorem compute_of_not_acyclic {t : Topology} (h : ¬t.Acyclic) :
    compute t = .error (.ofUnresolved (unplaced t)) := by
  have hlen : (completed t).order.length ≠ t.size := fun hlen =>
    h (acyclic_of_compute_eq_ok (compute_eq_ok_iff.2 ⟨hlen, rfl⟩))
  simp only [compute, if_neg hlen]
  rfl

/-- A topology with a cycle has no start order. Its fault names, in ascending order, the
nodes on its cycles and all that wait for them. -/
theorem compute_names_unplaced (t : Topology) (h : ¬t.Acyclic) :
    ∃ stuck description fault,
      description = "cannot determine deployment order (unresolved: " ++
        String.intercalate ", " stuck ++ ")" ∧
      compute t = .error fault ∧ fault = .cyclicDependency description [] ∧
      fault.message = "Cyclic dependency detected: " ++ description ∧
      fault.details = [("cycle", .texts [])] ∧
      (∀ id, id ∈ stuck ↔ id ∈ t.ids ∧ t.LeadsToCycle id) ∧
      stuck.Nodup ∧ stuck.Pairwise fun a b => precedes a b = true := by
  refine ⟨unplaced t, _, _, rfl, compute_of_not_acyclic h, rfl, rfl, rfl,
    fun id => mem_unplaced_iff, nodup_unplaced t, ?_⟩
  exact (ascending_sorted _).pairwise_precedes (nodup_unplaced t)

/-- Two cycles, one of them a single node, a node that waits for the other one, and two
nodes that wait for no cycle. -/
def knotted : Topology where
  vertices :=
    ["web", "log", "api", "db", "cache", "bus"].map fun id =>
      ⟨id, .agent ⟨id, [], [], none, .empty⟩⟩
  links :=
    [⟨"web", "api", .dependsOn true none⟩, ⟨"api", "db", .dependsOn true none⟩,
      ⟨"db", "api", .dependsOn true none⟩, ⟨"cache", "cache", .dependsOn true none⟩,
      ⟨"log", "bus", .dependsOn true none⟩, ⟨"bus", "log", .dependsOn false none⟩,
      ⟨"bus", "vault", .dependsOn true none⟩]
  nodup_ids := by decide

theorem compute_names_unplaced_knotted :
    ¬knotted.Acyclic ∧ ∃ stuck description fault,
      description = "cannot determine deployment order (unresolved: " ++
        String.intercalate ", " stuck ++ ")" ∧
      compute knotted = .error fault ∧ fault = .cyclicDependency description [] ∧
      (∀ id, id ∈ stuck ↔ id ∈ knotted.ids ∧ knotted.LeadsToCycle id) ∧
      stuck.Nodup ∧ stuck.Pairwise (fun a b => precedes a b = true) ∧
      description = "cannot determine deployment order (unresolved: api, cache, db, web)" := by
  have hcyclic : ¬knotted.Acyclic := fun h =>
    h "cache" (.single ⟨by decide, by decide, none, by decide⟩)
  obtain ⟨stuck, description, fault, hdescription, hcompute, hfault, -, -, hmem, hnodup,
    hascending⟩ := compute_names_unplaced knotted hcyclic
  refine ⟨hcyclic, stuck, description, fault, hdescription, hcompute, hfault, hmem, hnodup,
    hascending, ?_⟩
  have hvalue : compute knotted = .error (.cyclicDependency
      "cannot determine deployment order (unresolved: api, cache, db, web)" []) := by
    decide +kernel
  have hsame := hfault.symm.trans (Except.error.inj (hcompute.symm.trans hvalue))
  exact (Fault.cyclicDependency.inj hsame).1

end Schedule
end Rollout
