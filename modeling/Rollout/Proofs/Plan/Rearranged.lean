import Rollout.Proofs.Plan.Entries
import Rollout.Proofs.Validation.Rearranged

/-
Plans of rearranged topologies. They have one start order, and their plans list the same
nodes in it. Totals are taken in exact arithmetic here: a rounded sum depends on the order
of its terms, so near a ceiling two arrangements could be judged differently.
-/
namespace Rollout

open Rollout.Topology Rollout.Validation

/-- A policy whose totals are summed without rounding. -/
def Validation.exactPolicy (limits : Limits) (allowOrphans : Bool) : Policy :=
  { limits, allowOrphans, add := Number.exactSum }

instance (limits : Limits) (allowOrphans : Bool) :
    RightCommutative (exactPolicy limits allowOrphans).add :=
  inferInstanceAs (RightCommutative Number.exactSum)

namespace Topology.Rearranged

variable {t t' : Topology}

theorem compute_eq (h : t.Rearranged t') : Schedule.compute t = Schedule.compute t' :=
  h.sameGraph.compute_eq

theorem placed_eq (h : t.Rearranged t') (order : List String) :
    t.placed order = t'.placed order := by
  rw [placed, placed, h.vertex?_eq]

end Topology.Rearranged

/-- Rearranging a topology changes neither the verdict and the sort of fault nor, where
the verdict is favourable, the start order and the sequence of nodes in each collection. -/
theorem same_outcome_of_rearranged {t t' : Topology} (h : t.Rearranged t') (limits : Limits)
    (allowOrphans : Bool) :
    (validate (exactPolicy limits allowOrphans) t).result.mapError Fault.kind =
        (validate (exactPolicy limits allowOrphans) t').result.mapError Fault.kind ∧
      ((validate (exactPolicy limits allowOrphans) t).result = .ok () →
        ∃ order nodes, Schedule.compute t = .ok order ∧ Schedule.compute t' = .ok order ∧
          nodes.map Vertex.id = order ∧
          (∃ plan, (t.plan (exactPolicy limits allowOrphans)).result = .ok plan) ∧
          (∃ plan, (t'.plan (exactPolicy limits allowOrphans)).result = .ok plan) ∧
          (∀ p plan, (t.plan p).result = .ok plan → plan.Lists t nodes) ∧
          ∀ p plan, (t'.plan p).result = .ok plan → plan.Lists t' nodes) := by
  refine ⟨mapError_kind_validate_congr h, fun hverdict => ?_⟩
  have hverdict' := (result_validate_eq_ok_congr h).1 hverdict
  obtain ⟨order, horder, hplan⟩ := result_plan_of_validate_ok hverdict
  have horder' : Schedule.compute t' = .ok order := h.compute_eq ▸ horder
  refine ⟨order, t.placed order, horder, horder', map_id_placed_of_compute horder, ⟨_, hplan⟩,
    exists_result_plan_iff.2 hverdict', fun p plan hp => lists_placed_of_plan hp horder,
    fun p plan hp => ?_⟩
  rw [h.placed_eq]
  exact lists_placed_of_plan hp horder'

/-- The stack with its nodes and edges given from the last to the first. -/
def reversedStack : Topology where
  vertices := stack.vertices.reverse
  links := stack.links.reverse
  nodup_ids := by decide

theorem rearranged_reversedStack : stack.Rearranged reversedStack :=
  ⟨stack.vertices.reverse_perm.symm, stack.links.reverse_perm.symm⟩

theorem same_outcome_of_reversedStack :
    stack.Rearranged reversedStack ∧ ∃ plan plan' nodes,
      (stack.plan stackPolicy).result = .ok plan ∧
      (reversedStack.plan stackPolicy).result = .ok plan' ∧
      nodes.map Vertex.id = stackOrder ∧ plan.Lists stack nodes ∧
      plan'.Lists reversedStack nodes := by
  refine ⟨rearranged_reversedStack, ?_⟩
  have hverdict : (validate (exactPolicy stackPolicy.limits false) stack).result = .ok () := by
    decide +kernel
  obtain ⟨-, hok⟩ := same_outcome_of_rearranged rearranged_reversedStack stackPolicy.limits false
  obtain ⟨order, nodes, horder, -, hids, -, -, hlists, hlists'⟩ := hok hverdict
  obtain rfl := Except.ok.inj (horder.symm.trans compute_stack)
  have hplan' : (reversedStack.plan stackPolicy).result = .ok (reversedStack.planOf stackOrder) := by
    decide +kernel
  exact ⟨_, _, nodes, result_plan_stack, hplan', hids, hlists _ _ result_plan_stack,
    hlists' _ _ hplan'⟩

end Rollout
