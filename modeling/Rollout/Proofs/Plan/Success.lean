import Rollout.Plan.Build
import Rollout.Proofs.Schedule.StartOrder
import Rollout.Proofs.Validation.Cycle
import Rollout.Proofs.Validation.Verdict

/-
Planning fails only where validation does, and with the same fault. The search for cycles
and the sweep agree on every topology, so once a topology is validated its order exists,
and every id of the order has a node.
-/
namespace Rollout

open Validation

theorem cycleFault_eq_none_iff_compute {t : Topology} :
    cycleFault t = none ↔ ∃ order, Schedule.compute t = .ok order := by
  rw [cycleFault_eq_none_iff]
  constructor
  · exact fun h => ⟨_, Schedule.compute_eq_ok_of_acyclic h⟩
  · rintro ⟨order, horder⟩
    exact Schedule.acyclic_of_compute_eq_ok horder

theorem vertex?_isSome_of_compute {t : Topology} {order : List String}
    (h : Schedule.compute t = .ok order) : ∀ id ∈ order, (t.vertex? id).isSome = true :=
  fun id hid => Topology.vertex?_isSome_iff.2
    (((Schedule.isStartOrder_of_compute_eq_ok h).mem_iff id).1 hid)

theorem result_plan_of_validate_error {p : Policy} {t : Topology} {fault : Fault}
    (h : (validate p t).result = .error fault) : (t.plan p).result = .error fault := by
  simp only [Topology.plan, h]

/-- A validated topology is planned along its start order. -/
theorem result_plan_of_validate_ok {p : Policy} {t : Topology}
    (h : (validate p t).result = .ok ()) :
    ∃ order, Schedule.compute t = .ok order ∧ (t.plan p).result = .ok (t.planOf order) := by
  obtain ⟨order, horder⟩ := cycleFault_eq_none_iff_compute.1 (cycleFault_eq_none_of_validate h)
  refine ⟨order, horder, ?_⟩
  simp only [Topology.plan, h, horder]

theorem result_plan_eq_error_iff {p : Policy} {t : Topology} {fault : Fault} :
    (t.plan p).result = .error fault ↔ (validate p t).result = .error fault := by
  refine ⟨fun h => ?_, result_plan_of_validate_error⟩
  cases hverdict : (validate p t).result with
  | error other =>
    have hplan := result_plan_of_validate_error hverdict
    rw [Except.error.inj (h.symm.trans hplan)]
  | ok _ =>
    obtain ⟨order, -, hplan⟩ := result_plan_of_validate_ok hverdict
    cases h.symm.trans hplan

theorem exists_result_plan_iff {p : Policy} {t : Topology} :
    (∃ plan, (t.plan p).result = .ok plan) ↔ (validate p t).result = .ok () := by
  constructor
  · rintro ⟨plan, hplan⟩
    cases hverdict : (validate p t).result with
    | error fault => cases (result_plan_of_validate_error hverdict).symm.trans hplan
    | ok _ => rfl
  · intro h
    obtain ⟨order, -, hplan⟩ := result_plan_of_validate_ok h
    exact ⟨_, hplan⟩

/-- Every check but the last is passed by what is planned, whatever the policy. -/
theorem fault?_eq_none_of_plan {p : Policy} {t : Topology} {plan : Plan}
    (h : (t.plan p).result = .ok plan) {c : Check} (hc : c ≠ .orphans) : c.fault? p t = none :=
  fault?_eq_none_of_validate (exists_result_plan_iff.1 ⟨plan, h⟩) (mem_checks_of_ne_orphans hc)

/-- Planning gives a plan or the fault of the validation, never another one. -/
theorem plan_agrees_with_validate (p : Policy) (t : Topology) :
    (∀ fault, (t.plan p).result = .error fault ↔ (validate p t).result = .error fault) ∧
      ((∃ plan, (t.plan p).result = .ok plan) ↔ (validate p t).result = .ok ()) ∧
      (cycleFault t = none ↔ ∃ order, Schedule.compute t = .ok order) ∧
      ((validate p t).result = .ok () →
        ∃ order, Schedule.compute t = .ok order ∧
          (∀ id ∈ order, (t.vertex? id).isSome = true) ∧
          (t.plan p).result = .ok (t.planOf order)) := by
  refine ⟨fun _ => result_plan_eq_error_iff, exists_result_plan_iff,
    cycleFault_eq_none_iff_compute, fun h => ?_⟩
  obtain ⟨order, horder, hplan⟩ := result_plan_of_validate_ok h
  exact ⟨order, horder, vertex?_isSome_of_compute horder, hplan⟩

end Rollout
