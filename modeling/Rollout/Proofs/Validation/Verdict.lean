import Rollout.Validation.Verdict

/-
The verdict is that of the first check that finds a fault: the checks before it have
found none, and those after it do not matter.
-/
namespace Rollout
namespace Validation

theorem firstFault_eq_none_iff {p : Policy} {t : Topology} :
    firstFault p t = none ↔ ∀ c ∈ p.checks, c.fault? p t = none := by
  simp only [firstFault, List.findSome?_eq_none_iff, Option.map_eq_none_iff]

theorem firstFault_eq_some_iff {p : Policy} {t : Topology} {c : Check} {fault : Fault} :
    firstFault p t = some (c, fault) ↔
      ∃ before after, p.checks = before ++ c :: after ∧ c.fault? p t = some fault ∧
        ∀ b ∈ before, b.fault? p t = none := by
  simp only [firstFault, List.findSome?_eq_some_iff, Option.map_eq_some_iff, Prod.mk.injEq,
    Option.map_eq_none_iff]
  constructor
  · rintro ⟨before, c', after, heq, ⟨f, hf, rfl, rfl⟩, hbefore⟩
    exact ⟨before, after, heq, hf, hbefore⟩
  · rintro ⟨before, after, heq, hf, hbefore⟩
    exact ⟨before, c, after, heq, ⟨fault, hf, rfl, rfl⟩, hbefore⟩

theorem result_validate_eq_ok_iff {p : Policy} {t : Topology} :
    (validate p t).result = .ok () ↔ firstFault p t = none := by
  cases h : firstFault p t <;> simp [validate, h]

theorem events_validate_of_ok {p : Policy} {t : Topology} (h : (validate p t).result = .ok ()) :
    (validate p t).events = [.validated t.size p.checks.length] := by
  rw [validate, result_validate_eq_ok_iff.1 h]

theorem result_validate_eq_error_iff {p : Policy} {t : Topology} {fault : Fault} :
    (validate p t).result = .error fault ↔ ∃ c, firstFault p t = some (c, fault) := by
  cases h : firstFault p t with
  | none => simp [validate, h]
  | some found =>
    obtain ⟨c, f⟩ := found
    simp [validate, h]

/-- A fault of the search for cycles is reported whatever else is wrong. -/
theorem result_validate_of_cycleFault {p : Policy} {t : Topology} {fault : Fault}
    (h : cycleFault t = some fault) : (validate p t).result = .error fault := by
  refine result_validate_eq_error_iff.2 ⟨.cycles, firstFault_eq_some_iff.2 ⟨[], _, rfl, h, ?_⟩⟩
  exact fun b hb => absurd hb List.not_mem_nil

/-- A missing target is reported next, whatever else is wrong. -/
theorem result_validate_of_targetFault {p : Policy} {t : Topology} {fault : Fault}
    (hcycle : cycleFault t = none) (h : targetFault t = some fault) :
    (validate p t).result = .error fault := by
  refine result_validate_eq_error_iff.2
    ⟨.dependencies, firstFault_eq_some_iff.2 ⟨[.cycles], _, rfl, h, ?_⟩⟩
  intro b hb
  rw [List.mem_singleton.1 hb]
  exact hcycle

/-- A topology that passes has no fault that a check of the policy finds. -/
theorem fault?_eq_none_of_validate {p : Policy} {t : Topology} {c : Check}
    (h : (validate p t).result = .ok ()) (hc : c ∈ p.checks) : c.fault? p t = none :=
  firstFault_eq_none_iff.1 (result_validate_eq_ok_iff.1 h) c hc

/-- The checks up to the last are made whatever the policy. -/
theorem mem_checks_of_ne_orphans {p : Policy} {c : Check} (h : c ≠ .orphans) : c ∈ p.checks := by
  refine List.mem_append_left _ ?_
  cases c with
  | orphans => exact absurd rfl h
  | _ => decide

theorem cycleFault_eq_none_of_validate {p : Policy} {t : Topology}
    (h : (validate p t).result = .ok ()) : cycleFault t = none := by
  have hcycles : Check.cycles ∈ p.checks := mem_checks_of_ne_orphans (by decide)
  exact fault?_eq_none_of_validate h hcycles

end Validation
end Rollout
