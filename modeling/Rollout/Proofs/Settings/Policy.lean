import Rollout.Proofs.CommandLine.Run
import Rollout.Proofs.Validation.Conditions

/-
What a caller of the validation leaves open. Ceilings that are left open come from the
environment, as the command line has them. Whether nodes without edges are allowed does not:
left open they are allowed, while the command line asks the environment. The two part only
where such a node is the one thing that is wrong.
-/
namespace Rollout

open Validation

/-! ## The last check -/

namespace Validation

variable {p : Policy} {t : Topology} {fault : Fault}

def Policy.allowing (p : Policy) : Policy := { p with allowOrphans := true }

def Policy.forbidding (p : Policy) : Policy := { p with allowOrphans := false }

/-- Forbidding nodes without edges adds a check behind all others. -/
theorem firstFault_forbidding :
    firstFault p.forbidding t =
      (firstFault p.allowing t).or ((orphanFault t).map fun f => (.orphans, f)) := by
  have hsame : ∀ c : Check, c.fault? p.forbidding t = c.fault? p.allowing t := by
    intro c
    cases c <;> rfl
  have hchecks : p.forbidding.checks = p.allowing.checks ++ [.orphans] := rfl
  simp only [firstFault, hsame, hchecks, List.findSome?_append, List.findSome?_singleton]
  rfl

theorem result_validate_forbidding_of_error (h : (validate p.allowing t).result = .error fault) :
    (validate p.forbidding t).result = .error fault := by
  obtain ⟨c, hfirst⟩ := result_validate_eq_error_iff.1 h
  refine result_validate_eq_error_iff.2 ⟨c, ?_⟩
  rw [firstFault_forbidding, hfirst, Option.some_or]

theorem result_validate_forbidding_of_ok (h : (validate p.allowing t).result = .ok ()) :
    (validate p.forbidding t).result =
      match orphanFault t with
      | some fault => .error fault
      | none => .ok () := by
  have hfirst := firstFault_forbidding (p := p) (t := t)
  rw [result_validate_eq_ok_iff.1 h, Option.none_or] at hfirst
  cases horphan : orphanFault t with
  | some fault =>
    rw [horphan] at hfirst
    exact result_validate_eq_error_iff.2 ⟨_, hfirst⟩
  | none =>
    rw [horphan] at hfirst
    exact result_validate_eq_ok_iff.2 hfirst

theorem not_attached_of_orphanFault (h : orphanFault t = some fault) :
    2 ≤ t.size ∧ ¬t.Attached := by
  obtain ⟨hsize, before, v, after, hvertices, -, hv, -⟩ := orphanFault_eq_some_iff.1 h
  refine ⟨hsize, fun hattached => hv (hattached v ?_)⟩
  rw [hvertices]
  exact List.mem_append_right _ List.mem_cons_self

end Validation

/-! ## Open and resolved policies -/

namespace Settings

/-- The policy of a caller who leaves everything open. -/
def openPolicy (env : Environment) : Policy := policy env none none

/-- The policy of a caller who gives what the environment says. -/
def resolvedPolicy (env : Environment) : Policy :=
  policy env (some (limits env .none)) (some (allowOrphans env))

variable {env : Environment} {t : Topology}

theorem resolvedPolicy_eq (env : Environment) : resolvedPolicy env = environmentPolicy env := rfl

theorem resolvedPolicy_of_allowed (h : allowOrphans env = true) :
    resolvedPolicy env = openPolicy env := by
  rw [resolvedPolicy, h]
  rfl

theorem resolvedPolicy_of_forbidden (h : allowOrphans env = false) :
    resolvedPolicy env = (openPolicy env).forbidding := by
  rw [resolvedPolicy, h]
  rfl

/-- The environment forbids a node without edges, and nothing else is wrong. -/
structure OnlyDetached (env : Environment) (t : Topology) : Prop where
  forbidden : allowOrphans env = false
  accepted : (validate (openPolicy env) t).result = .ok ()
  two_le_size : 2 ≤ t.size
  detached : ¬t.Attached

/-- The first node without an edge is what a resolved policy reports. -/
theorem OnlyDetached.result_validate (h : OnlyDetached env t) :
    ∃ before v after, t.vertices = before ++ v :: after ∧
      (¬∃ l ∈ t.links, l.source = v.id ∨ l.target = v.id) ∧
      (∀ w ∈ before, ∃ l ∈ t.links, l.source = w.id ∨ l.target = w.id) ∧
      (validate (resolvedPolicy env) t).result = .error (.orphanedNode v.id) := by
  cases horphan : orphanFault t with
  | none => exact absurd (orphanFault_eq_none_iff.1 horphan h.two_le_size) h.detached
  | some fault =>
    obtain ⟨-, before, v, after, hvertices, rfl, hv, hbefore⟩ := orphanFault_eq_some_iff.1 horphan
    refine ⟨before, v, after, hvertices, hv, hbefore, ?_⟩
    rw [resolvedPolicy_of_forbidden h.forbidden,
      result_validate_forbidding_of_ok (p := openPolicy env) h.accepted, horphan]

theorem result_validate_resolved_of_not_onlyDetached (h : ¬OnlyDetached env t) :
    (validate (openPolicy env) t).result = (validate (resolvedPolicy env) t).result := by
  cases hallow : allowOrphans env with
  | true => rw [resolvedPolicy_of_allowed hallow]
  | false =>
    rw [resolvedPolicy_of_forbidden hallow]
    cases hopen : (validate (openPolicy env) t).result with
    | error fault =>
      exact (result_validate_forbidding_of_error (p := openPolicy env) hopen).symm
    | ok _ =>
      rw [result_validate_forbidding_of_ok (p := openPolicy env) hopen]
      cases horphan : orphanFault t with
      | none => rfl
      | some fault =>
        obtain ⟨hsize, hdetached⟩ := not_attached_of_orphanFault horphan
        exact absurd ⟨hallow, hopen, hsize, hdetached⟩ h

end Settings

namespace CommandLine

theorem status_run_eq_zero_iff_validate
    {read : String → Except Source.ReadFault Source.Bytes} {env : Settings.Environment}
    {argv : List String} {a : Arguments} {raw : RawTopology} {d : Decoded}
    (h : Decodes read argv a raw d) (hmode : a.mode ≠ .order) :
    (run read env argv).status = 0 ↔
      (validate (Settings.resolvedPolicy env) d.topology).result = .ok () := by
  rw [Settings.resolvedPolicy_eq]
  cases hverdict : (validate (Settings.environmentPolicy env) d.topology).result with
  | error fault => simp [run_of_refuses h (.invalid hmode hverdict)]
  | ok _ =>
    cases hcase : a.mode with
    | validate => simp [run_of_answers h (.deployable hcase hverdict)]
    | order => exact absurd hcase hmode
    | plan =>
      obtain ⟨order, -, hresult⟩ := result_plan_of_validate_ok hverdict
      simp [run_of_answers h (.planned hcase hresult)]

end CommandLine

namespace Settings

/-- A caller who leaves the policy open gets the verdict of one who resolves it from the
environment, as the command line does, unless the environment forbids a node without edges
and nothing else is wrong: then the former accepts what the latter refuses. The command line
takes its files as texts of Unicode characters, U+FFFD for a surrogate that stands alone. -/
theorem open_verdict_exact (env : Environment) (t : Topology) :
    (validate (openPolicy env) t =
        validate (policy env (some (limits env .none)) (some true)) t) ∧
      ((validate (openPolicy env) t).result = (validate (resolvedPolicy env) t).result ↔
        ¬OnlyDetached env t) ∧
      (OnlyDetached env t → ∃ before v after, t.vertices = before ++ v :: after ∧
        (¬∃ l ∈ t.links, l.source = v.id ∨ l.target = v.id) ∧
        (∀ w ∈ before, ∃ l ∈ t.links, l.source = w.id ∨ l.target = w.id) ∧
        (validate (resolvedPolicy env) t).result = .error (.orphanedNode v.id)) ∧
      (∀ fault, (validate (openPolicy env) t).result = .error fault →
        (validate (resolvedPolicy env) t).result = .error fault) ∧
      ((validate (resolvedPolicy env) t).result = .ok () →
        (validate (openPolicy env) t).result = .ok ()) ∧
      ∀ read argv a raw d, CommandLine.Decodes read argv a raw d → d.topology = t →
        a.mode ≠ .order → ((CommandLine.run read env argv).status = 0 ↔
          (validate (resolvedPolicy env) t).result = .ok ()) := by
  refine ⟨rfl, ⟨fun hsame honly => ?_, result_validate_resolved_of_not_onlyDetached⟩,
    OnlyDetached.result_validate, fun fault hopen => ?_, fun hresolved => ?_, ?_⟩
  · obtain ⟨_, _, _, -, -, -, hresolved⟩ := honly.result_validate
    cases (honly.accepted.symm.trans hsame).trans hresolved
  · have honly : ¬OnlyDetached env t := by
      intro honly
      cases hopen.symm.trans honly.accepted
    rw [← result_validate_resolved_of_not_onlyDetached honly, hopen]
  · by_cases honly : OnlyDetached env t
    · exact honly.accepted
    · rw [result_validate_resolved_of_not_onlyDetached honly, hresolved]
  · rintro read argv a raw d hdecodes rfl hmode
    exact CommandLine.status_run_eq_zero_iff_validate hdecodes hmode

/-- Two nodes and no edge. -/
def scattered : Topology where
  vertices :=
    [⟨"api", .service ⟨"api", "serve", [], [], none, none, .empty⟩⟩,
      ⟨"db", .database ⟨"orders", .postgres, "16", true, none, .empty⟩⟩]
  links := []
  nodup_ids := by decide

/-- The environment is not asked where the caller says nothing. -/
theorem open_verdict_of_scattered :
    (validate (openPolicy [("TOPOLOGY_ALLOW_ORPHANED_NODES", "false")]) scattered).result = .ok () ∧
      (validate (resolvedPolicy [("TOPOLOGY_ALLOW_ORPHANED_NODES", "false")]) scattered).result =
        .error (.orphanedNode "api") := by
  decide +kernel

end Settings
end Rollout
