import Rollout.Proofs.CommandLine.Arguments
import Rollout.Proofs.CommandLine.Run
import Rollout.Proofs.Plan.Entries
import Rollout.Proofs.Validation.Criteria
import Rollout.Source.FileTree

/-
The modes of the command line next to each other. They share all stages up to the decoded
topology. From there a plan is refused exactly where the validation refuses, and an order
only where there is a cycle, which is what the validation looks for first.
-/
namespace Rollout

open Validation

/-! ## Cycles -/

theorem Fault.text_code_eq_cycle_iff {fault : Fault} :
    fault.code.text = "E-DEPLOY-CYCLE" ↔ fault.kind = .cyclicDependency := by
  cases fault <;> simp [Fault.code, Fault.kind, FaultKind.code, Code.text]

/-- A fault with the code of a cycle comes from the search for cycles. -/
theorem cycleFault_of_validate_error {p : Policy} {t : Topology} {fault : Fault}
    (h : (validate p t).result = .error fault) (hcode : fault.code.text = "E-DEPLOY-CYCLE") :
    cycleFault t = some fault := by
  obtain ⟨c, hfirst⟩ := result_validate_eq_error_iff.1 h
  obtain ⟨_, _, _, hfault, -⟩ := firstFault_eq_some_iff.1 hfirst
  have hkind := (Check.kind_of_fault? hfault).symm.trans (Fault.text_code_eq_cycle_iff.1 hcode)
  cases c with
  | cycles => exact hfault
  | _ => cases hkind

/-- The order cannot be computed exactly where the validation finds a cycle. -/
theorem exists_compute_error_iff {p : Policy} {t : Topology} :
    (∃ fault, Schedule.compute t = .error fault) ↔
      ∃ fault, (validate p t).result = .error fault ∧ fault.code.text = "E-DEPLOY-CYCLE" := by
  constructor
  · rintro ⟨unordered, hunordered⟩
    cases hcycle : cycleFault t with
    | none =>
      obtain ⟨order, horder⟩ := cycleFault_eq_none_iff_compute.1 hcycle
      cases hunordered.symm.trans horder
    | some fault =>
      refine ⟨fault, result_validate_of_cycleFault hcycle, Fault.text_code_eq_cycle_iff.2 ?_⟩
      exact Check.kind_of_fault? (p := p) (c := .cycles) hcycle
  · rintro ⟨fault, hfault, hcode⟩
    cases hcompute : Schedule.compute t with
    | error unordered => exact ⟨unordered, rfl⟩
    | ok order =>
      have hnone := cycleFault_eq_none_iff_compute.2 ⟨order, hcompute⟩
      cases hnone.symm.trans (cycleFault_of_validate_error hfault hcode)

theorem events_plan_of_validate_error {p : Policy} {t : Topology} {fault : Fault}
    (h : (validate p t).result = .error fault) : (t.plan p).events = (validate p t).events := by
  simp only [Topology.plan, h]

namespace CommandLine

/-! ## Arguments -/

namespace Arguments

/-- The same arguments for another mode. -/
def inMode (a : Arguments) (mode : Mode) : Arguments := { a with mode }

@[simp] theorem onInvalid_inMode (a : Arguments) (mode : Mode) :
    (a.inMode mode).onInvalid = a.onInvalid := rfl

@[simp] theorem file_inMode (a : Arguments) (mode : Mode) : (a.inMode mode).file = a.file := rfl

theorem parse_append {argv : List String} {a : Arguments} (more : List String)
    (h : parse argv = .ok a) : parse (argv ++ more) = a.withOptions more := by
  cases argv with
  | nil => cases h
  | cons file options =>
    rw [parse] at h
    split at h
    · cases h
    · rw [List.cons_append, parse, if_neg ‹_›, withOptions_append more h]

/-- A mode is asked for by one more option. -/
theorem parse_append_orderOnly {argv : List String} {a : Arguments} (h : parse argv = .ok a) :
    parse (argv ++ ["--order-only"]) = .ok (a.inMode .order) := by
  rw [parse_append _ h]
  rfl

theorem parse_append_validateOnly {argv : List String} {a : Arguments} (h : parse argv = .ok a) :
    parse (argv ++ ["--validate-only"]) = .ok (a.inMode .validate) := by
  rw [parse_append _ h]
  rfl

end Arguments

/-! ## Stages -/

variable {read : String → Except Source.ReadFault Source.Bytes} {env : Settings.Environment}
  {argv planArgs validateArgs orderArgs : List String} {a : Arguments} {mode : Mode}
  {raw : RawTopology} {d : Decoded} {p : Policy} {t : Topology}

theorem Decodes.inMode (hparse : Arguments.parse argv = .ok (a.inMode mode))
    (hload : Source.load read a.file = .ok raw) (hdecode : (raw.decode a.onInvalid).result = .ok d) :
    Decodes read argv (a.inMode mode) raw d := ⟨hparse, hload, hdecode⟩

/-- The file is not loaded or its topology not decoded, whatever is asked for. -/
def FailsEarly (read : String → Except Source.ReadFault Source.Bytes) (a : Arguments) : Prop :=
  (∃ e, Source.load read a.file = .error e) ∨
    ∃ raw fault, Source.load read a.file = .ok raw ∧ (raw.decode a.onInvalid).result = .error fault

theorem failsEarly_or_decodes (read : String → Except Source.ReadFault Source.Bytes)
    (a : Arguments) : FailsEarly read a ∨
      ∃ raw d, Source.load read a.file = .ok raw ∧ (raw.decode a.onInvalid).result = .ok d := by
  cases hload : Source.load read a.file with
  | error e => exact .inl (.inl ⟨e, hload⟩)
  | ok raw =>
    cases hdecode : (raw.decode a.onInvalid).result with
    | error fault => exact .inl (.inr ⟨raw, fault, hload, hdecode⟩)
    | ok d => exact .inr ⟨raw, d, rfl, hdecode⟩

theorem run_of_failsEarly (env : Settings.Environment) (h : FailsEarly read a) :
    ∃ f, ∀ argv mode, Arguments.parse argv = .ok (a.inMode mode) →
      run read env argv = .failed f := by
  rcases h with ⟨e, hload⟩ | ⟨raw, fault, hload, hdecode⟩
  · exact ⟨_, fun argv mode hparse => run_of_load_error hparse hload⟩
  · exact ⟨_, fun argv mode hparse => run_of_decode_error hparse hload hdecode⟩

/-- The validation refuses and so does the plan, with the same notices. -/
theorem run_plan_of_validate_error {fault : Fault}
    (hplan : Decodes read planArgs (a.inMode .plan) raw d)
    (hvalidate : Decodes read validateArgs (a.inMode .validate) raw d)
    (hfault : (validate (Settings.environmentPolicy env) d.topology).result = .error fault) :
    (run read env planArgs).status = 1 ∧ run read env planArgs = run read env validateArgs := by
  have hevents : Decodes.events env (a.inMode .plan) d = Decodes.events env (a.inMode .validate) d :=
    congrArg (d.events ++ ·) (events_plan_of_validate_error hfault)
  rw [run_of_refuses hplan (.invalid (by simp [Arguments.inMode]) hfault),
    run_of_refuses hvalidate (.invalid (by simp [Arguments.inMode]) hfault), hevents]
  exact ⟨rfl, rfl⟩

/-- The failure among the notices of a plan is that of the validation. -/
theorem failure_mem_notices_run_plan_iff {fault : Fault}
    (hplan : Decodes read planArgs (a.inMode .plan) raw d) :
    .failure (.topology fault) ∈ (run read env planArgs).notices ↔
      (validate (Settings.environmentPolicy env) d.topology).result = .error fault := by
  have hentries (events : List Log.Event) :
      .failure (.topology fault) ∉ entries env events := by simp [entries]
  cases hverdict : (validate (Settings.environmentPolicy env) d.topology).result with
  | error other =>
    rw [run_of_refuses hplan (.invalid (by simp [Arguments.inMode]) hverdict)]
    simp [hentries, eq_comm]
  | ok _ =>
    obtain ⟨order, -, hresult⟩ := result_plan_of_validate_ok hverdict
    rw [run_of_answers hplan (.planned rfl hresult)]
    simp [hentries]

/-- The validation accepts, and the plan lists the nodes along the order that is shown. -/
theorem run_plan_of_validate_ok (hplan : Decodes read planArgs (a.inMode .plan) raw d)
    (hvalidate : Decodes read validateArgs (a.inMode .validate) raw d)
    (horderArgs : Decodes read orderArgs (a.inMode .order) raw d)
    (hok : (validate (Settings.environmentPolicy env) d.topology).result = .ok ()) :
    (run read env planArgs).status = 0 ∧ (run read env validateArgs).status = 0 ∧
      (run read env orderArgs).status = 0 ∧
      ∃ order plan, Schedule.compute d.topology = .ok order ∧
        (d.topology.plan (Settings.environmentPolicy env)).result = .ok plan ∧
        (run read env orderArgs).output = [orderAnswer a order ++ "\n"] ∧
        (run read env planArgs).output = [planAnswer a plan ++ "\n"] := by
  obtain ⟨order, horder, hresult⟩ := result_plan_of_validate_ok hok
  rw [run_of_answers hplan (.planned rfl hresult), run_of_answers hvalidate (.deployable rfl hok),
    run_of_answers horderArgs (.ordered rfl horder)]
  exact ⟨rfl, rfl, rfl, order, _, horder, hresult, rfl, rfl⟩

theorem status_run_order_eq_one_iff (h : Decodes read orderArgs (a.inMode .order) raw d) :
    (run read env orderArgs).status = 1 ↔ ∃ fault, Schedule.compute d.topology = .error fault := by
  cases hcompute : Schedule.compute d.topology with
  | error fault => simp [run_of_refuses h (.unordered rfl hcompute)]
  | ok order => simp [run_of_answers h (.ordered rfl hcompute)]

/-- Runs that differ in their mode only. A plan succeeds exactly where the validation does,
and both fail with the same notices; the order fails exactly where the stages before it do or
the plan has a cycle; and where there is a plan, what is put out for the order says the ids of
the nodes in the order along which the collections go of the plan that is put out. Texts are
Unicode: a surrogate that an escape of the file leaves alone counts as U+FFFD. -/
theorem modes_agree (hplan : Arguments.parse planArgs = .ok (a.inMode .plan))
    (hvalidate : Arguments.parse validateArgs = .ok (a.inMode .validate))
    (horder : Arguments.parse orderArgs = .ok (a.inMode .order)) :
    ((run read env planArgs).status = 0 ↔ (run read env validateArgs).status = 0) ∧
      ((run read env planArgs).status = 1 →
        (run read env planArgs).notices = (run read env validateArgs).notices) ∧
      ((run read env orderArgs).status = 1 ↔ FailsEarly read a ∨
        ∃ fault, .failure (.topology fault) ∈ (run read env planArgs).notices ∧
          fault.code.text = "E-DEPLOY-CYCLE") ∧
      ((run read env planArgs).status = 0 →
        (run read env orderArgs).status = 0 ∧
          ∃ raw d plan order nodes shown planned,
            Decodes read planArgs (a.inMode .plan) raw d ∧
            (run read env orderArgs).output = [shown ++ "\n"] ∧ Says a shown (.order order) ∧
            (run read env planArgs).output = [planned ++ "\n"] ∧ Says a planned (.plan plan) ∧
            (d.topology.plan (Settings.environmentPolicy env)).result = .ok plan ∧
            nodes.map Vertex.id = order ∧ nodes.Perm d.topology.vertices ∧
            ∀ k, plan.collection k = (Topology.ofKind k nodes).map d.topology.entry) := by
  rcases failsEarly_or_decodes read a with hearly | ⟨raw, d, hload, hdecode⟩
  · obtain ⟨f, hf⟩ := run_of_failsEarly env hearly
    simp [hf _ _ hplan, hf _ _ hvalidate, hf _ _ horder, Run.failed, hearly]
  have hplan := Decodes.inMode hplan hload hdecode
  have hvalidate := Decodes.inMode hvalidate hload hdecode
  have horder := Decodes.inMode horder hload hdecode
  have hdecodes : ¬FailsEarly read a := by
    rintro (⟨e, herror⟩ | ⟨raw', fault, hload', herror⟩)
    · cases herror.symm.trans hload
    · obtain rfl := Except.ok.inj (hload'.symm.trans hload)
      cases herror.symm.trans hdecode
  have horderStatus : (run read env orderArgs).status = 1 ↔ FailsEarly read a ∨
      ∃ fault, .failure (.topology fault) ∈ (run read env planArgs).notices ∧
        fault.code.text = "E-DEPLOY-CYCLE" := by
    rw [status_run_order_eq_one_iff horder,
      exists_compute_error_iff (p := Settings.environmentPolicy env), or_iff_right hdecodes]
    exact exists_congr fun fault => and_congr_left fun _ =>
      (failure_mem_notices_run_plan_iff hplan).symm
  cases hverdict : (validate (Settings.environmentPolicy env) d.topology).result with
  | error fault =>
    obtain ⟨hstatus, hrun⟩ := run_plan_of_validate_error hplan hvalidate hverdict
    refine ⟨by rw [hrun], fun _ => by rw [hrun], horderStatus, fun hzero => ?_⟩
    omega
  | ok _ =>
    obtain ⟨hplanZero, hvalidateZero, horderZero, order, plan, hcompute, hresult, houtput,
      hplanned⟩ := run_plan_of_validate_ok hplan hvalidate horder hverdict
    have hlists := lists_placed_of_plan hresult hcompute
    refine ⟨by rw [hplanZero, hvalidateZero], fun hone => by omega, horderStatus, fun _ => ?_⟩
    have hlegal := legal_toJson (Source.legal_of_load hload) hdecode hresult
    exact ⟨horderZero, raw, d, plan, order, _, _, _, hplan, houtput, says_order a order, hplanned,
      says_plan a hlegal, hresult, map_id_placed_of_compute hcompute, hlists.perm,
      hlists.collections⟩

/-- Two agents, not in the order in which they start. -/
def crewText : String :=
  "\x7b\"nodes\":[\x7b\"id\":\"b\",\"data\":\x7b\"kind\":\"agent\",\"name\":\"b\"\x7d\x7d," ++
    "\x7b\"id\":\"a\",\"data\":\x7b\"kind\":\"agent\",\"name\":\"a\"\x7d\x7d]\x7d"

def crewTree : Source.FileTree :=
  .ofRelative ["work"] [("crew.json", crewText.toList.map Char.toNat)]

theorem modes_agree_crew :
    (run crewTree.read [] ["crew.json"]).status = 0 ∧
      (run crewTree.read [] ["crew.json", "--validate-only"]).status = 0 ∧
      (run crewTree.read [] ["crew.json", "--order-only"]).status = 0 ∧
      ∃ (plan : Plan) (nodes : List Vertex) (shown planned : String),
        (run crewTree.read [] ["crew.json", "--order-only"]).output = [shown ++ "\n"] ∧
        Says (.ofFile "crew.json") shown (.order (nodes.map Vertex.id)) ∧
        (run crewTree.read [] ["crew.json"]).output = [planned ++ "\n"] ∧
        Says (.ofFile "crew.json") planned (.plan plan) := by
  have hparse :
      Arguments.parse ["crew.json"] = .ok ((Arguments.ofFile "crew.json").inMode .plan) := by
    decide
  have hplan : (run crewTree.read [] ["crew.json"]).status = 0 := by decide +kernel
  obtain ⟨hvalidate, -, -, hlisted⟩ := modes_agree hparse
    (Arguments.parse_append_validateOnly hparse) (Arguments.parse_append_orderOnly hparse)
  obtain ⟨horder, raw, d, plan, _, nodes, shown, planned, -, houtput, hshown, hplanned, hsays, -,
    rfl, -⟩ := hlisted hplan
  exact ⟨hplan, hvalidate.1 hplan, horder, plan, nodes, shown, planned, houtput, hshown, hplanned,
    hsays⟩

end CommandLine
end Rollout
