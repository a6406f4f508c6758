import Rollout.Proofs.CommandLine.Answers
import Rollout.Proofs.Log.Line
import Rollout.Proofs.Plan.Success

/-
How a run ends. The arguments are read, the file is loaded, its topology is decoded, and
what is asked for is done: each of these stages may fail, the first one that does ends the
run, and nothing has been put out by then. There is one way to succeed for every mode.
-/
namespace Rollout
namespace CommandLine

open Validation

/-- What happens to a record that cannot be read. -/
def Arguments.onInvalid (a : Arguments) : OnInvalid := if a.strict then .reject else .skip

/-- What a run wrote to standard error, piece by piece. -/
def Run.errors (time : String) (r : Run) : List String := r.notices.map (Notice.text time)

/-! ## The work on a topology -/

/-- The answer to what is asked for. -/
inductive Answers (a : Arguments) (p : Policy) (t : Topology) : Answer → Prop
  | deployable : a.mode = .validate → (validate p t).result = .ok () → Answers a p t .deployable
  | ordered {order : List String} : a.mode = .order → Schedule.compute t = .ok order →
      Answers a p t (.order order)
  | planned {plan : Plan} : a.mode = .plan → (t.plan p).result = .ok plan →
      Answers a p t (.plan plan)

/-- The fault for which there is no answer. An order is only refused by the sweep. -/
inductive Refuses (a : Arguments) (p : Policy) (t : Topology) : Fault → Prop
  | invalid {fault : Fault} : a.mode ≠ .order → (validate p t).result = .error fault →
      Refuses a p t fault
  | unordered {fault : Fault} : a.mode = .order → Schedule.compute t = .error fault →
      Refuses a p t fault

variable {a : Arguments} {p : Policy} {t : Topology} {answer : Answer} {text : String}
  {fault : Fault}

theorem map_result_eq_ok_iff {α : Type} {r : Except Fault α} {f : α → String} :
    r.map f = .ok text ↔ ∃ x, r = .ok x ∧ f x = text := by
  cases r <;> simp [Except.map]

theorem map_result_eq_error_iff {α : Type} {r : Except Fault α} {f : α → String} :
    r.map f = .error fault ↔ r = .error fault := by
  cases r <;> simp [Except.map]

theorem result_perform_eq_ok_iff :
    (perform a p t).result = .ok text ↔ ∃ answer, Answers a p t answer ∧ answer.text a = text := by
  constructor
  · intro h
    cases hmode : a.mode with
    | validate =>
      simp only [perform, hmode, Outcome.map] at h
      obtain ⟨_, hvalid, rfl⟩ := map_result_eq_ok_iff.1 h
      exact ⟨_, .deployable hmode hvalid, rfl⟩
    | order =>
      simp only [perform, hmode] at h
      obtain ⟨order, horder, rfl⟩ := map_result_eq_ok_iff.1 h
      exact ⟨_, .ordered hmode horder, rfl⟩
    | plan =>
      simp only [perform, hmode, Outcome.map] at h
      obtain ⟨plan, hplan, rfl⟩ := map_result_eq_ok_iff.1 h
      exact ⟨_, .planned hmode hplan, rfl⟩
  · rintro ⟨_, ⟨hmode, hvalid⟩ | ⟨hmode, horder⟩ | ⟨hmode, hplan⟩, rfl⟩
    · simp only [perform, hmode, Outcome.map, hvalid, Except.map, Answer.text]
    · simp only [perform, hmode, horder, Except.map, Answer.text]
    · simp only [perform, hmode, Outcome.map, hplan, Except.map, Answer.text]

theorem result_perform_eq_error_iff :
    (perform a p t).result = .error fault ↔ Refuses a p t fault := by
  constructor
  · intro h
    cases hmode : a.mode with
    | validate =>
      simp only [perform, hmode, Outcome.map] at h
      exact .invalid (by simp [hmode]) (map_result_eq_error_iff.1 h)
    | order =>
      simp only [perform, hmode] at h
      exact .unordered hmode (map_result_eq_error_iff.1 h)
    | plan =>
      simp only [perform, hmode, Outcome.map] at h
      exact .invalid (by simp [hmode]) (result_plan_eq_error_iff.1 (map_result_eq_error_iff.1 h))
  · rintro (⟨hmode, hinvalid⟩ | ⟨hmode, horder⟩)
    · cases hcase : a.mode with
      | validate => simp only [perform, hcase, Outcome.map, hinvalid, Except.map]
      | order => exact absurd hcase hmode
      | plan =>
        simp only [perform, hcase, Outcome.map, result_plan_of_validate_error hinvalid, Except.map]
    · simp only [perform, hmode, horder, Except.map]

/-! ## Stages of a run -/

variable {read : String → Except Source.ReadFault Source.Bytes} {env : Settings.Environment}
  {argv : List String} {raw : RawTopology} {d : Decoded}

/-- The arguments are read, the file is loaded and its topology is decoded. -/
structure Decodes (read : String → Except Source.ReadFault Source.Bytes) (argv : List String)
    (a : Arguments) (raw : RawTopology) (d : Decoded) : Prop where
  parsed : Arguments.parse argv = .ok a
  loaded : Source.load read a.file = .ok raw
  decoded : (raw.decode a.onInvalid).result = .ok d

/-- The logger a run writes to. -/
def logger (env : Settings.Environment) : Log.Logger := .standard (Settings.threshold env)

/-- The log entries of events, as a run writes them. -/
def entries (env : Settings.Environment) (events : List Log.Event) : List Notice :=
  ((logger env).emitAll (events.map Log.Event.entry)).map .entry

theorem ne_nil_of_parse (h : Arguments.parse argv = .ok a) : argv ≠ [] := by
  rintro rfl
  cases h

theorem run_of_parse_error {e : ArgumentFault} (hargv : argv ≠ [])
    (h : Arguments.parse argv = .error e) : run read env argv = .failed (.arguments e) := by
  simp [run, hargv, h]

theorem run_of_load_error {e : Source.LoadFault} (hparse : Arguments.parse argv = .ok a)
    (h : Source.load read a.file = .error e) : run read env argv = .failed (.ofLoad e) := by
  simp [run, ne_nil_of_parse hparse, hparse, h]

theorem run_of_load (hparse : Arguments.parse argv = .ok a)
    (hload : Source.load read a.file = .ok raw) :
    run read env argv = .ofOutcome (logger env)
      ((raw.decode a.onInvalid).andThen fun d =>
        perform a (Settings.environmentPolicy env) d.topology) := by
  simp [run, ne_nil_of_parse hparse, hparse, hload, decodeAndPerform, Arguments.onInvalid, logger]

/-- A decoding that fails has logged nothing. -/
theorem run_of_decode_error (hparse : Arguments.parse argv = .ok a)
    (hload : Source.load read a.file = .ok raw)
    (h : (raw.decode a.onInvalid).result = .error fault) :
    run read env argv = .failed (.topology fault) := by
  have hevents : (raw.decode a.onInvalid).events = [] := by
    rw [RawTopology.decode] at h ⊢
    cases hraw : Decoded.ofRaw a.onInvalid raw with
    | error f => rfl
    | ok d => simp [hraw] at h
  rw [run_of_load hparse hload]
  simp [Outcome.andThen, h, hevents, Run.ofOutcome, Run.failed, Log.Logger.emitAll]

/-- The events of a run whose topology is decoded. -/
def Decodes.events (env : Settings.Environment) (a : Arguments) (d : Decoded) : List Log.Event :=
  d.events ++ (perform a (Settings.environmentPolicy env) d.topology).events

theorem run_of_decodes (h : Decodes read argv a raw d) :
    run read env argv = .ofOutcome (logger env)
      ⟨Decodes.events env a d, (perform a (Settings.environmentPolicy env) d.topology).result⟩ := by
  have hevents : (raw.decode a.onInvalid).events = d.events := by
    have hdecoded := h.decoded
    rw [RawTopology.decode] at hdecoded ⊢
    cases hraw : Decoded.ofRaw a.onInvalid raw with
    | error f => simp [hraw] at hdecoded
    | ok d' => simp_all
  rw [run_of_load h.parsed h.loaded]
  simp only [Outcome.andThen, h.decoded, hevents, Decodes.events]

theorem run_of_answers (h : Decodes read argv a raw d)
    (hanswer : Answers a (Settings.environmentPolicy env) d.topology answer) :
    run read env argv = ⟨0, [answer.text a ++ "\n"], entries env (Decodes.events env a d)⟩ := by
  rw [run_of_decodes h, result_perform_eq_ok_iff.2 ⟨answer, hanswer, rfl⟩]
  rfl

/-- The text that is put out says what is answered. -/
theorem says_of_answers (h : Decodes read argv a raw d)
    (hanswer : Answers a p d.topology answer) : Says a (answer.text a) answer := by
  cases hanswer with
  | deployable => exact says_deployable a
  | ordered => exact says_order a _
  | planned _ hplan =>
    exact says_plan a (legal_toJson (Source.legal_of_load h.loaded) h.decoded hplan)

theorem run_of_refuses (h : Decodes read argv a raw d)
    (hfault : Refuses a (Settings.environmentPolicy env) d.topology fault) :
    run read env argv =
      ⟨1, [], entries env (Decodes.events env a d) ++ [.failure (.topology fault)]⟩ := by
  rw [run_of_decodes h, result_perform_eq_error_iff.2 hfault]
  rfl

/-! ## Reports and answers -/

/-- The reports of the ways to fail, one for every stage. Faults of documents and of the
planner come with their code, all others are the bare message. -/
inductive Reports (read : String → Except Source.ReadFault Source.Bytes)
    (env : Settings.Environment) (argv : List String) : String → Prop
  | badArguments {e : ArgumentFault} : argv ≠ [] → Arguments.parse argv = .error e →
      Reports read env argv e.message
  | unreadable {a : Arguments} {e : Source.ReadFault} : Arguments.parse argv = .ok a →
      Source.load read a.file = .error (.unreadable e) → Reports read env argv e.message
  | document {a : Arguments} {e : Source.DocumentFault} : Arguments.parse argv = .ok a →
      Source.load read a.file = .error (.document e) →
      Reports read env argv (e.code.text ++ ": " ++ e.message)
  | undecodable {a : Arguments} {raw : RawTopology} {e : Fault} : Arguments.parse argv = .ok a →
      Source.load read a.file = .ok raw → (raw.decode a.onInvalid).result = .error e →
      Reports read env argv (e.code.text ++ ": " ++ e.message)
  | refused {a : Arguments} {raw : RawTopology} {d : Decoded} {e : Fault} :
      Decodes read argv a raw d → Refuses a (Settings.environmentPolicy env) d.topology e →
      Reports read env argv (e.code.text ++ ": " ++ e.message)

/-- A text says the answer of a run in which every stage succeeds. -/
def Answered (read : String → Except Source.ReadFault Source.Bytes) (env : Settings.Environment)
    (argv : List String) (text : String) : Prop :=
  ∃ a raw d answer, Decodes read argv a raw d ∧
    Answers a (Settings.environmentPolicy env) d.topology answer ∧ Says a text answer

/-- Lines of log entries that pass the threshold. -/
def LogLines (env : Settings.Environment) (time : String) (lines : List String) : Prop :=
  ∀ line ∈ lines, ∃ e : Log.Entry,
    (Settings.threshold env).admits e.level = true ∧ line = e.line time

theorem logLines_nil (env : Settings.Environment) (time : String) : LogLines env time [] := by
  simp [LogLines]

theorem logLines_entries (env : Settings.Environment) (time : String) (events : List Log.Event) :
    LogLines env time ((entries env events).map (Notice.text time)) := by
  intro line hline
  obtain ⟨notice, hnotice, rfl⟩ := List.mem_map.1 hline
  obtain ⟨e, he, rfl⟩ := List.mem_map.1 hnotice
  obtain ⟨e', -, hemit⟩ := List.mem_filterMap.1 he
  refine ⟨e, ?_, rfl⟩
  rw [Log.Logger.emit] at hemit
  split at hemit
  case isTrue hadmits =>
    obtain rfl := Option.some.inj hemit
    exact hadmits
  case isFalse => cases hemit

variable {report : String}

/-- Whoever gives arguments gets a report or an answer. -/
theorem exists_report_or_answer (read : String → Except Source.ReadFault Source.Bytes)
    (env : Settings.Environment) (hargv : argv ≠ []) :
    (∃ report, Reports read env argv report) ∨ ∃ text, Answered read env argv text := by
  cases hparse : Arguments.parse argv with
  | error e => exact .inl ⟨_, .badArguments hargv hparse⟩
  | ok a =>
    cases hload : Source.load read a.file with
    | error e =>
      cases e with
      | unreadable e => exact .inl ⟨_, .unreadable hparse hload⟩
      | document e => exact .inl ⟨_, .document hparse hload⟩
    | ok raw =>
      cases hdecode : (raw.decode a.onInvalid).result with
      | error e => exact .inl ⟨_, .undecodable hparse hload hdecode⟩
      | ok d =>
        have hstages : Decodes read argv a raw d := ⟨hparse, hload, hdecode⟩
        cases hwork : (perform a (Settings.environmentPolicy env) d.topology).result with
        | error e => exact .inl ⟨_, .refused hstages (result_perform_eq_error_iff.1 hwork)⟩
        | ok text =>
          obtain ⟨answer, hanswer, rfl⟩ := result_perform_eq_ok_iff.1 hwork
          exact .inr ⟨_, a, raw, d, answer, hstages, hanswer, says_of_answers hstages hanswer⟩

theorem run_of_reports (time : String) (h : Reports read env argv report) :
    (run read env argv).status = 1 ∧ (run read env argv).output = [] ∧
      ∃ lines, LogLines env time lines ∧
        (run read env argv).errors time = lines ++ [report ++ "\n"] := by
  cases h with
  | badArguments hargv hparse =>
    rw [run_of_parse_error hargv hparse]
    exact ⟨rfl, rfl, [], logLines_nil env time, rfl⟩
  | unreadable hparse hload =>
    rw [run_of_load_error hparse hload]
    exact ⟨rfl, rfl, [], logLines_nil env time, rfl⟩
  | document hparse hload =>
    rw [run_of_load_error hparse hload]
    exact ⟨rfl, rfl, [], logLines_nil env time, rfl⟩
  | undecodable hparse hload hdecode =>
    rw [run_of_decode_error hparse hload hdecode]
    exact ⟨rfl, rfl, [], logLines_nil env time, rfl⟩
  | refused hstages hrefuses =>
    rw [run_of_refuses hstages hrefuses]
    exact ⟨rfl, rfl, _, logLines_entries env time _, List.map_append⟩

/-- There may be other texts that say the answer; one that does is put out. -/
theorem run_of_answered (time : String) (h : Answered read env argv text) :
    (run read env argv).status = 0 ∧
      (∃ shown, Answered read env argv shown ∧ (run read env argv).output = [shown ++ "\n"]) ∧
      LogLines env time ((run read env argv).errors time) := by
  obtain ⟨a, raw, d, answer, hstages, hanswer, -⟩ := h
  have hshown : Answered read env argv (answer.text a) :=
    ⟨a, raw, d, answer, hstages, hanswer, says_of_answers hstages hanswer⟩
  rw [run_of_answers hstages hanswer]
  exact ⟨rfl, ⟨_, hshown, rfl⟩, logLines_entries env time _⟩

/-! ## Usage -/

def usageLines : List String := usage.map (· ++ "\n")

theorem head?_of_logLines {time : String} {lines : List String} (h : LogLines env time lines)
    {line : String} (hline : line ∈ lines) : line.toList.head? = some '\x7b' := by
  obtain ⟨e, -, rfl⟩ := h line hline
  obtain ⟨cs, hchars, -⟩ := e.line_eq time
  rw [hchars, List.head?_cons]

theorem head?_of_usageLines : ∀ line ∈ usageLines, line.toList.head? ≠ some '\x7b' := by
  decide +kernel

/-- Only a run without arguments shows how it is used. The report of any other run follows
log lines, which no line of the usage is. -/
theorem errors_run_eq_usageLines_iff (time : String) :
    (run read env argv).errors time = usageLines ↔ argv = [] := by
  constructor
  · intro husage
    by_contra hargv
    rcases exists_report_or_answer read env hargv with ⟨report, hreport⟩ | ⟨text, htext⟩
    · obtain ⟨-, -, lines, hlines, herrors⟩ := run_of_reports time hreport
      rw [herrors] at husage
      cases lines with
      | nil => exact absurd (congrArg List.length husage) (by simp [usageLines, usage])
      | cons first rest =>
        have hfirst : first ∈ usageLines := husage ▸ List.mem_append_left _ List.mem_cons_self
        exact head?_of_usageLines first hfirst (head?_of_logLines hlines List.mem_cons_self)
    · obtain ⟨-, -, hlines⟩ := run_of_answered time htext
      obtain ⟨line, hline⟩ : ∃ line, line ∈ usageLines := ⟨_, List.mem_cons_self⟩
      exact head?_of_usageLines line hline (head?_of_logLines (husage ▸ hlines) hline)
  · rintro rfl
    rfl

/-! ## Ends of a run -/

theorem status_run_eq_one_iff :
    (run read env argv).status = 1 ↔ argv = [] ∨ ∃ report, Reports read env argv report := by
  constructor
  · intro hstatus
    by_cases hargv : argv = []
    · exact .inl hargv
    rcases exists_report_or_answer read env hargv with hreport | ⟨text, htext⟩
    · exact .inr hreport
    · have hzero := (run_of_answered "" htext).1
      omega
  · rintro (rfl | ⟨report, hreport⟩)
    · rfl
    · exact (run_of_reports "" hreport).1

theorem status_run_eq_zero_iff :
    (run read env argv).status = 0 ↔ ∃ text, Answered read env argv text := by
  constructor
  · intro hstatus
    have hone : ¬(run read env argv).status = 1 := by omega
    rw [status_run_eq_one_iff, not_or] at hone
    exact (exists_report_or_answer read env hone.1).resolve_left hone.2
  · rintro ⟨text, htext⟩
    exact (run_of_answered "" htext).1

theorem output_run_of_status_one (h : (run read env argv).status = 1) :
    (run read env argv).output = [] := by
  rcases status_run_eq_one_iff.1 h with rfl | ⟨report, hreport⟩
  · rfl
  · exact (run_of_reports "" hreport).2.1

/-- A run has one of two statuses. With status one nothing is put out, and the usage, or log
lines and one report, go to standard error; with status zero a text that says the answer is put
out in one piece with a line break behind it, and nothing but log lines goes to standard error.
Texts are Unicode: a surrogate that an escape of the file leaves alone counts as U+FFFD. -/
theorem run_ends (read : String → Except Source.ReadFault Source.Bytes)
    (env : Settings.Environment) (argv : List String) (time : String) :
    ((run read env argv).status = 0 ∨ (run read env argv).status = 1) ∧
      ((run read env argv).status = 1 ↔
        argv = [] ∨ ∃ report, Reports read env argv report) ∧
      ((run read env argv).status = 0 ↔ ∃ text, Answered read env argv text) ∧
      ((run read env argv).status = 1 → (run read env argv).output = []) ∧
      ((run read env argv).errors time = usageLines ↔ argv = []) ∧
      (∀ report, Reports read env argv report → ∃ lines, LogLines env time lines ∧
        (run read env argv).errors time = lines ++ [report ++ "\n"]) ∧
      ((run read env argv).status = 0 →
        (∃ text, Answered read env argv text ∧ (run read env argv).output = [text ++ "\n"]) ∧
          LogLines env time ((run read env argv).errors time)) ∧
      ∀ lines, LogLines env time lines → ∀ line ∈ lines,
        ∃ cs, line.toList = cs ++ ['\n'] ∧ '\n' ∉ cs := by
  refine ⟨?_, status_run_eq_one_iff, status_run_eq_zero_iff, output_run_of_status_one,
    errors_run_eq_usageLines_iff time, fun report hreport => (run_of_reports time hreport).2.2,
    fun hzero => ?_, fun lines hlines line hline => ?_⟩
  · by_cases hargv : argv = []
    · exact .inr (status_run_eq_one_iff.2 (.inl hargv))
    rcases exists_report_or_answer read env hargv with hreport | htext
    · exact .inr (status_run_eq_one_iff.2 (.inr hreport))
    · exact .inl (status_run_eq_zero_iff.2 htext)
  · obtain ⟨text, htext⟩ := status_run_eq_zero_iff.1 hzero
    exact (run_of_answered time htext).2
  · obtain ⟨e, -, rfl⟩ := hlines line hline
    obtain ⟨cs, hchars, hcs⟩ := e.line_eq time
    exact ⟨'\x7b' :: cs, hchars, by simp [hcs]⟩

end CommandLine
end Rollout
