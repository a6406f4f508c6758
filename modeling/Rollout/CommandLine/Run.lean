import Rollout.CommandLine.Arguments
import Rollout.CommandLine.Report
import Rollout.Plan.Build
import Rollout.Plan.Document
import Rollout.Settings.Resolve
import Rollout.Source.Document
import Rollout.Topology.Decode

/-
Runs of the command line. A run ends with status zero and one piece of output, or with
status one, no output and a report of what failed; log entries come before the report.
Files are read by a function that the caller brings along.
-/
namespace Rollout
namespace CommandLine

/-- What can end a run. -/
inductive Failure where
  | arguments (fault : ArgumentFault)
  | unreadable (fault : Source.ReadFault)
  | document (fault : Source.DocumentFault)
  | topology (fault : Fault)
  deriving DecidableEq

/-- The report of a failure. Faults with a code of the planner show it. -/
def Failure.report : Failure → String
  | .arguments fault => fault.message
  | .unreadable fault => fault.message
  | .document fault => fault.code.text ++ ": " ++ fault.message
  | .topology fault => fault.code.text ++ ": " ++ fault.message

def Failure.ofLoad : Source.LoadFault → Failure
  | .unreadable fault => .unreadable fault
  | .document fault => .document fault

/-- Something written to standard error. -/
inductive Notice where
  | entry (e : Log.Entry)
  | usage (text : String)
  | failure (f : Failure)

/-- The text of a notice with its line break. A log entry shows the time. -/
def Notice.text (time : String) : Notice → String
  | .entry e => e.line time
  | .usage text => text ++ "\n"
  | .failure f => f.report ++ "\n"

/-- What a run leaves behind: its status and what it wrote, piece by piece. -/
structure Run where
  status : Nat
  output : List String
  notices : List Notice

def usage : List String :=
  ["Usage: topology-plan <topology.(json|yaml|yml)> [--format json|text] [--order-only] [--validate-only] [--strict]",
    "Examples:",
    "  topology-plan stack.yaml",
    "  topology-plan stack.yaml --order-only",
    "  topology-plan stack.json --format json --strict"]

/-- The answer that a topology is valid. -/
def validAnswer (a : Arguments) : String :=
  match a.format with
  | .text => "Topology is deployable"
  | .json => Json.pretty (.object [("file", .text a.file), ("ok", .bool true)])

def orderAnswer (a : Arguments) (order : List String) : String :=
  match a.format with
  | .text => orderText order
  | .json => Json.pretty (.object [("file", .text a.file), ("order", .texts order)])

def planAnswer (a : Arguments) (p : Plan) : String :=
  match a.format with
  | .text => planText p
  | .json => Json.pretty p.toJson

/-- Does what is asked for with a topology. The order is computed without validation. -/
def perform (a : Arguments) (policy : Validation.Policy) (t : Topology) : Outcome String :=
  match a.mode with
  | .validate => (Validation.validate policy t).map fun _ => validAnswer a
  | .order => ⟨[], (Schedule.compute t).map (orderAnswer a)⟩
  | .plan => (t.plan policy).map (planAnswer a)

/-- Decodes a raw topology and does what is asked for. -/
def decodeAndPerform (a : Arguments) (policy : Validation.Policy) (raw : RawTopology) :
    Outcome String :=
  (raw.decode (if a.strict then .reject else .skip)).andThen fun d =>
    perform a policy d.topology

def Run.failed (f : Failure) : Run := ⟨1, [], [.failure f]⟩

/-- The run an outcome leads to, its events as the logger passes them on. -/
def Run.ofOutcome (logger : Log.Logger) (o : Outcome String) : Run :=
  let entries := (logger.emitAll (o.events.map Log.Event.entry)).map Notice.entry
  match o.result with
  | .ok answer => ⟨0, [answer ++ "\n"], entries⟩
  | .error fault => ⟨1, [], entries ++ [.failure (.topology fault)]⟩

/-- Runs the command line. Without arguments it shows how it is used. -/
def run (read : String → Except Source.ReadFault Source.Bytes) (env : Settings.Environment)
    (argv : List String) : Run :=
  if argv.isEmpty then ⟨1, [], usage.map .usage⟩
  else
    match Arguments.parse argv with
    | .error fault => .failed (.arguments fault)
    | .ok a =>
      match Source.load read a.file with
      | .error fault => .failed (.ofLoad fault)
      | .ok raw =>
        .ofOutcome (.standard (Settings.threshold env))
          (decodeAndPerform a (Settings.environmentPolicy env) raw)

end CommandLine
end Rollout
