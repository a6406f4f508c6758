import Rollout.Log.Entry
import Rollout.Log.Redaction

/-
Loggers. A logger drops the entries below its threshold and redacts the payloads of the
others; each entry it keeps is one line and one notice to whoever listens.
-/
namespace Rollout
namespace Log

/-- A log call, with the time at which it is made. -/
structure Call where
  time : String
  entry : Entry

/-- What a logger leaves behind, in order: the chunks it writes and the notices it gives. -/
structure Journal where
  chunks : List String := []
  notices : List Call := []

structure Logger where
  threshold : Threshold
  redacting : Bool
  deriving DecidableEq

namespace Logger

/-- A logger as the planner sets it up. -/
def standard (threshold : Threshold) : Logger := ⟨threshold, true⟩

/-- The threshold of a logger that is not told one. -/
def defaultThreshold : Threshold := .info

def safe (l : Logger) (payload : Json) : Json := if l.redacting then redact payload else payload

/-- The entry as the logger passes it on, if it does. -/
def emit (l : Logger) (e : Entry) : Option Entry :=
  if l.threshold.admits e.level then some { e with payload := e.payload.map l.safe } else none

/-- What a logger passes on of a run of entries. -/
def emitAll (l : Logger) (es : List Entry) : List Entry := es.filterMap l.emit

/-- One log call. What is written comes before the notice of it. -/
def log (l : Logger) (j : Journal) (c : Call) : Journal :=
  match l.emit c.entry with
  | some e => ⟨j.chunks ++ [e.line c.time], j.notices ++ [⟨c.time, e⟩]⟩
  | none => j

def logAll (l : Logger) (j : Journal) (calls : List Call) : Journal := calls.foldl l.log j

end Logger
end Log
end Rollout
