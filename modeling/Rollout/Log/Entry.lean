import Rollout.Catalog.Words
import Rollout.Json.Printer

/-
Log entries: levels, thresholds and the line an entry is written as.
-/
namespace Rollout
namespace Log

inductive Level where
  | debug | info | warn | error
  deriving DecidableEq

instance : Worded Level where
  members := [.debug, .info, .warn, .error]
  word
    | .debug => "debug"
    | .info => "info"
    | .warn => "warn"
    | .error => "error"

/-- The level from which entries are kept. `silent` keeps none. -/
inductive Threshold where
  | debug | info | warn | error | silent
  deriving DecidableEq

instance : Worded Threshold where
  members := [.debug, .info, .warn, .error, .silent]
  word
    | .debug => "debug"
    | .info => "info"
    | .warn => "warn"
    | .error => "error"
    | .silent => "silent"

def Level.rank : Level → Nat
  | .debug => 10
  | .info => 20
  | .warn => 30
  | .error => 40

def Threshold.rank : Threshold → Nat
  | .debug => 10
  | .info => 20
  | .warn => 30
  | .error => 40
  | .silent => 100

/-- Whether a threshold lets a level through. -/
def Threshold.admits (t : Threshold) (l : Level) : Bool := decide (t.rank ≤ l.rank)

structure Entry where
  level : Level
  message : String
  payload : Option Json

namespace Entry

/-- The members of an entry written at a given time. A payload that is absent is left
out. -/
def members (e : Entry) (time : String) : List (String × Json) :=
  [("timestamp", .text time), ("level", .text (Worded.word e.level)), ("message", .text e.message)]
    ++ (e.payload.map fun p => ("payload", p)).toList

/-- The line an entry is written as, with its line break. -/
def line (e : Entry) (time : String) : String :=
  String.ofList (Json.chars (.object (e.members time)) ++ ['\n'])

end Entry
end Log
end Rollout
