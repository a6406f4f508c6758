import Rollout.Log.Event
import Rollout.Validation.Budget
import Rollout.Validation.Checks

/-
Validation: the checks in their fixed order, up to the first fault.
-/
namespace Rollout
namespace Validation

inductive Check where
  | cycles | dependencies | ports | resources | storage | nodeConfig | orphans
  deriving DecidableEq

instance : Worded Check where
  members := [.cycles, .dependencies, .ports, .resources, .storage, .nodeConfig, .orphans]
  word
    | .cycles => "cycles"
    | .dependencies => "dependencies"
    | .ports => "ports"
    | .resources => "resources"
    | .storage => "storage"
    | .nodeConfig => "node_config"
    | .orphans => "orphans"

/-- What a topology is held to. Totals are summed by `add`, which is binary64 addition
unless another is given. -/
structure Policy where
  limits : Limits
  allowOrphans : Bool
  add : Number → Number → Number := Binary64.add

/-- The fault a check finds. -/
def Check.fault? (p : Policy) (t : Topology) : Check → Option Fault
  | .cycles => cycleFault t
  | .dependencies => targetFault t
  | .ports => portFault t
  | .resources => budgetFault (totalsWith p.add t) p.limits
  | .storage => mountFault t
  | .nodeConfig => nodeFault t
  | .orphans => orphanFault t

/-- The checks of a policy, in their order. Nodes without edges are looked for last,
and only where they are not allowed. -/
def Policy.checks (p : Policy) : List Check :=
  [.cycles, .dependencies, .ports, .resources, .storage, .nodeConfig]
    ++ if p.allowOrphans then [] else [.orphans]

/-- The first check that finds a fault, with the fault. -/
def firstFault (p : Policy) (t : Topology) : Option (Check × Fault) :=
  p.checks.findSome? fun c => (c.fault? p t).map fun f => (c, f)

/-- Validates a topology and reports the verdict. -/
def validate (p : Policy) (t : Topology) : Outcome Unit :=
  match firstFault p t with
  | some (check, fault) => ⟨[.validationFailed (Worded.word check) fault], .error fault⟩
  | none => ⟨[.validated t.size p.checks.length], .ok ()⟩

end Validation
end Rollout
