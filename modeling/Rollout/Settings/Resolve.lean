import Rollout.Log.Logger
import Rollout.Settings.Variable
import Rollout.Validation.Verdict

/-
The settings of the planner: the ceilings of the cluster, the log threshold, and
whether nodes without edges are allowed.
-/
namespace Rollout
namespace Settings

open Validation

/-- 64 cores, 128 000 MB of memory and 10 000 GB of disk. -/
def defaultLimits : Limits := ⟨.ofNat 64, .ofNat 128000, .ofNat 10000⟩

/-- The variable that holds the ceiling of a dimension. -/
def limitVariable : Dimension → String
  | .cpu => "TOPOLOGY_MAX_CPU_CORES"
  | .memory => "TOPOLOGY_MAX_MEMORY_MB"
  | .disk => "TOPOLOGY_MAX_DISK_GB"

def thresholdVariable : String := "TOPOLOGY_LOG_LEVEL"

def orphansVariable : String := "TOPOLOGY_ALLOW_ORPHANED_NODES"

/-- Ceilings are above zero. -/
def limitBounds : Bounds := ⟨some Binary64.leastPositive, none⟩

/-- Ceilings given explicitly, some of which may be missing. -/
structure LimitOverrides where
  maxCpuCores : Option Number
  maxMemoryMb : Option Number
  maxDiskGb : Option Number

def LimitOverrides.none : LimitOverrides := ⟨.none, .none, .none⟩

/-- The ceiling of a dimension as the environment has it, else the default. -/
def limitFrom (env : Environment) (d : Dimension) : Number :=
  (readNumber limitBounds (Record.get? env (limitVariable d))).getD (defaultLimits.get d)

/-- The ceilings: an explicit one wins over the environment, which wins over the
default. -/
def limits (env : Environment) (given : LimitOverrides) : Limits where
  maxCpuCores := given.maxCpuCores.getD (limitFrom env .cpu)
  maxMemoryMb := given.maxMemoryMb.getD (limitFrom env .memory)
  maxDiskGb := given.maxDiskGb.getD (limitFrom env .disk)

/-- The log threshold of the environment. -/
def threshold (env : Environment) : Log.Threshold :=
  (readChoice Worded.word Worded.members (Record.get? env thresholdVariable)).getD
    Log.Logger.defaultThreshold

/-- Whether the environment allows nodes without edges, as it does unless told not to. -/
def allowOrphans (env : Environment) : Bool :=
  (readFlag (Record.get? env orphansVariable)).getD true

/-- The policy of a caller who may leave parts of it open. Ceilings left open come from
the environment; nodes without edges are allowed unless the caller forbids them. -/
def policy (env : Environment) (limits? : Option Limits) (allowOrphans? : Option Bool) : Policy where
  limits := limits?.getD (limits env .none)
  allowOrphans := allowOrphans?.getD true

/-- The policy the command line takes from the environment. -/
def environmentPolicy (env : Environment) : Policy where
  limits := limits env .none
  allowOrphans := allowOrphans env

end Settings
end Rollout
