import Rollout.Number.Binary64
import Rollout.Topology.Basic

/-
The budget of a cluster: ceilings, summed footprints and their comparison. The addition
is a parameter, so that the sums can be looked at in exact arithmetic as well.
-/
namespace Rollout
namespace Validation

/-- The ceilings of a cluster. -/
structure Limits where
  maxCpuCores : Number
  maxMemoryMb : Number
  maxDiskGb : Number
  deriving DecidableEq

/-- A summed footprint. -/
structure Totals where
  cpuCores : Number
  memoryMb : Number
  diskGb : Number
  deriving DecidableEq

namespace Totals

def zero : Totals := ⟨.zero, .zero, .zero⟩

/-- Adds a footprint, an absent figure counting as zero. -/
def plus (add : Number → Number → Number) (t : Totals) (r : Catalog.Resources) : Totals where
  cpuCores := add t.cpuCores (r.cpuCores.getD .zero)
  memoryMb := add t.memoryMb (.ofNat (r.memoryMb.getD 0))
  diskGb := add t.diskGb (.ofNat (r.diskGb.getD 0))

def get (t : Totals) : Dimension → Number
  | .cpu => t.cpuCores
  | .memory => t.memoryMb
  | .disk => t.diskGb

end Totals

def Limits.get (l : Limits) : Dimension → Number
  | .cpu => l.maxCpuCores
  | .memory => l.maxMemoryMb
  | .disk => l.maxDiskGb

/-- The footprints summed in topology order with the given addition. -/
def totalsWith (add : Number → Number → Number) (t : Topology) : Totals :=
  (t.vertices.filterMap fun v => v.node.resources?).foldl (Totals.plus add) .zero

/-- The footprints summed as binary64 numbers. -/
def totals (t : Topology) : Totals := totalsWith Binary64.add t

/-- The sentence that says a total is too high. -/
def excessText : Dimension → Number → Number → String
  | .cpu, total, limit =>
    "Total CPU cores (" ++ total.text ++ ") exceeds limit (" ++ limit.text ++ ")"
  | .memory, total, limit =>
    "Total memory (" ++ total.text ++ "MB) exceeds limit (" ++ limit.text ++ "MB)"
  | .disk, total, limit =>
    "Total disk (" ++ total.text ++ "GB) exceeds limit (" ++ limit.text ++ "GB)"

/-- The first dimension, in the order cpu, memory, disk, whose total is above its
ceiling. -/
def budgetFault (totals : Totals) (limits : Limits) : Option Fault :=
  ([.cpu, .memory, .disk].find? fun d => (limits.get d).lt (totals.get d)).map fun d =>
    .resourceLimit (excessText d (totals.get d) (limits.get d)) d (totals.get d) (limits.get d)

end Validation
end Rollout
