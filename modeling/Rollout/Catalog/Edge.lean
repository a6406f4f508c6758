import Rollout.Catalog.Words
import Rollout.Number.Basic

/-
Relationships between units. Only a required dependency constrains the start order;
the queries below say what else each kind asks for.
-/
namespace Rollout
namespace Catalog

structure DataVolume where
  messagesPerSecond : Number
  averageSizeBytes : Nat
  peakMultiplier : Number
  deriving DecidableEq

inductive Edge where
  | dependsOn (required : Bool) (startupDelaySeconds : Option Number)
  | connectsTo (protocol : Protocol) (port : Nat) (encrypted : Bool)
  | mountsVolume (mountPath : String) (readOnly : Bool)
  | loadBalances (weight : Option Nat) (healthCheck : Bool)
  | dataFlow (direction : FlowDirection) (format : DataFormat) (volume : Option DataVolume)
  | publishesTo (topic : String) (rateLimit : Option Nat)
  | subscribesTo (topic : String) (consumerGroup : Option String)
  | manages (permissions : List Permission)
  deriving DecidableEq

inductive EdgeKind where
  | dependsOn | connectsTo | mountsVolume | loadBalances
  | dataFlow | publishesTo | subscribesTo | manages
  deriving DecidableEq

instance : Worded EdgeKind where
  members :=
    [.dependsOn, .connectsTo, .mountsVolume, .loadBalances,
      .dataFlow, .publishesTo, .subscribesTo, .manages]
  word
    | .dependsOn => "depends_on"
    | .connectsTo => "connects_to"
    | .mountsVolume => "mounts_volume"
    | .loadBalances => "load_balances"
    | .dataFlow => "data_flow"
    | .publishesTo => "publishes_to"
    | .subscribesTo => "subscribes_to"
    | .manages => "manages"

/-- How strongly the source of an edge needs its target. -/
inductive DependencyType where
  | hard | soft | runtime
  deriving DecidableEq

instance : Worded DependencyType where
  members := [.hard, .soft, .runtime]
  word
    | .hard => "hard"
    | .soft => "soft"
    | .runtime => "runtime"

namespace Edge

def kind : Edge → EdgeKind
  | .dependsOn .. => .dependsOn
  | .connectsTo .. => .connectsTo
  | .mountsVolume .. => .mountsVolume
  | .loadBalances .. => .loadBalances
  | .dataFlow .. => .dataFlow
  | .publishesTo .. => .publishesTo
  | .subscribesTo .. => .subscribesTo
  | .manages .. => .manages

/-- Whether the source may start only after the target. -/
def isStartup : Edge → Bool
  | .dependsOn required _ => required
  | _ => false

/-- Whether the target has to exist for the topology to be deployable. -/
def needsTarget : Edge → Bool
  | .dependsOn required _ => required
  | .loadBalances .. => true
  | _ => false

def requiresNetwork : Edge → Bool
  | .connectsTo .. | .publishesTo .. | .subscribesTo .. | .dataFlow .. => true
  | _ => false

def dependencyType : Edge → DependencyType
  | .dependsOn required _ => if required then .hard else .soft
  | .connectsTo .. | .dataFlow .. => .runtime
  | _ => .soft

def requiresEncryption : Edge → Bool
  | .connectsTo _ _ encrypted => encrypted
  | _ => false

def requiredPorts : Edge → List Nat
  | .connectsTo _ port _ => [port]
  | _ => []

/-- The path an edge mounts for writing. -/
def writablePath? : Edge → Option String
  | .mountsVolume path readOnly => if readOnly then none else some path
  | _ => none

end Edge
end Catalog
end Rollout
