import Rollout.Catalog.Words
import Rollout.Json.Basic
import Rollout.Number.Shortest

/-
What can be wrong with a topology, with the code, the message and the details that
reports show for it.
-/
namespace Rollout

/-- The stable codes of everything that is reported. -/
inductive Code where
  | cycle | missingDependency | invalidNode | portConflict
  | resourceLimit | invalidEdge | orphanedNode | storageConflict
  | invalidDocument | unsupportedFormat
  deriving DecidableEq

namespace Code

def all : List Code :=
  [.cycle, .missingDependency, .invalidNode, .portConflict, .resourceLimit, .invalidEdge,
    .orphanedNode, .storageConflict, .invalidDocument, .unsupportedFormat]

/-- The family a code belongs to: faults of a topology, or of a topology document. -/
def family : Code → String
  | .invalidDocument | .unsupportedFormat => "TOPOLOGY"
  | _ => "DEPLOY"

/-- The name of a code within its family. -/
def label : Code → String
  | .cycle => "CYCLE"
  | .missingDependency => "MISSING_DEPENDENCY"
  | .invalidNode => "INVALID_NODE"
  | .portConflict => "PORT_CONFLICT"
  | .resourceLimit => "RESOURCE_LIMIT"
  | .invalidEdge => "INVALID_EDGE"
  | .orphanedNode => "ORPHANED_NODE"
  | .storageConflict => "STORAGE_CONFLICT"
  | .invalidDocument => "INVALID_DOCUMENT"
  | .unsupportedFormat => "UNSUPPORTED_FORMAT"

def text : Code → String
  | .cycle => "E-DEPLOY-CYCLE"
  | .missingDependency => "E-DEPLOY-MISSING-DEPENDENCY"
  | .invalidNode => "E-DEPLOY-INVALID-NODE"
  | .portConflict => "E-DEPLOY-PORT-CONFLICT"
  | .resourceLimit => "E-DEPLOY-RESOURCE-LIMIT"
  | .invalidEdge => "E-DEPLOY-INVALID-EDGE"
  | .orphanedNode => "E-DEPLOY-ORPHANED-NODE"
  | .storageConflict => "E-DEPLOY-STORAGE-CONFLICT"
  | .invalidDocument => "E-TOPOLOGY-INVALID-DOCUMENT"
  | .unsupportedFormat => "E-TOPOLOGY-UNSUPPORTED-FORMAT"

end Code

/-- A dimension of the cluster's budget. -/
inductive Dimension where
  | cpu | memory | disk
  deriving DecidableEq

instance : Worded Dimension where
  members := [.cpu, .memory, .disk]
  word
    | .cpu => "cpu"
    | .memory => "memory"
    | .disk => "disk"

/-- A fault of a topology. A description is the part of the message that depends on
how the fault was found. -/
inductive Fault where
  | cyclicDependency (description : String) (cycle : List String)
  | missingDependency (source target : String)
  | invalidNode (description : String) (node : Option String)
  | portConflict (port : Nat) (services : List String)
  | resourceLimit (description : String) (dimension : Dimension) (total limit : Number)
  | invalidEdge (description : String) (source target : Option String)
  | orphanedNode (node : String)
  | storageConflict (path : String) (writers : List String)
  deriving DecidableEq

inductive FaultKind where
  | cyclicDependency | missingDependency | invalidNode | portConflict
  | resourceLimit | invalidEdge | orphanedNode | storageConflict
  deriving DecidableEq

instance : Worded FaultKind where
  members :=
    [.cyclicDependency, .missingDependency, .invalidNode, .portConflict,
      .resourceLimit, .invalidEdge, .orphanedNode, .storageConflict]
  word
    | .cyclicDependency => "cyclic_dependency"
    | .missingDependency => "missing_dependency"
    | .invalidNode => "invalid_node_config"
    | .portConflict => "port_conflict"
    | .resourceLimit => "resource_limit_exceeded"
    | .invalidEdge => "invalid_edge"
    | .orphanedNode => "orphaned_node"
    | .storageConflict => "storage_conflict"

def FaultKind.code : FaultKind → Code
  | .cyclicDependency => .cycle
  | .missingDependency => .missingDependency
  | .invalidNode => .invalidNode
  | .portConflict => .portConflict
  | .resourceLimit => .resourceLimit
  | .invalidEdge => .invalidEdge
  | .orphanedNode => .orphanedNode
  | .storageConflict => .storageConflict

/-- Identifiers as messages list them. -/
def commaList (items : List String) : String := String.intercalate ", " items

namespace Fault

def kind : Fault → FaultKind
  | .cyclicDependency .. => .cyclicDependency
  | .missingDependency .. => .missingDependency
  | .invalidNode .. => .invalidNode
  | .portConflict .. => .portConflict
  | .resourceLimit .. => .resourceLimit
  | .invalidEdge .. => .invalidEdge
  | .orphanedNode .. => .orphanedNode
  | .storageConflict .. => .storageConflict

def code (f : Fault) : Code := f.kind.code

def message : Fault → String
  | .cyclicDependency description _ => "Cyclic dependency detected: " ++ description
  | .missingDependency source target =>
    "Missing required dependency: " ++ source ++ " requires " ++ target
  | .invalidNode description _ => "Invalid node configuration: " ++ description
  | .portConflict port services =>
    "Port conflict: " ++ toString port ++ " is used by multiple services: " ++ commaList services
  | .resourceLimit description _ _ _ => "Resource limit exceeded: " ++ description
  | .invalidEdge description _ _ => "Invalid edge: " ++ description
  | .orphanedNode node => "Orphaned node: " ++ node ++ " has no connections"
  | .storageConflict path _ => "Storage conflict: " ++ path ++ " is mounted by multiple services"

/-- The data behind the message, by name. -/
def details : Fault → Record Json
  | .cyclicDependency _ cycle => [("cycle", .texts cycle)]
  | .missingDependency source target => [("from", .text source), ("to", .text target)]
  | .invalidNode _ node => [("nodeId", Json.orNull .text node)]
  | .portConflict port services => [("port", .nat port), ("services", .texts services)]
  | .resourceLimit _ dimension total limit =>
    [("resource", .text (Worded.word dimension)), ("total", .number total),
      ("limit", .number limit)]
  | .invalidEdge _ source target =>
    [("from", Json.orNull .text source), ("to", Json.orNull .text target)]
  | .orphanedNode node => [("nodeId", .text node)]
  | .storageConflict path writers => [("path", .text path), ("writers", .texts writers)]

/-- The fault of a cycle of dependencies, its first node repeated at the end. -/
def ofCycle (cycle : List String) : Fault :=
  .cyclicDependency (String.intercalate " -> " cycle) cycle

/-- The fault of an order that cannot place some nodes. -/
def ofUnresolved (unresolved : List String) : Fault :=
  .cyclicDependency
    ("cannot determine deployment order (unresolved: " ++ commaList unresolved ++ ")") []

def ofDuplicate (id : String) : Fault :=
  .invalidNode ("duplicate node identifier '" ++ id ++ "'") (some id)

end Fault
end Rollout
