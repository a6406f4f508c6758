import Rollout.Plan.Basic
import Rollout.Number.Shortest

/-
Orders and plans as people read them.
-/
namespace Rollout
namespace CommandLine

def lines (items : List String) : String := String.intercalate "\n" items

/-- The entries of an order with their positions, counted from one. -/
def numbered : Nat → List String → List String
  | _, [] => []
  | i, id :: rest => ("  " ++ toString i ++ ". " ++ id) :: numbered (i + 1) rest

def orderText : List String → String
  | [] => "Deployment order: (empty topology)"
  | order => lines ("Deployment order:" :: numbered 1 order)

/-- A heading with the number of its entries, and the entries. -/
def titled (title : String) (entries : List String) : List String :=
  ("# " ++ title ++ " (" ++ toString entries.length ++ ")") :: entries.map ("  " ++ ·)

/-- The port behind a name, if there is one. -/
def portMark : Option Nat → String
  | some port => " :" ++ toString port
  | none => ""

/-- What a service waits for, if anything. -/
def waitMark : List String → String
  | [] => ""
  | ids => " <- " ++ String.intercalate ", " ids

def serviceLine (s : PlannedService) : String := s.name ++ portMark s.port ++ waitMark s.dependencies

def databaseLine (d : PlannedDatabase) : String :=
  d.name ++ " " ++ Worded.word d.engine ++ "@" ++ d.version ++ " :" ++ toString d.port

def agentLine (a : PlannedAgent) : String := a.name ++ " -> " ++ a.natsUrl

def busLine (b : PlannedBus) : String :=
  b.name ++ " " ++ Worded.word b.busType ++ " x" ++ (Number.ofNat b.clusterSize).text ++ " :"
    ++ String.intercalate "," (b.ports.map toString)

def balancerLine (b : PlannedBalancer) : String :=
  b.name ++ " " ++ b.strategy ++ " -> "
    ++ String.intercalate ", " (b.backends.map fun x => x.service ++ ":" ++ toString x.port)

def volumeLine (v : PlannedVolume) : String :=
  v.name ++ " " ++ Worded.word v.storageType ++ " " ++ v.size
    ++ " (" ++ toString v.mounts.length ++ " mounts)"

def connectionLine (c : Connection) : String :=
  c.source ++ " -> " ++ c.target ++ " " ++ Worded.word c.protocol ++ ":" ++ toString c.port
    ++ if c.encrypted then " (encrypted)" else ""

/-- A plan, section by section. -/
def planText (p : Plan) : String :=
  lines
    (titled "services" (p.services.map serviceLine)
      ++ titled "databases" (p.databases.map databaseLine)
      ++ titled "agents" (p.agents.map agentLine)
      ++ titled "message buses" (p.messageBuses.map busLine)
      ++ titled "load balancers" (p.loadBalancers.map balancerLine)
      ++ titled "storage volumes" (p.storageVolumes.map volumeLine)
      ++ titled "connections" (p.network.connections.map connectionLine))

end CommandLine
end Rollout
