/-
The closed vocabularies of the catalogue. Each is a finite type with the word that
documents use for every member, listed in the order in which messages enumerate them.
-/
namespace Rollout

/-- A finite type whose members documents name by words. -/
class Worded (α : Type) where
  members : List α
  word : α → String

namespace Worded

/-- The words of a vocabulary, in order. -/
def words (α : Type) [Worded α] : List String := (members : List α).map word

/-- The member a word names. -/
def ofWord? {α : Type} [Worded α] (w : String) : Option α :=
  (members : List α).find? fun a => word a = w

end Worded

namespace Catalog

inductive DatabaseEngine where
  | postgres | mysql | mongodb | redis | sqlite
  deriving DecidableEq

inductive BusType where
  | nats | kafka | rabbitmq | redis
  deriving DecidableEq

inductive StorageType where
  | localDisk | networkFs | objectStore | blockStorage
  deriving DecidableEq

inductive AccessMode where
  | readWriteOnce | readOnlyMany | readWriteMany
  deriving DecidableEq

inductive BasicStrategy where
  | roundRobin | leastConnections | ipHash | random
  deriving DecidableEq

inductive Protocol where
  | http | https | tcp | udp | grpc | websocket
  deriving DecidableEq

inductive FlowDirection where
  | push | pull | bidirectional
  deriving DecidableEq

inductive DataFormat where
  | json | protobuf | messagepack | avro | xml | binary
  deriving DecidableEq

inductive Permission where
  | start | stop | restart | configure | monitor | scale | deploy
  deriving DecidableEq

instance : Worded DatabaseEngine where
  members := [.postgres, .mysql, .mongodb, .redis, .sqlite]
  word
    | .postgres => "postgres"
    | .mysql => "mysql"
    | .mongodb => "mongodb"
    | .redis => "redis"
    | .sqlite => "sqlite"

instance : Worded BusType where
  members := [.nats, .kafka, .rabbitmq, .redis]
  word
    | .nats => "nats"
    | .kafka => "kafka"
    | .rabbitmq => "rabbitmq"
    | .redis => "redis"

instance : Worded StorageType where
  members := [.localDisk, .networkFs, .objectStore, .blockStorage]
  word
    | .localDisk => "local_disk"
    | .networkFs => "network_fs"
    | .objectStore => "object_store"
    | .blockStorage => "block_storage"

instance : Worded AccessMode where
  members := [.readWriteOnce, .readOnlyMany, .readWriteMany]
  word
    | .readWriteOnce => "read_write_once"
    | .readOnlyMany => "read_only_many"
    | .readWriteMany => "read_write_many"

instance : Worded BasicStrategy where
  members := [.roundRobin, .leastConnections, .ipHash, .random]
  word
    | .roundRobin => "round_robin"
    | .leastConnections => "least_connections"
    | .ipHash => "ip_hash"
    | .random => "random"

instance : Worded Protocol where
  members := [.http, .https, .tcp, .udp, .grpc, .websocket]
  word
    | .http => "http"
    | .https => "https"
    | .tcp => "tcp"
    | .udp => "udp"
    | .grpc => "grpc"
    | .websocket => "websocket"

instance : Worded FlowDirection where
  members := [.push, .pull, .bidirectional]
  word
    | .push => "push"
    | .pull => "pull"
    | .bidirectional => "bidirectional"

instance : Worded DataFormat where
  members := [.json, .protobuf, .messagepack, .avro, .xml, .binary]
  word
    | .json => "json"
    | .protobuf => "protobuf"
    | .messagepack => "messagepack"
    | .avro => "avro"
    | .xml => "xml"
    | .binary => "binary"

instance : Worded Permission where
  members := [.start, .stop, .restart, .configure, .monitor, .scale, .deploy]
  word
    | .start => "start"
    | .stop => "stop"
    | .restart => "restart"
    | .configure => "configure"
    | .monitor => "monitor"
    | .scale => "scale"
    | .deploy => "deploy"

/-- The port an engine listens on. An embedded engine has none. -/
def DatabaseEngine.port? : DatabaseEngine → Option Nat
  | .postgres => some 5432
  | .mysql => some 3306
  | .mongodb => some 27017
  | .redis => some 6379
  | .sqlite => none

/-- The port clients of a NATS bus connect to. -/
def natsClientPort : Nat := 4222

/-- The ports a bus listens on, the client port first. -/
def BusType.ports : BusType → List Nat
  | .nats => [natsClientPort, 6222, 8222]
  | .kafka => [9092]
  | .rabbitmq => [5672, 15672]
  | .redis => [6379]

end Catalog
end Rollout
