import Rollout.Catalog.Edge
import Rollout.Schema.Node

/-
Payloads of edges, read and written in the same way as those of nodes.
-/
namespace Rollout
namespace Schema

open Catalog

/-! ## Reading -/

def dataVolumeFields (ms : List (String × Json)) : Checked DataVolume :=
  DataVolume.mk <$> field "messagesPerSecond" nonNegative ms
    <*> field "averageSizeBytes" natural ms
    <*> field "peakMultiplier" nonNegative ms

def edgeFields : EdgeKind → List (String × Json) → Checked Edge
  | .dependsOn, ms =>
    Edge.dependsOn <$> field "required" flag ms
      <*> field "startupDelaySeconds" (optional nonNegative) ms
  | .connectsTo, ms =>
    Edge.connectsTo <$> field "protocol" (choice Protocol) ms
      <*> field "port" port ms
      <*> field "encrypted" (orElse false flag) ms
  | .mountsVolume, ms =>
    Edge.mountsVolume <$> field "mountPath" text ms <*> field "readOnly" (orElse false flag) ms
  | .loadBalances, ms =>
    Edge.loadBalances <$> field "weight" (optional natural) ms
      <*> field "healthCheck" (orElse true flag) ms
  | .dataFlow, ms =>
    Edge.dataFlow <$> field "direction" (choice FlowDirection) ms
      <*> field "format" (choice DataFormat) ms
      <*> field "volume" (optional (object dataVolumeFields)) ms
  | .publishesTo, ms =>
    Edge.publishesTo <$> field "topic" text ms <*> field "rateLimit" (optional natural) ms
  | .subscribesTo, ms =>
    Edge.subscribesTo <$> field "topic" text ms <*> field "consumerGroup" (optional text) ms
  | .manages, ms =>
    Edge.manages <$> field "permissions" (orElse [] (items (choice Permission))) ms

def edge : Reader Edge := byKind EdgeKind edgeFields

/-! ## Writing -/

def dataVolumeJson (v : DataVolume) : Json :=
  .object
    [("messagesPerSecond", .number v.messagesPerSecond),
      ("averageSizeBytes", .nat v.averageSizeBytes), ("peakMultiplier", .number v.peakMultiplier)]

def edgeJson (e : Edge) : Json :=
  let kind := ("kind", some (wordJson e.kind))
  match e with
  | .dependsOn required delay =>
    present
      [kind, ("required", some (.bool required)), ("startupDelaySeconds", delay.map .number)]
  | .connectsTo protocol port encrypted =>
    present
      [kind, ("protocol", some (wordJson protocol)), ("port", some (.nat port)),
        ("encrypted", some (.bool encrypted))]
  | .mountsVolume path readOnly =>
    present [kind, ("mountPath", some (.text path)), ("readOnly", some (.bool readOnly))]
  | .loadBalances weight healthCheck =>
    present [kind, ("weight", weight.map .nat), ("healthCheck", some (.bool healthCheck))]
  | .dataFlow direction format volume =>
    present
      [kind, ("direction", some (wordJson direction)), ("format", some (wordJson format)),
        ("volume", volume.map dataVolumeJson)]
  | .publishesTo topic rateLimit =>
    present [kind, ("topic", some (.text topic)), ("rateLimit", rateLimit.map .nat)]
  | .subscribesTo topic group =>
    present [kind, ("topic", some (.text topic)), ("consumerGroup", group.map .text)]
  | .manages permissions =>
    present [kind, ("permissions", some (.array (permissions.map wordJson)))]

end Schema
end Rollout
