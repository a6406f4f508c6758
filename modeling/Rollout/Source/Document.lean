import Rollout.Fault
import Rollout.Json.Reader
import Rollout.Schema.Check
import Rollout.Source.FileTree
import Rollout.Text.Utf8
import Rollout.Topology.Raw
import Rollout.Yaml.Reader

/-
Topology documents. A document is an object with lists of nodes and edges; only this
envelope is read here, payloads are passed on as they are. The name of a source tells the
format of its text. Files are taken as texts of Unicode characters: where an escape leaves a
surrogate alone, they are taken with U+FFFD in its place.
-/
namespace Rollout
namespace Source

/-! ## Faults -/

/-- What can be wrong with a topology document. -/
inductive DocumentFault where
  | badSyntax (source reason : String)
  | badEnvelope (source : String) (issues : Schema.Issues)
  | unsupported (name : String)
  deriving DecidableEq

namespace DocumentFault

def code : DocumentFault → Code
  | .badSyntax .. => .invalidDocument
  | .badEnvelope .. => .invalidDocument
  | .unsupported _ => .unsupportedFormat

def message : DocumentFault → String
  | .badSyntax source reason => "Failed to read topology from " ++ source ++ ": " ++ reason
  | .badEnvelope source issues => "Failed to parse topology from " ++ source ++ ": " ++ issues.text
  | .unsupported name => "Unsupported topology extension for " ++ name

end DocumentFault

/-- Why a topology file cannot be loaded. -/
inductive LoadFault where
  | unreadable (fault : ReadFault)
  | document (fault : DocumentFault)
  deriving DecidableEq

/-! ## The envelope -/

/-- The payload of a record, absent or anything. -/
def anything : Schema.Reader (Option Json) := .valid

def nodeRecordFields (ms : List (String × Json)) : Schema.Checked RawNode :=
  RawNode.mk <$> Schema.field "id" Schema.nonEmptyText ms <*> Schema.field "data" anything ms

def edgeRecordFields (ms : List (String × Json)) : Schema.Checked RawEdge :=
  RawEdge.mk <$> Schema.field "from" Schema.nonEmptyText ms
    <*> Schema.field "to" Schema.nonEmptyText ms
    <*> Schema.field "data" anything ms

/-- Both lists may be absent; ids and the ends of edges may not be empty. -/
def envelopeFields (ms : List (String × Json)) : Schema.Checked RawTopology :=
  RawTopology.mk
    <$> Schema.field "nodes"
      (Schema.orElse [] (Schema.items (Schema.object nodeRecordFields))) ms
    <*> Schema.field "edges"
      (Schema.orElse [] (Schema.items (Schema.object edgeRecordFields))) ms

def envelope : Schema.Reader RawTopology := Schema.object envelopeFields

/-- The source a document has that comes from no file. -/
def inlineSource : String := "<inline>"

/-- The raw topology of a document. -/
def ofDocument (document : Option Json) (source : String) : Except DocumentFault RawTopology :=
  match envelope document with
  | .valid raw => .ok raw
  | .faulty issues => .error (.badEnvelope source issues)

/-! ## Texts -/

inductive Format where
  | json | yaml
  deriving DecidableEq

/-- The format of a source: JSON for its own extension and YAML for all others, of which
JSON is nearly a part. -/
def Format.ofName (source : String) : Format :=
  if fileExtension source = ".json" then .json else .yaml

/-- The document a text denotes. -/
def documentOf (format : Format) (contents : String) : Except String Json :=
  match format with
  | .json =>
    match Json.read? contents with
    | some document => .ok document
    | none => .error "the text is no JSON document"
  | .yaml =>
    match Yaml.read contents with
    | .ok document => .ok document
    | .error fault => .error fault.message

/-- The raw topology of a text. -/
def ofText (contents source : String) : Except DocumentFault RawTopology :=
  match documentOf (Format.ofName source) contents with
  | .ok document => ofDocument (some document) source
  | .error reason => .error (.badSyntax source reason)

/-! ## Files -/

/-- The extensions of topology files. -/
def supportedExtensions : List String := [".json", ".yaml", ".yml"]

/-- The raw topology of a file. A file of another extension is not even read, and bytes
that are no UTF-8 are replaced. -/
def load (read : String → Except ReadFault Bytes) (path : String) : Except LoadFault RawTopology :=
  if !supportedExtensions.contains (fileExtension path) then
    .error (.document (.unsupported (fileName path)))
  else
    match read path with
    | .error fault => .error (.unreadable fault)
    | .ok bytes => (ofText (Text.ofUtf8 bytes) path).mapError .document

end Source
end Rollout
