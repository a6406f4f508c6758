import Rollout.Yaml.FlowForm.Node
import Rollout.Yaml.Node.OfOutline
import Rollout.Yaml.Repetition

/-
What a document means. Every key of a mapping becomes a text: a scalar the text of its value,
null the empty text, and a collection its flow form. Mappings can be merged into others,
whose own entries win.
-/
namespace Rollout
namespace Yaml

abbrev Finding (α : Type) := StateT Visits (Except Fault) α

def refuse {α : Type} (f : Fault) : Finding α := fun _ => .error f

/-- The value of a scalar. -/
def Content.value : Content → Json
  | .null => .null
  | .bool b => .bool b
  | .number n => .number n
  | .text s => .text s
  | .instant i => .instant i
  | .bytes values => .bytes values
  | .mergeMark => .mark

/-! ## Keys -/

def boolText (b : Bool) : String := if b then "true" else "false"

/-- The key that an entry has in an object. -/
def keyOf (d : Directives) (key : Node) : Json → Except Fault String
  | .null => .ok ""
  | .bool b => .ok (boolText b)
  | .number n => .ok n.text
  | .text s => .ok s
  | _ => FlowForm.keyText d key

mutual

/-- The key that a merged entry has in an object. -/
def mergedKey : Json → String
  | .null => "null"
  | .bool b => boolText b
  | .number n => n.text
  | .text s => s
  | .array items => String.intercalate "," (mergedParts items)
  | .object _ => "[object Object]"
  | .foreign .set _ => "[object Set]"
  | .foreign .orderedMapping _ => "[object Map]"
  | .foreign (.instant i) _ => i.longText
  | .foreign (.bytes values) _ => Text.ofUtf8 values
  | .foreign .mark _ => mergeText

/-- The parts of a list in such a key. Null leaves its part empty. -/
def mergedParts : List Json → List String
  | [] => []
  | .null :: rest => "" :: mergedParts rest
  | v :: rest => mergedKey v :: mergedParts rest

end

/-- Whether two values are the same key of an ordered mapping. -/
def sameKey : Json → Json → Bool
  | .null, .null => true
  | .bool a, .bool b => a == b
  | .number a, .number b => a == b
  | .text a, .text b => a == b
  | _, _ => false

/-- Whether an entry merges mappings into its own. In the older version an unquoted text is
enough. -/
def isMergeKey (d : Directives) : Node → Bool
  | .scalar _ s =>
    match s.reading.content with
    | .mergeMark => true
    | .text value => d.version = .older && s.style = .plain && value = mergeText
    | _ => false
  | _ => false

/-! ## Entries -/

/-- Entries with their keys as they are, in their order. -/
abbrev Entries := List (Json × Json)

/-- Puts an entry to the place its key already has, or else to the end. -/
def Entries.put (key value : Json) : Entries → Entries
  | [] => [(key, value)]
  | (k, v) :: rest =>
    if sameKey k key then (k, value) :: rest else (k, v) :: Entries.put key value rest

def Entries.has (es : Entries) (key : Json) : Bool := es.any fun e => sameKey e.1 key

/-- The value of an entry, null where it has none. -/
def valueOf (find : Node → Finding Json) : Option Node → Finding Json
  | some v => find v
  | none => return .null

/-- The entries that a merge brings: those of a mapping, or of all mappings of a sequence. -/
def mergedEntries (s : Scope) (entriesOf : Node → Finding Entries) (value : Option Node) :
    Finding Entries := do
  let ofMapping (n : Node) : Finding Entries :=
    match s.behind? n with
    | some (.mapping h sort entries) => entriesOf (.mapping h sort entries)
    | _ => refuse .badMerge
  match value.bind s.behind? with
  | some (.sequence _ items) => return (← items.mapM ofMapping).flatten
  | some (.pairs _ _ []) => return []
  | some n => ofMapping n
  | none => refuse .badMerge

/-- Adds an entry to an object, or what it merges. -/
def addMember (s : Scope) (find : Node → Finding Json) (entriesOf : Node → Finding Entries)
    (r : Record Json) (e : Node × Option Node) : Finding (Record Json) := do
  if isMergeKey s.directives e.1 then
    let merged ← mergedEntries s entriesOf e.2
    return merged.foldl
      (fun r (k, v) => if r.has (mergedKey k) then r else r.put (mergedKey k) v) r
  else
    let k ← find e.1
    let name ← keyOf s.directives e.1 k
    return r.put name (← valueOf find e.2)

/-- Adds an entry to those of a mapping that is merged, or what it merges in turn. -/
def addEntryOf (s : Scope) (find : Node → Finding Json) (entriesOf : Node → Finding Entries)
    (es : Entries) (e : Node × Option Node) : Finding Entries := do
  if isMergeKey s.directives e.1 then
    let merged ← mergedEntries s entriesOf e.2
    return merged.foldl (fun es (k, v) => if es.has k then es else es.put k v) es
  else
    let k ← find e.1
    return es.put k (← valueOf find e.2)

/-- Finds the key of a set. -/
def findKey (s : Scope) (find : Node → Finding Json) (e : Node × Option Node) : Finding Json :=
  if isMergeKey s.directives e.1 then refuse .badMerge else find e.1

/-- A key of a set as an entry: a text is taken for its first two characters, an array for
its first two items. -/
def entryOfKey? : Json → Except Fault (Option (Json × Json))
  | .text s =>
    match s.toList with
    | k :: v :: _ => .ok (some (.text k.toString, .text v.toString))
    | _ => .ok none
  | .array (k :: v :: _) => .ok (some (k, v))
  | .array _ => .ok none
  | _ => .error .badMerge

/-- Checks that the keys of an ordered mapping differ. -/
def differ : List Json → Bool
  | [] => true
  | k :: rest => !rest.any (sameKey k) && differ rest

/-! ## Nodes -/

/-- Finds the value of a node with an anchor, and remembers it. -/
def visiting (anchor : Option Anchor) (find : Finding Json) : Finding Json :=
  match anchor with
  | none => find
  | some a => do
    modify (Visits.start a.offset)
    let v ← find
    modify (Visits.change a.offset fun visit => { visit with value := some v })
    return v

/-- Takes the value that an alias repeats, and lays it out anew by `again` where it is being
found itself. -/
def repeated (s : Scope) (find again : Node → Finding Json) (name : String) (offset : Nat) :
    Finding Json := do
  match s.source? name offset with
  | none => refuse (.unknownAlias name)
  | some (a, source) =>
    if ((← get).lookup a.offset).isNone then
      let _ ← find source
    modify (Visits.change a.offset fun visit => { visit with uses := visit.uses + 1 })
    let visits ← get
    modify (Visits.change a.offset fun visit =>
      { visit with weight := if visit.weight = 0 then weight s visits source else visit.weight })
    match (← get).lookup a.offset with
    | none => refuse (.unknownAlias name)
    | some visit =>
      if greatestLoad < visit.load then refuse .excessiveAliases
      else
        match visit.value with
        | some v => return v
        | none => return ((again source visits).toOption.map (·.1)).getD (stub source)

mutual

/-- The value of a node. -/
def find (s : Scope) : Nat → Nat → Node → Finding Json
  | 0, _, _ => refuse .tooDeep
  | depth + 1, turns, n =>
    let inner := find s depth turns
    let merged := entriesOf s depth turns
    match n with
    | .repetition name offset _ =>
      let again (source : Node) : Finding Json :=
        if turns = 0 then return stub source else find s depth (turns - 1) source
      repeated s inner again name offset
    | .scalar h v => visiting h.anchor (return v.reading.content.value)
    | .sequence h items => visiting h.anchor (return .array (← items.mapM inner))
    | .mapping h .record entries =>
      visiting h.anchor (return .object (← entries.foldlM (addMember s inner merged) []))
    | .mapping h .set entries =>
      visiting h.anchor do
        let _ ← entries.mapM (findKey s inner)
        return .set
    | .pairs h .records entries =>
      visiting h.anchor do
        return .array (← entries.mapM fun e => Json.object <$> addMember s inner merged [] e)
    | .pairs h .orderedMapping entries =>
      visiting h.anchor do
        let keys ← entries.mapM fun e => do
          let k ← inner e.1
          let _ ← valueOf inner e.2
          return k
        if differ keys then return .orderedMapping else refuse .duplicateEntry

/-- The entries of a mapping that is merged into another. -/
def entriesOf (s : Scope) : Nat → Nat → Node → Finding Entries
  | 0, _, _ => refuse .tooDeep
  | depth + 1, turns, n =>
    let inner := find s depth turns
    match n with
    | .mapping _ .record entries =>
      entries.foldlM (addEntryOf s inner (entriesOf s depth turns)) []
    | .mapping _ .set entries => do
      let keys ← entries.mapM (findKey s inner)
      return (← keys.mapM fun k => (entryOfKey? k : Finding _)).filterMap id
    | _ => refuse .badMerge

end

/-- The value of a document. The depth bounds how deeply its nodes are nested. -/
def Document.value (depth : Nat) (d : Document) : Except Fault Json :=
  let s : Scope := ⟨d.directives, d.root.anchored⟩
  ((find s (depth * depth) (turnsFor (aliases d.root)) d.root).run []).map (·.1)

end Yaml
end Rollout
