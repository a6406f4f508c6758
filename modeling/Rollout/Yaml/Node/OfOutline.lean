import Rollout.Yaml.Node.OfEntries

/-
The nodes that outlines stand for, and the document of a text. A collection is what its
tag says: a set is a mapping without values, and pairs and ordered mappings are sequences
whose items are pairs.
-/
namespace Rollout
namespace Yaml
namespace Node

/-! ## Collections with tags -/

/-- Whether the items of a mapping are those of a set: no entry has a value but an unmarked
null. -/
def isSetEntry (e : Node × Option Node) : Bool :=
  match e.2 with
  | none => true
  | some v => v.isNull && v.notes.before.isNone && v.notes.after.isNone
      && (v.head?.bind (·.tag)).isNone

/-- A comment in front of one that may be there already. -/
def beforeNote (note other : Option String) : Option String :=
  match note, other with
  | some a, some b => some (a ++ "\n" ++ b)
  | some a, none => some a
  | none, b => b

/-- The null that stands where an item has no key. -/
def nothing : Node := .scalar {} ⟨{ content := .null }, .plain, "null"⟩

/-- An item of a sequence as a pair. A mapping of one entry is that entry, with the comments
on the mapping, and any other node is a key. -/
def pairOf : Node → Except Fault (Node × Option Node)
  | .mapping h _ entries =>
    match entries with
    | _ :: _ :: _ => .error (.badForm "pairs")
    | entries =>
      let (k, v) := entries.headD (nothing, none)
      let k' := k.withNotes fun n => { n with before := beforeNote h.notes.before n.before }
      let add (n : Notes) : Notes := { n with after := beforeNote h.notes.after n.after }
      .ok (match v with
        | some value => (k', some (value.withNotes add))
        | none => (k'.withNotes add, none))
  | n => .ok (n, none)

/-- Whether two keys of an ordered mapping are the same. Here the value that is no number
equals itself. -/
def repeats : Node → Node → Bool
  | .scalar _ a, .scalar _ b =>
    match a.reading.content, b.reading.content with
    | .number .notANumber, .number .notANumber => true
    | c, e => c.same e
  | _, _ => false

/-- Whether a key comes twice. -/
def hasRepeatedKey : List (Node × Option Node) → Bool
  | [] => false
  | (k, _) :: rest => rest.any (fun e => repeats k e.1) || hasRepeatedKey rest

/-- A mapping as its tag has it. -/
def taggedMapping (h : Head) (entries : List (Node × Option Node)) : Except Fault Node :=
  if h.tag = some (tagPrefix ++ "set") then
    if entries.all isSetEntry then .ok (.mapping h .set entries) else .error (.badForm "set")
  else .ok (.mapping h .record entries)

/-- A sequence as its tag has it. -/
def taggedSequence (h : Head) (items : List Node) : Except Fault Node := do
  let ordered := h.tag = some (tagPrefix ++ "omap")
  if ordered || h.tag = some (tagPrefix ++ "pairs") then
    let entries ← items.mapM pairOf
    if ordered && hasRepeatedKey entries then throw .duplicateEntry
    else return .pairs h (if ordered then .orderedMapping else .records) entries
  else return .sequence h items

/-- Checks that a line break stands behind the properties of a block sequence. -/
def checkBlockProps (props : Props) : Except Fault Unit :=
  let last := max ((props.anchor.map (·.offset)).getD 0) ((props.tag.map (·.offset)).getD 0)
  if (props.anchor.isSome || props.tag.isSome) && !props.newlineBehind.any (last ≤ ·) then
    .error (.missing "a line break")
  else .ok ()

/-- The head of a collection. The lone sign stands for the tag of its sort. -/
def collectionHead (d : Directives) (props : Props) (sort : String) (comment : Option String) :
    Except Fault Head := do
  let anchor ← anchorOf props
  let tag ← tagOf d props
  let notes : Notes := { spaced := props.spaced, before := noteOf props.comment, after := comment }
  return ⟨anchor, if tag = some "!" then some (tagPrefix ++ sort) else tag, notes⟩

/-! ## Nodes -/

/-- The node of an outline. -/
def compose (d : Directives) : Nat → Bool → Inner
  | 0, _, _, _, _ => .error .tooDeep
  | depth + 1, atRoot, o, props, atKey =>
    let inner := compose d depth false
    match o with
    | .leaf kind text offset _ tail => ofLeaf d atKey kind text offset tail props
    | .block header text offset indent => ofBlock d atRoot atKey header text offset indent props
    | .mapping offset indent slots => do
      let g ← blockEntries inner d depth offset indent slots
      let h ← collectionHead d props "map" g.comment
      return ⟨← taggedMapping h g.entries, g.finish⟩
    | .sequence offset indent slots => do
      checkBlockProps props
      let g ← blockItems inner d offset indent slots
      let h ← collectionHead d props "seq" g.comment
      return ⟨← taggedSequence h g.entries, g.finish⟩
    | .flow opening _ slots tail => do
      let g ← flowEntries inner d depth opening slots tail
      if opening.kind = .openMapping then
        let h ← collectionHead d props "map" g.comment
        return ⟨← taggedMapping h g.entries, g.finish⟩
      else
        let h ← collectionHead d props "seq" g.comment
        return ⟨← taggedSequence h (g.entries.map (·.1)), g.finish⟩

/-- The root node of a document, and whether a marker starts the document. -/
def ofDocument (d : Directives) (depth : Nat) (o : DocumentOutline) : Except Fault (Node × Bool) := do
  let next : Next :=
    match o.root, o.tail.getLast? with
    | some root, _ => .node root
    | none, some t => .token t.kind
    | none, none => .nothing
  let props ← Props.read
    { inFlow := false, indicator := .documentStart, next := next, offset := o.offset, around := 0,
      fresh := true } o.start
  if props.found.isSome && o.root.any Outline.isBlockCollection && !props.hasNewline then
    throw .nestedOnOneLine
  let root ← (match o.root with
    | some root => compose d depth true root props false
    | none => ofNothing d false o.start props)
  let _ ← tailComment false o.tail
  return (root.node, props.found.isSome)

end Node

/-! ## Documents -/

/-- A document with the directives it was read by. -/
structure Document where
  directives : Directives
  root : Node

/-- The parts of a text that have been gone through. -/
structure Reached where
  directives : Directives
  /-- Whether directives wait for a document. -/
  directed : Bool
  document : Option Document

/-- Goes through a part of a text. There is one document at most, directives have to be
followed by a marker, and an end marker by nothing but a comment. -/
def Reached.follow (depth : Nat) (r : Reached) (p : Part) : Except Fault Reached := do
  match p with
  | .directive text => return { r with directives := ← r.directives.follow text, directed := true }
  | .document o =>
    let (root, marked) ← Node.ofDocument r.directives depth o
    if r.document.isSome then throw .severalDocuments
    else if r.directed && !marked then throw .directive
    else return { r with directed := false, document := some ⟨r.directives, root⟩ }
  | .documentEnd tail =>
    if r.document.isNone then throw (.unexpected "...")
    let _ ← tailComment true tail
    return r

/-- The document of a text in parts. Where there is none, the text means null. -/
def documentOf (depth : Nat) (parts : List Part) : Except Fault Document := do
  let r ← parts.foldlM (Reached.follow depth) ⟨.standard, false, none⟩
  match r.document with
  | some document => return document
  | none => if r.directed then throw .directive else return ⟨.standard, Node.nothing⟩

end Yaml
end Rollout
