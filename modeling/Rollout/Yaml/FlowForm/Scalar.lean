import Rollout.Text.Utf8
import Rollout.Yaml.FlowForm.Number
import Rollout.Yaml.FlowForm.Text

/-
Scalars as they are written inside flow collections. What a scalar denotes and its tag tell
how it is written; null and truth values keep the word they had.
-/
namespace Rollout
namespace Yaml
namespace FlowForm

/-- The names of tags that make nothing else of a text, so that no form needs quotes under
them. -/
def collectionTags : Version → List String
  | .current => ["map", "seq"]
  | .older => ["map", "seq", "set", "omap", "pairs"]

/-- The least width of a line of bytes. -/
def bytesWidth (p : Place) : Nat := max (Folding.lineWidth - p.indent) Folding.contentWidth

/-- Cuts a text into pieces of the given width. -/
def chunks (width : Nat) : Nat → List Char → List (List Char)
  | 0, _ => []
  | fuel + 1, cs =>
    if cs.isEmpty then [] else cs.take width :: chunks width fuel (cs.drop width)

/-- Bytes in base 64, over several lines unless they are in double quotes. -/
def bytes (version : Version) (p : Place) (style : Style) (values : List Nat) : List Char :=
  let whole := Text.toBase64 values
  let separator := if style = .block then '\n' else ' '
  let written :=
    if style = .doubleQuoted then whole
    else [separator].intercalate (chunks (bytesWidth p) whole.length whole)
  text version false p style (String.ofList written)

/-- A text with the tag it has. A text that does not have the form of its tag is written as
that form has it. -/
def taggedText (version : Version) (tag : Option String) (p : Place) (style : Style) (s : String) :
    Except Fault (List Char) :=
  let asText (guarded : Bool) : Except Fault (List Char) := .ok (text version guarded p style s)
  let ofNoTag : Except Fault (List Char) :=
    if version = .older && s = mergeText then .ok mergeText.toList else asText true
  match tag.bind shortTag? with
  | none => ofNoTag
  | some name =>
    if name = "str" then asText true
    else if name = "null" then .ok "null".toList
    else if name = "bool" then .ok (if s.isEmpty then "false".toList else "true".toList)
    else if name = "int" || name = "float" then .ok (textAsNumber s)
    else if (collectionTags version).contains name then asText false
    else if version = .older && name = "merge" then .ok mergeText.toList
    else if version = .older && name = "timestamp" then .error (.badForm name)
    else ofNoTag

/-- The written form of a scalar. -/
def scalar (version : Version) (tag : Option String) (p : Place) (s : Scalar) :
    Except Fault (List Char) :=
  match s.reading.content with
  | .null | .bool _ => .ok s.source.toList
  | .number n => .ok (number version tag s.reading s.source n)
  | .text value => taggedText version tag p s.style value
  | .instant value => .ok value.shortText.toList
  | .bytes values => .ok (bytes version p s.style values)
  | .mergeMark => .ok mergeText.toList

/-- What is written for a collection under the tag of a scalar form. -/
def misfit? (version : Version) (tag : Option String) : Option (List Char) :=
  (tag.bind shortTag?).bind fun name =>
    if name = "str" then some "undefined".toList
    else if name = "null" then some "null".toList
    else if name = "bool" then some "false".toList
    else if name = "int" || name = "float" then some ".nan".toList
    else if version = .older && (name = "binary" || name = "timestamp") then some []
    else if version = .older && name = "merge" then some mergeText.toList
    else none

end FlowForm
end Yaml
end Rollout
