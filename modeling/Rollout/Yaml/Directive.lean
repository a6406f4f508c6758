import Rollout.Record
import Rollout.Text.Blank
import Rollout.Yaml.Character
import Rollout.Yaml.Scalar

/-
Directives of a document: the version of YAML it is written in, and the short forms of
tags. A tag is resolved by the prefix its handle stands for, and written in the short form
of the first prefix it begins with.
-/
namespace Rollout
namespace Yaml

structure Directives where
  version : Version
  /-- The prefixes under their handles. -/
  tags : Record String

namespace Directives

def standard : Directives := ⟨.current, [("!!", tagPrefix)]⟩

/-- The words of a text between blanks. -/
def words : List Char → List (List Char)
  | [] => [[]]
  | c :: rest =>
    if isBlank c then
      match words rest with
      | [] :: more => [] :: more
      | pieces => [] :: pieces
    else
      match words rest with
      | piece :: more => (c :: piece) :: more
      | [] => [[c]]

/-- Whether a version is written as two numbers with a point between them. -/
def isVersion (cs : List Char) : Bool :=
  let whole := cs.takeWhile Decimal.isDigit
  match cs.drop whole.length with
  | '.' :: more => !whole.isEmpty && !more.isEmpty && more.all Decimal.isDigit
  | _ => false

/-- Follows a directive. Unknown ones are passed over, and so are versions that are neither
of the two. -/
def follow (d : Directives) (line : List Char) : Except Fault Directives :=
  match words (Text.trim (String.ofList line)).toList with
  | name :: operands =>
    if name = "%TAG".toList then
      match operands with
      | [handle, tag] =>
        .ok { d with tags := Record.put d.tags (String.ofList handle) (String.ofList tag) }
      | _ => .error .directive
    else if name = "%YAML".toList then
      match operands with
      | [version] =>
        if version = "1.2".toList then .ok { d with version := .current }
        else if version = "1.1".toList then .ok { d with version := .older }
        else if isVersion version then .ok d
        else .error .directive
      | _ => .error .directive
    else .ok d
  | [] => .ok d

/-! ## Tags -/

/-- A text with its percent codes resolved, unless they are no UTF-8. -/
def decoded? (cs : List Char) : Option String :=
  let rec bytes : List Char → Option (List UInt8)
    | [] => some []
    | '%' :: a :: b :: rest => do
      let high ← Json.hexValue a
      let low ← Json.hexValue b
      let more ← bytes rest
      return UInt8.ofNat (high * 16 + low) :: more
    | '%' :: _ => none
    | c :: rest => (bytes rest).map ((String.singleton c).toUTF8.toList ++ ·)
  (bytes cs).bind fun bs => String.fromUTF8? bs.toByteArray

/-- The tag that a token denotes, if it is any. The lone sign `!` is kept: it makes a text of
any scalar. A handle that is not declared has no meaning, except that `!` alone starts tags
of the document's own. -/
def tag? (d : Directives) (source : List Char) : Except Fault (Option String) :=
  let whole := String.ofList source
  match source with
  | ['!'] => .ok (some whole)
  | '!' :: '<' :: rest =>
    let inside := rest.take (rest.length - 1)
    if rest.getLast? != some '>' || inside = ['!'] || inside = ['!', '!'] then .error (.badTag whole)
    else if inside.isEmpty then .ok none
    else .ok (some (String.ofList inside))
  | _ =>
    let suffix := (source.reverse.takeWhile (· != '!')).reverse
    let handle := String.ofList (source.take (source.length - suffix.length))
    if suffix.isEmpty then .error (.badTag whole)
    else
      match d.tags.get? handle with
      | some start =>
        match decoded? suffix with
        | some s => .ok (some (start ++ s))
        | none => .error (.badTag whole)
      | none => if handle = "!" then .ok (some whole) else .error (.badTag whole)

/-- A character of a tag that a flow collection would take for its own is written in code. -/
def escapedTagChar (c : Char) : List Char :=
  if c = '!' then ['%', '2', '1']
  else if c = ',' then ['%', '2', 'C']
  else if c = '[' then ['%', '5', 'B']
  else if c = ']' then ['%', '5', 'D']
  else if c = '\x7b' then ['%', '7', 'B']
  else if c = '\x7d' then ['%', '7', 'D']
  else [c]

/-- The written form of a tag. -/
def tagText (d : Directives) (tag : String) : List Char :=
  let short := d.tags.findSome? fun (handle, start) =>
    (Json.strip start.toList tag.toList).map fun rest =>
      handle.toList ++ rest.flatMap escapedTagChar
  match short, tag.toList with
  | some cs, _ => cs
  | none, '!' :: rest => '!' :: rest
  | none, cs => '!' :: '<' :: (cs ++ ['>'])

end Directives
end Yaml
end Rollout
