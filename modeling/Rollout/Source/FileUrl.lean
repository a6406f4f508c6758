import Rollout.Source.Url.Host

/-
File URLs and the paths they stand for. Of a URL only the scheme, the host and the path
matter here; a query or a fragment is cut off. Dot segments are taken out before the
path is decoded, an encoded slash is no slash, and a path may start with a drive. URLs of
other schemes are only told from texts that are no URLs.
-/
namespace Rollout
namespace Source

/-- Why a URL stands for no path. -/
inductive UrlFault where
  | invalid
  | otherScheme
  | foreignHost
  | encodedSlash
  | badEncoding
  deriving DecidableEq

namespace UrlFault

/-- The code of the fault, or the name of its sort where it has no code. -/
def code : UrlFault → String
  | .invalid => "ERR_INVALID_URL"
  | .otherScheme => "ERR_INVALID_URL_SCHEME"
  | .foreignHost => "ERR_INVALID_FILE_URL_HOST"
  | .encodedSlash => "ERR_INVALID_FILE_URL_PATH"
  | .badEncoding => "URIError"

def message : UrlFault → String
  | .invalid => "Invalid URL"
  | .otherScheme => "The URL must be of scheme file"
  | .foreignHost => "File URL host must be \"localhost\" or empty on linux"
  | .encodedSlash => "File URL path must not include encoded / characters"
  | .badEncoding => "URI malformed"

end UrlFault

namespace FileUrl

def isLetter (c : Char) : Bool :=
  (decide ('a' ≤ c) && decide (c ≤ 'z')) || (decide ('A' ≤ c) && decide (c ≤ 'Z'))

def isSchemeChar (c : Char) : Bool :=
  isLetter c || (decide ('0' ≤ c) && decide (c ≤ '9')) || c = '+' || c = '-' || c = '.'

/-- An ASCII letter in lower case. -/
def lower (c : Char) : Char :=
  if decide ('A' ≤ c) && decide (c ≤ 'Z') then Char.ofNat (c.toNat + 32) else c

/-- A URL without the controls and spaces around it and the line breaks and tabs in it. -/
def cleaned (url : String) : List Char :=
  let outer (c : Char) : Bool := decide (c.toNat ≤ 0x20)
  let inner := ((url.toList.dropWhile outer).reverse.dropWhile outer).reverse
  inner.filter fun c => !(c = '\t' || c = '\n' || c = '\r')

/-- The scheme of a URL in lower case, and what follows its colon. -/
def scheme? (cs : List Char) : Option (String × List Char) :=
  match cs with
  | [] => none
  | c :: _ =>
    match cs.dropWhile isSchemeChar with
    | ':' :: rest =>
      if isLetter c then some (String.ofList ((cs.takeWhile isSchemeChar).map lower), rest)
      else none
    | _ => none

def isSlash (c : Char) : Bool := c = '/' || c = '\\'

def endsPath (c : Char) : Bool := c = '?' || c = '#'

/-! ## Other schemes -/

/-- Schemes besides that of files which cannot do without a host. -/
def hostSchemes : List String := ["http", "https", "ws", "wss", "ftp"]

/-- Splits a host from the port behind it. A colon inside brackets belongs to the host. -/
def hostAndPort (inBrackets : Bool) : List Char → List Char × Option (List Char)
  | [] => ([], none)
  | c :: rest =>
    if c = ':' && !inBrackets then ([], some rest)
    else
      let inside := c = '[' || (inBrackets && c != ']')
      let (host, port) := hostAndPort inside rest
      (c :: host, port)

def greatestPort : Nat := 65535

def isPort (cs : List Char) : Bool :=
  cs.all Decimal.isDigit && decide (Decimal.ofDigits cs ≤ greatestPort)

/-- Whether the part of a URL between its scheme and its path is in order: a host, with a
user in front of it and a port behind it if need be. -/
def isAuthority (common : Bool) (cs : List Char) : Bool :=
  let behindUser := (cs.reverse.takeWhile (· != '@')).reverse
  let (host, port) := hostAndPort false behindUser
  let required := common || cs.contains '@' || port.isSome
  !(host.isEmpty && required) && (host.isEmpty || (Url.host? common host).isSome)
    && port.all isPort

/-- Whether a URL of another scheme is a URL at all. -/
def otherUrl (scheme : String) (rest : List Char) : Bool :=
  if hostSchemes.contains scheme then
    isAuthority true ((rest.dropWhile isSlash).takeWhile fun c => !(isSlash c || endsPath c))
  else
    match rest with
    | '/' :: '/' :: more => isAuthority false (more.takeWhile fun c => !(c = '/' || endsPath c))
    | _ => true

/-! ## Paths -/

/-- Whether a segment names a drive: a letter with a colon or what stands for one. -/
def isDrive : List Char → Bool
  | [c, d] => isLetter c && (d = ':' || d = '|')
  | _ => false

/-- How many dots a segment consists of, encoded or not; zero for any other segment. -/
def dots : List Char → Nat
  | ['.'] | ['%', '2', 'e'] | ['%', '2', 'E'] => 1
  | '.' :: rest | '%' :: '2' :: 'e' :: rest | '%' :: '2' :: 'E' :: rest =>
    match rest with
    | ['.'] | ['%', '2', 'e'] | ['%', '2', 'E'] => 2
    | _ => 0
  | _ => 0

/-- Adds a segment to a path, whose segments are held in reverse. A drive in front has a
colon. -/
def addSegment (s : List Char) : List (List Char) → List (List Char)
  | [] => [if isDrive s then s.take 1 ++ [':'] else s]
  | kept => s :: kept

/-- The way to the parent. There is none above a drive. -/
def parent : List (List Char) → List (List Char)
  | [drive] => if isDrive drive then [drive] else []
  | kept => kept.tail

/-- The segments without dot segments. One at the end leaves an empty segment. -/
def straightened (kept : List (List Char)) : List (List Char) → List (List Char)
  | [] => kept.reverse
  | s :: rest =>
    let kept' :=
      match dots s with
      | 0 => addSegment s kept
      | 1 => kept
      | _ => parent kept
    straightened (if rest.isEmpty && dots s != 0 then addSegment [] kept' else kept') rest

/-- The host and the path behind the scheme of files. A drive in the place of the host is the
start of the path. -/
def hostAndPath (rest : List Char) : List Char × List Char :=
  let whole := rest.takeWhile fun c => !endsPath c
  match whole with
  | c :: d :: more =>
    if isSlash c && isSlash d then
      let host := more.takeWhile (!isSlash ·)
      if isDrive host then ([], more) else (host, (more.drop host.length).tail)
    else if isSlash c then ([], d :: more)
    else ([], whole)
  | [c] => ([], if isSlash c then [] else whole)
  | [] => ([], [])

def hasEncodedSlash : List Char → Bool
  | '%' :: '2' :: 'f' :: _ | '%' :: '2' :: 'F' :: _ => true
  | _ :: rest => hasEncodedSlash rest
  | [] => false

/-- The bytes of a text with its percent codes resolved. -/
def bytesOf : List Char → Option (List UInt8)
  | [] => some []
  | '%' :: a :: b :: rest => do
    let high ← Json.hexValue a
    let low ← Json.hexValue b
    let more ← bytesOf rest
    return UInt8.ofNat (high * 16 + low) :: more
  | '%' :: _ => none
  | c :: rest => (bytesOf rest).map ((String.singleton c).toUTF8.toList ++ ·)

/-- The host that stands for none. -/
def localHost : List Char := "localhost".toList

/-- The path a URL stands for. -/
def path (url : String) : Except UrlFault String :=
  match scheme? (cleaned url) with
  | none => .error .invalid
  | some (scheme, rest) =>
    if scheme != "file" then .error (if otherUrl scheme rest then .otherScheme else .invalid)
    else
      let (host, behind) := hostAndPath rest
      let straight := '/' :: ['/'].intercalate (straightened [] (splitAt isSlash behind))
      match if host.isEmpty then some localHost else Url.host? true host with
      | none => .error .invalid
      | some host' =>
        if host' != localHost then .error .foreignHost
        else if hasEncodedSlash straight then .error .encodedSlash
        else
          match (bytesOf straight).bind fun bytes => String.fromUTF8? bytes.toByteArray with
          | some s => .ok s
          | none => .error .badEncoding

end FileUrl
end Source
end Rollout
