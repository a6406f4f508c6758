import Rollout.Json.Basic
import Rollout.Text.LowerCase

/-
Redaction of payloads. A value under a sensitive key is replaced, whatever it is; all
other values keep their place and, if JSON has them, their shape. Members under `__proto__`
are dropped.
-/
namespace Rollout
namespace Log

def redactionMark : String := "[REDACTED]"

/-- The keys that are sensitive as a whole, in lower case. -/
def sensitiveKeys : List String :=
  ["authorization", "proxy-authorization", "x-api-key", "api-key", "api_key", "token",
    "access_token", "refresh_token", "password", "secret", "cookie", "set-cookie"]

/-- The endings that make a key sensitive, in lower case. -/
def sensitiveEndings : List String := ["password", "secret", "token", "api_key"]

/-- Whether values under a key are hidden. Case does not matter. -/
def isSensitive (key : String) : Bool :=
  let lower := Text.lowerCase key
  sensitiveKeys.contains lower
    || sensitiveEndings.any fun ending => ending.toList.isSuffixOf lower.toList

/-- What is left of a value that JSON lacks: an object with the members that it has, which
are none but for bytes. The mark is no object and stays. -/
def redactForeign (shown : Json) : Foreign → Json
  | .set | .orderedMapping | .instant _ => .object []
  | .bytes values => .object (Json.byteMembers values)
  | .mark => .foreign .mark shown

mutual

def redact : Json → Json
  | .array items => .array (redactItems items)
  | .object members => .object (redactMembers members)
  | .null => .null
  | .bool b => .bool b
  | .number n => .number n
  | .text s => .text s
  | .foreign sort shown => redactForeign shown sort

def redactItems : List Json → List Json
  | [] => []
  | v :: rest => redact v :: redactItems rest

def redactMembers : List (String × Json) → List (String × Json)
  | [] => []
  | (k, v) :: rest =>
    if k = Record.droppedKey then redactMembers rest
    else if isSensitive k then (k, .text redactionMark) :: redactMembers rest
    else (k, redact v) :: redactMembers rest

end

end Log
end Rollout
