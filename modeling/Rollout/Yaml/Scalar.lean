import Rollout.Instant
import Rollout.Json.Reader
import Rollout.Number.Shortest
import Rollout.Text.Base64
import Rollout.Yaml.Fault

/-
Scalars: what their texts denote. A version of YAML has forms for null, truth values,
numbers and times; the first form that a plain text has tells its value, and a text of no
form is itself. A tag allows the forms of its own kind only.
-/
namespace Rollout
namespace Yaml

/-- The versions of YAML. The older one has more forms of scalars. -/
inductive Version where
  | current | older
  deriving DecidableEq

/-- What a scalar denotes. -/
inductive Content where
  | null
  | bool (value : Bool)
  | number (value : Number)
  | text (value : String)
  | instant (value : Instant)
  | bytes (values : List Nat)
  /-- The key under which mappings are merged. -/
  | mergeMark

/-- Whether two keys are the same. A text is never a number, and the value that is no
number equals nothing, nor does anything that is not simple. -/
def Content.same : Content → Content → Bool
  | .null, .null => true
  | .bool a, .bool b => a == b
  | .number a, .number b => a.same b
  | .text a, .text b => a == b
  | _, _ => false

/-- How a number was written. -/
inductive Format where
  | usual | binary | octal | hexadecimal | exponent | sexagesimal
  deriving DecidableEq

/-- The content of a text with what its writing is kept for: the format, and how many
fraction digits it has where the last of them is zero. -/
structure Reading where
  content : Content
  format : Format := .usual
  fraction : Nat := 0

/-- A form of scalars: the short name of its tag, and how a text of the form is read. -/
structure Form where
  tag : String
  read : String → Option Reading

/-! ## Forms of the current version -/

def null? (s : String) : Option Reading :=
  if ["", "~", "null", "Null", "NULL"].contains s then some { content := .null } else none

def wordOf (words : List String) (value : Bool) (s : String) : Option Reading :=
  if words.contains s then some { content := .bool value } else none

def bool? (s : String) : Option Reading :=
  (wordOf ["true", "True", "TRUE"] true s).or (wordOf ["false", "False", "FALSE"] false s)

/-- A sign in front of a text, and what follows it. -/
def signed : List Char → Bool × List Char
  | '-' :: cs => (true, cs)
  | '+' :: cs => (false, cs)
  | cs => (false, cs)

def withSign (negative : Bool) (n : Number) : Number := if negative then Decimal.negated n else n

/-- The number that digits of a base write; none where another character stands, and the
value that is no number for no digits at all. -/
def based? (base : Nat) (digits : List Char) : Option Number :=
  let values := digits.map Json.hexValue
  if !values.all (fun v => v.any (· < base)) then none
  else if digits.isEmpty then some .notANumber
  else some (Binary64.nearest (values.foldl (fun acc v => acc * base + v.getD 0) 0 : Nat))

def octal? (s : String) : Option Reading :=
  match s.toList with
  | '0' :: 'o' :: d :: ds =>
    (based? 8 (d :: ds)).map fun n => { content := .number n, format := .octal }
  | _ => none

def hexadecimal? (s : String) : Option Reading :=
  match s.toList with
  | '0' :: 'x' :: d :: ds =>
    (based? 16 (d :: ds)).map fun n => { content := .number n, format := .hexadecimal }
  | _ => none

def whole? (s : String) : Option Reading :=
  if (signed s.toList).2.all Decimal.isDigit then
    (Decimal.readLiteral s).map fun n => { content := .number n }
  else none

/-- An infinity, or the value that is no number. -/
def special? (s : String) : Option Reading :=
  let infinities := [".inf", ".Inf", ".INF"]
  let (negative, behind) := signed s.toList
  if [".nan", ".NaN", ".NAN"].contains s then some { content := .number .notANumber }
  else if infinities.contains (String.ofList behind) then
    some { content := .number (if negative then .negInfinity else .infinity) }
  else none

def hasExponent (s : String) : Bool := s.toList.any fun c => c = 'e' || c = 'E'

def exponential? (s : String) : Option Reading :=
  if hasExponent s then
    (Decimal.readLiteral s).map fun n => { content := .number n, format := .exponent }
  else none

/-- The digits behind the point, if the last one is zero. -/
def zeroEnded (fraction : List Char) : Nat :=
  if fraction.getLast? = some '0' then fraction.length else 0

def behindPoint (s : String) : List Char := (s.toList.dropWhile (· != '.')).tail

def fractional? (s : String) : Option Reading :=
  if hasExponent s || !s.toList.contains '.' then none
  else
    (Decimal.readLiteral s).map fun n =>
      { content := .number n, fraction := zeroEnded (behindPoint s) }

/-- The forms of the current version. -/
def Form.current : List Form :=
  [⟨"null", null?⟩, ⟨"bool", bool?⟩, ⟨"int", octal?⟩, ⟨"int", whole?⟩, ⟨"int", hexadecimal?⟩,
    ⟨"float", special?⟩, ⟨"float", exponential?⟩, ⟨"float", fractional?⟩]

/-! ## Forms of the older version -/

def trueWords : List String :=
  ["Y", "y", "Yes", "yes", "YES", "True", "true", "TRUE", "On", "on", "ON"]

def falseWords : List String :=
  ["N", "n", "No", "no", "NO", "False", "false", "FALSE", "Off", "off", "OFF"]

/-- Numbers may be written with underscores between their digits. -/
def withoutScores (cs : List Char) : List Char := cs.filter (· != '_')

def isDigitOrScore (c : Char) : Bool := Decimal.isDigit c || c = '_'

/-- A number of a base: its lead, which follows the sign, and at least one character. -/
def oldBased? (base : Nat) (lead : List Char) (format : Format) (s : String) : Option Reading :=
  let (negative, cs) := signed s.toList
  match Json.strip lead cs with
  | some (d :: ds) =>
    (based? base (withoutScores (d :: ds))).map fun n =>
      { content := .number (withSign negative n), format := format }
  | _ => none

def oldWhole? (s : String) : Option Reading :=
  let (negative, cs) := signed s.toList
  if cs.head?.any Decimal.isDigit && cs.all isDigitOrScore then
    (Decimal.readUnsigned (withoutScores cs)).map fun n =>
      { content := .number (withSign negative n.read) }
  else none

/-- A numeral that may lack all its digits, and then is no number. -/
def looseNumber (cs : List Char) : Number :=
  match Decimal.readUnsigned cs with
  | some n => n.read
  | none => .notANumber

/-- Splits off digits, the first of which is no underscore, with a fraction behind them. -/
def oldMantissa (cs : List Char) : List Char × List Char :=
  let behindWhole :=
    if cs.head?.any Decimal.isDigit then cs.dropWhile isDigitOrScore else cs
  let rest :=
    match behindWhole with
    | '.' :: more => more.dropWhile isDigitOrScore
    | _ => behindWhole
  (cs.take (cs.length - rest.length), rest)

def oldExponential? (s : String) : Option Reading :=
  let (negative, cs) := signed s.toList
  let (mantissa, rest) := oldMantissa cs
  match rest with
  | e :: more =>
    if (e = 'e' || e = 'E') && (Decimal.readExponent more).isSome then
      let n := looseNumber (withoutScores mantissa ++ e :: more)
      some { content := .number (withSign negative n), format := .exponent }
    else none
  | [] => none

def oldFractional? (s : String) : Option Reading :=
  let (negative, cs) := signed s.toList
  let (mantissa, rest) := oldMantissa cs
  if rest.isEmpty && mantissa.contains '.' then
    let n := looseNumber (withoutScores mantissa)
    some
      { content := .number (withSign negative n)
        fraction := zeroEnded (withoutScores (behindPoint s)) }
  else none

/-- The pieces of a text between colons. -/
def colonPieces : List Char → List (List Char)
  | [] => [[]]
  | ':' :: rest => [] :: colonPieces rest
  | c :: rest =>
    match colonPieces rest with
    | piece :: more => (c :: piece) :: more
    | [] => [[c]]

/-- A number in base sixty, its pieces rounded as they are added. -/
def sexagesimal (pieces : List (List Char)) : Number :=
  pieces.foldl
    (fun acc piece =>
      let higher := acc.rounded fun q => Binary64.nearest (q * 60)
      Binary64.add higher (looseNumber (withoutScores piece)))
    .zero

/-- Whether a piece behind the first is below sixty: one digit, or two. -/
def isSixtieth : List Char → Bool
  | [d] => Decimal.isDigit d
  | [d, e] => decide ('0' ≤ d) && decide (d ≤ '5') && Decimal.isDigit e
  | _ => false

/-- Numbers in base sixty, whole ones or those with a fraction. -/
def sexagesimal? (fraction : Bool) (s : String) : Option Reading :=
  let (negative, cs) := signed s.toList
  let body := if fraction then cs.takeWhile (· != '.') else cs
  let tail := cs.drop body.length
  match colonPieces body with
  | first :: second :: more =>
    if first.head?.any Decimal.isDigit && first.all isDigitOrScore
        && (second :: more).all isSixtieth
        && (if fraction then !tail.isEmpty && tail.tail.all isDigitOrScore else tail.isEmpty) then
      let n := sexagesimal (colonPieces cs)
      some { content := .number (withSign negative n), format := .sexagesimal }
    else none
  | _ => none

/-! ## Times -/

/-- A run of digits whose length lies between bounds, and what follows. -/
def digitRun? (least greatest : Nat) (cs : List Char) : Option (Nat × List Char) :=
  let run := cs.takeWhile Decimal.isDigit
  if run.length < least || greatest < run.length then none
  else some (Decimal.ofDigits run, cs.drop run.length)

/-- What follows a given character. -/
def behind? (c : Char) : List Char → Option (List Char)
  | d :: rest => if d = c then some rest else none
  | [] => none

/-- The minutes by which a zone differs. A number below thirty counts hours. -/
def zone? (cs : List Char) : Option Int :=
  match cs with
  | [] => some 0
  | ['Z'] => some 0
  | sign :: rest =>
    if sign != '+' && sign != '-' then none
    else do
      let run := rest.takeWhile Decimal.isDigit
      let (hours, more) ← digitRun? 1 2 rest
      if run.length = 2 && 30 ≤ hours then none
      else
        let minutes : Option Nat :=
          match more with
          | [] => some hours
          | ':' :: ms => (digitRun? 2 2 ms).bind fun (m, left) =>
            if left.isEmpty then some (hours * 60 + m) else none
          | _ => none
        minutes.map fun m =>
          let scaled := if m < 30 then m * 60 else m
          if sign = '-' then -Int.ofNat scaled else Int.ofNat scaled

/-- The time of day behind a date: hour, minute, second, millisecond and zone. -/
def time? (cs : List Char) : Option (Nat × Nat × Nat × Nat × Int) := do
  let (hour, afterHour) ← digitRun? 1 2 cs
  let (minute, afterMinute) ← digitRun? 1 2 (← behind? ':' afterHour)
  let (second, afterSecond) ← digitRun? 1 2 (← behind? ':' afterMinute)
  let fraction :=
    match afterSecond with
    | '.' :: rest => rest.takeWhile Decimal.isDigit
    | _ => []
  let milli := Decimal.ofDigits ((fraction ++ ['0', '0']).take 3)
  let behind := if fraction.isEmpty then afterSecond else afterSecond.drop (fraction.length + 1)
  let zone ← zone? (behind.dropWhile fun c => c = ' ' || c = '\t')
  if zone = 0 && !behind.isEmpty && (behind.dropWhile fun c => c = ' ' || c = '\t').isEmpty then none
  else return (hour, minute, second, if fraction.isEmpty then 0 else milli, zone)

/-- A date, with a time of day if one follows. Years of two digits lie in the twentieth
century. -/
def instant? (s : String) : Option Instant := do
  let (year, afterYear) ← digitRun? 4 4 s.toList
  let (month, afterMonth) ← digitRun? 1 2 (← behind? '-' afterYear)
  let (day, rest) ← digitRun? 1 2 (← behind? '-' afterMonth)
  let full : Int := if year < 100 then 1900 + year else year
  match rest with
  | [] => return Instant.ofParts full month day 0 0 0 0
  | c :: more =>
    let clock : Option (List Char) :=
      if c = 't' || c = 'T' then some more
      else if c = ' ' || c = '\t' then some (more.dropWhile fun x => x = ' ' || x = '\t')
      else none
    let (hour, minute, second, milli, zone) ← time? (← clock)
    let i := Instant.ofParts full month day hour minute second milli
    return ⟨i.millis - 60000 * zone⟩

def time (s : String) : Option Reading := (instant? s).map fun i => { content := .instant i }

/-- The forms of the older version. -/
def Form.older : List Form :=
  [⟨"null", null?⟩, ⟨"bool", wordOf trueWords true⟩, ⟨"bool", wordOf falseWords false⟩,
    ⟨"int", oldBased? 2 ['0', 'b'] .binary⟩, ⟨"int", oldBased? 8 ['0'] .octal⟩,
    ⟨"int", oldWhole?⟩, ⟨"int", oldBased? 16 ['0', 'x'] .hexadecimal⟩, ⟨"float", special?⟩,
    ⟨"float", oldExponential?⟩, ⟨"float", oldFractional?⟩, ⟨"int", sexagesimal? false⟩,
    ⟨"float", sexagesimal? true⟩, ⟨"timestamp", time⟩]

/-! ## Reading -/

def Form.ofVersion : Version → List Form
  | .current => Form.current
  | .older => Form.older

/-- The text under which mappings are merged. -/
def mergeText : String := "<<"

/-- The reading of a plain text. In the older version a key may be the merge key. -/
def Reading.plain (version : Version) (atKey : Bool) (s : String) : Reading :=
  if version = .older && atKey && s = mergeText then { content := .mergeMark }
  else ((Form.ofVersion version).findSome? (·.read s)).getD { content := .text s }

/-- What the names of the tags of YAML itself begin with. -/
def tagPrefix : String := "tag:yaml.org,2002:"

/-- The short name of a tag of YAML itself. -/
def shortTag? (tag : String) : Option String :=
  (Json.strip tagPrefix.toList tag.toList).map String.ofList

/-- The reading of a text with a tag. A text without the form of its tag is itself, except
that a time has to be one. -/
def Reading.tagged (version : Version) (tag s : String) : Except Fault Reading :=
  let itself : Reading := { content := .text s }
  match shortTag? tag with
  | none => .ok itself
  | some name =>
    match ((Form.ofVersion version).filter (·.tag = name)).findSome? (·.read s) with
    | some r => .ok r
    | none =>
      if name = "binary" then .ok { content := .bytes (Text.ofBase64 s) }
      else if name = "merge" && (version = .current || s = mergeText) then
        .ok { content := .mergeMark }
      else if name = "timestamp" && version = .current then
        match time s with
        | some r => .ok r
        | none => .error (.badForm tag)
      else .ok itself

end Yaml
end Rollout
