import Rollout.Json.Basic
import Rollout.Number.Decimal

/-
Reading JSON texts. The grammar is the strict one: four blank characters, no comments,
no trailing commas, no leading zeros. Every step takes characters off the front, so
twice the length of the text bounds the depth of the reading.

Texts are made of Unicode characters here, among which there are no surrogates. A text whose
escapes leave a surrogate without its partner is read as if they wrote U+FFFD instead, so
what is said of such a text is said of that other one. A negative zero is read as zero.
-/
namespace Rollout
namespace Json

def isGap (c : Char) : Bool := c = ' ' || c = '\t' || c = '\n' || c = '\r'

def skipGap (cs : List Char) : List Char := cs.dropWhile isGap

/-- What is left after a given beginning. -/
def strip : List Char → List Char → Option (List Char)
  | [], cs => some cs
  | _ :: _, [] => none
  | w :: ws, c :: cs => if w = c then strip ws cs else none

/-! ## Strings -/

def hexValue (c : Char) : Option Nat :=
  if decide ('0' ≤ c) && decide (c ≤ '9') then some (c.toNat - '0'.toNat)
  else if decide ('a' ≤ c) && decide (c ≤ 'f') then some (c.toNat - 'a'.toNat + 10)
  else if decide ('A' ≤ c) && decide (c ≤ 'F') then some (c.toNat - 'A'.toNat + 10)
  else none

def hexNumber : Nat → List Char → Option Nat
  | acc, [] => some acc
  | acc, c :: rest => (hexValue c).bind fun d => hexNumber (acc * 16 + d) rest

/-- The character a one-letter escape stands for. -/
def escaped (c : Char) : Option Char :=
  if c = '"' || c = '\\' || c = '/' then some c
  else if c = 'b' then some '\x08'
  else if c = 'f' then some '\x0c'
  else if c = 'n' then some '\n'
  else if c = 'r' then some '\r'
  else if c = 't' then some '\t'
  else none

/-- The character that is read in the place of a surrogate without its partner. -/
def loneSurrogate : Char := Char.ofNat 0xFFFD

def isHighSurrogate (u : Nat) : Bool := decide (0xD800 ≤ u) && decide (u < 0xDC00)

def isLowSurrogate (u : Nat) : Bool := decide (0xDC00 ≤ u) && decide (u < 0xE000)

/-- The characters owed for a high surrogate whose partner did not come. -/
def owed : Option Nat → List Char
  | none => []
  | some _ => [loneSurrogate]

/-- Joins a code unit to a high surrogate before it. The result is the characters that
are now settled and the high surrogate that waits. -/
def joinUnit (high : Option Nat) (u : Nat) : List Char × Option Nat :=
  if isHighSurrogate u then (owed high, some u)
  else if isLowSurrogate u then
    match high with
    | some h => ([Char.ofNat (0x10000 + (h - 0xD800) * 0x400 + (u - 0xDC00))], none)
    | none => ([loneSurrogate], none)
  else (owed high ++ [Char.ofNat u], none)

/-- Reads the rest of a string behind its opening quote. -/
def readString (high : Option Nat) : List Char → Option (List Char × List Char)
  | '"' :: rest => some (owed high, rest)
  | '\\' :: 'u' :: a :: b :: c :: d :: rest =>
    (hexNumber 0 [a, b, c, d]).bind fun u =>
      let (settled, high') := joinUnit high u
      (readString high' rest).map fun (cs, r) => (settled ++ cs, r)
  | '\\' :: e :: rest =>
    (escaped e).bind fun x => (readString none rest).map fun (cs, r) => (owed high ++ x :: cs, r)
  | c :: rest =>
    if c.toNat < 0x20 || c = '\\' then none
    else (readString none rest).map fun (cs, r) => (owed high ++ c :: cs, r)
  | [] => none

/-! ## Numbers -/

/-- The exponent of a number, if one follows: its value and the rest. An exponent mark
without digits is refused. -/
def readExponentPart (cs : List Char) : Option (Int × List Char) :=
  match cs with
  | c :: more =>
    if c = 'e' || c = 'E' then
      let (negative, digits) :=
        match more with
        | '-' :: ds => (true, ds)
        | '+' :: ds => (false, ds)
        | ds => (false, ds)
      let run := digits.takeWhile Decimal.isDigit
      if run.isEmpty then none
      else
        let n := Int.ofNat (Decimal.ofDigits run)
        some (if negative then -n else n, digits.dropWhile Decimal.isDigit)
    else some (0, cs)
  | [] => some (0, [])

/-- The fraction of a number, if one follows: its digits and the rest. -/
def readFraction (cs : List Char) : Option (List Char × List Char) :=
  match cs with
  | '.' :: more =>
    let run := more.takeWhile Decimal.isDigit
    if run.isEmpty then none else some (run, more.dropWhile Decimal.isDigit)
  | _ => some ([], cs)

/-- The whole part of a number: a zero, or digits that start with none. -/
def readWhole (cs : List Char) : Option (List Char × List Char) :=
  match cs with
  | '0' :: more => some (['0'], more)
  | _ =>
    let run := cs.takeWhile Decimal.isDigit
    if run.isEmpty then none else some (run, cs.dropWhile Decimal.isDigit)

def readUnsigned (cs : List Char) : Option (Number × List Char) := do
  let (whole, afterWhole) ← readWhole cs
  let (fraction, afterFraction) ← readFraction afterWhole
  let (exponent, rest) ← readExponentPart afterFraction
  return ((Decimal.numeral whole fraction exponent).read, rest)

def readNumber (cs : List Char) : Option (Number × List Char) :=
  match cs with
  | '-' :: more => (readUnsigned more).map fun (n, rest) => (Decimal.negated n, rest)
  | _ => readUnsigned cs

/-! ## Values -/

mutual

/-- Reads a value at the front of the text. -/
def readValue : Nat → List Char → Option (Json × List Char)
  | 0, _ => none
  | fuel + 1, cs =>
    match cs with
    | '"' :: rest => (readString none rest).map fun (s, r) => (.text (String.ofList s), r)
    | '[' :: rest =>
      match skipGap rest with
      | ']' :: r => some (.array [], r)
      | inside => (readItems fuel inside).map fun (items, r) => (.array items, r)
    | '\x7b' :: rest =>
      match skipGap rest with
      | '\x7d' :: r => some (.object [], r)
      | inside => (readMembers fuel inside).map fun (members, r) => (ofMembers members, r)
    | 't' :: _ => (strip "true".toList cs).map fun r => (.bool true, r)
    | 'f' :: _ => (strip "false".toList cs).map fun r => (.bool false, r)
    | 'n' :: _ => (strip "null".toList cs).map fun r => (.null, r)
    | _ => (readNumber cs).map fun (n, r) => (.number n, r)

/-- Reads the items of an array up to its end. -/
def readItems : Nat → List Char → Option (List Json × List Char)
  | 0, _ => none
  | fuel + 1, cs =>
    (readValue fuel cs).bind fun (v, r) =>
      match skipGap r with
      | ']' :: rest => some ([v], rest)
      | ',' :: rest => (readItems fuel (skipGap rest)).map fun (vs, r') => (v :: vs, r')
      | _ => none

/-- Reads the members of an object up to its end, in the order of the text. -/
def readMembers : Nat → List Char → Option (List (String × Json) × List Char)
  | 0, _ => none
  | fuel + 1, cs =>
    match cs with
    | '"' :: afterQuote =>
      (readString none afterQuote).bind fun (k, afterKey) =>
        match skipGap afterKey with
        | ':' :: afterColon =>
          (readValue fuel (skipGap afterColon)).bind fun (v, r) =>
            match skipGap r with
            | '\x7d' :: rest => some ([(String.ofList k, v)], rest)
            | ',' :: rest =>
              (readMembers fuel (skipGap rest)).map fun (ms, r') =>
                ((String.ofList k, v) :: ms, r')
            | _ => none
        | _ => none
    | _ => none

end

/-- The value a text denotes, or `none` where the text is not JSON. -/
def read? (s : String) : Option Json :=
  let cs := s.toList
  match readValue (2 * cs.length + 2) (skipGap cs) with
  | some (v, rest) => if (skipGap rest).isEmpty then some v else none
  | none => none

end Json
end Rollout
