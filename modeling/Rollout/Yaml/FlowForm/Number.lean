import Rollout.Json.Printer
import Rollout.Text.Blank
import Rollout.Yaml.Scalar

/-
Numbers as they are written inside flow collections: in the format that they had, with
zeros at the end of a fraction.
-/
namespace Rollout
namespace Yaml
namespace FlowForm

/-! ## Bases -/

/-- How many binary digits of a number are significant. -/
def significantBits : Nat := 53

/-- The digits of a natural number in a base of the given number of bits. Digits behind the
significant ones are zeros. -/
def basedDigits (bits n : Nat) : List Char :=
  let excess := n.log2 + 1 - significantBits
  let zeros := (excess + bits - 1) / bits
  let base := Nat.pow 2 bits
  Nat.toDigits base (n / Nat.pow base zeros) ++ List.replicate zeros '0'

/-- What stands in front of the digits of a base, and how many bits a digit has. -/
def baseOf? (version : Version) : Format → Option (List Char × Nat)
  | .binary => some (['0', 'b'], 1)
  | .octal => some (if version = .older then ['0'] else ['0', 'o'], 3)
  | .hexadecimal => some (['0', 'x'], 4)
  | _ => none

/-! ## Base sixty -/

/-- A part of a number in base sixty, at least two characters wide. -/
def sixtieths (q : Rat) : List Char :=
  let cs := (Number.finite q).text.toList
  List.replicate (2 - cs.length) '0' ++ cs

/-- What is left of a text without the noise of rounding at its end: six zeros, and the
digits behind them. -/
def withoutNoise (cs : List Char) : List Char :=
  let digits := (cs.reverse.takeWhile Decimal.isDigit).reverse
  let kept := cs.length - digits.length
  match (List.range digits.length).find? fun i => (List.replicate 6 '0').isPrefixOf (digits.drop i) with
  | some i => cs.take (kept + i)
  | none => cs

/-- Seconds and minutes of a magnitude, and hours where there are any. -/
def sexagesimalChars (q : Rat) : List Char :=
  let minutes := (q / 60).floor
  let seconds := q - minutes * 60
  let parts : List Rat :=
    if minutes < 60 then [minutes, seconds] else [(minutes / 60 : Int), (minutes % 60 : Int), seconds]
  withoutNoise ([':'].intercalate (parts.map sixtieths))

/-! ## Numbers -/

/-- The usual text of a number, with as many fraction digits as it had. -/
def usualNumber (fraction : Nat) (source : String) (n : Number) : List Char :=
  match n with
  | .infinity => ".inf".toList
  | .negInfinity => "-.inf".toList
  | .notANumber => ".nan".toList
  | .finite q =>
    let cs := if q = 0 && source.toList.head? = some '-' then ['-', '0'] else n.text.toList
    if fraction = 0 || cs.contains 'e' then cs
    else
      let pointed := if cs.contains '.' then cs else cs ++ ['.']
      pointed ++ List.replicate (fraction - (behindPoint (String.ofList pointed)).length) '0'

def withMinus (negative : Bool) (cs : List Char) : List Char := if negative then '-' :: cs else cs

/-- The text of a number. Fraction digits are kept without a tag and under the tag of
fractions. -/
def number (version : Version) (tag : Option String) (r : Reading) (source : String) (n : Number) :
    List Char :=
  let keeps := tag.isNone || tag = some (tagPrefix ++ "float")
  let usual := usualNumber (if r.format = .usual && keeps then r.fraction else 0) source n
  match n with
  | .finite q =>
    let negative := q < 0
    match r.format, baseOf? version r.format with
    | .exponent, _ =>
      if q = 0 then "0e+0".toList
      else withMinus negative (Shortest.magnitudeBy Shortest.scientific q.num.natAbs q.den)
    | .sexagesimal, _ => withMinus negative (sexagesimalChars (if q < 0 then -q else q))
    | _, some (lead, bits) =>
      if n.isInteger then withMinus negative (lead ++ basedDigits bits q.num.natAbs) else usual
    | _, none => usual
  | _ => usual

/-! ## Texts under tags of numbers -/

/-- The number that a text denotes by and large: nothing is zero, and numerals of other bases
and the word for infinity count. -/
def looseValue (s : String) : Number :=
  let t := Text.trim s
  match t.toList with
  | [] => .zero
  | '0' :: 'x' :: ds | '0' :: 'X' :: ds => (based? 16 ds).getD .notANumber
  | '0' :: 'o' :: ds | '0' :: 'O' :: ds => (based? 8 ds).getD .notANumber
  | '0' :: 'b' :: ds | '0' :: 'B' :: ds => (based? 2 ds).getD .notANumber
  | _ =>
    if t = "Infinity" || t = "+Infinity" then .infinity
    else if t = "-Infinity" then .negInfinity
    else (Decimal.readLiteral t).getD .notANumber

/-- A text that is under the tag of numbers without being one. If it denotes a finite number
all the same, it is written as a string. -/
def textAsNumber (s : String) : List Char :=
  let n := looseValue s
  if n.isFinite then Json.quoted s else usualNumber 0 s n

end FlowForm
end Yaml
end Rollout
