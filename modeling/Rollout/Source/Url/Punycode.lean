import Rollout.Number.Decimal

/-
Parts of hosts that are written in ASCII for characters beyond it. The ASCII characters of
such a part come first; behind the last hyphen, numbers of base 36 with digits of changing
weight say which character is inserted where.
-/
namespace Rollout
namespace Source
namespace Url

/-- The value of a digit: letters come first. -/
def punyDigit? (c : Char) : Option Nat :=
  if decide ('a' ≤ c) && decide (c ≤ 'z') then some (c.toNat - 'a'.toNat)
  else if Decimal.isDigit c then some (26 + Decimal.digitValue c)
  else none

/-- The least digit that does not end a number at a position. -/
def threshold (bias position : Nat) : Nat :=
  min 26 (max 1 (36 * position - bias))

/-- Reads a number: its value and what follows. -/
def readPuny (bias : Nat) : Nat → Nat → Nat → List Char → Option (Nat × List Char)
  | _, _, _, [] => none
  | position, scale, acc, c :: rest =>
    (punyDigit? c).bind fun d =>
      let t := threshold bias position
      let acc' := acc + d * scale
      if d < t then some (acc', rest) else readPuny bias (position + 1) (scale * (36 - t)) acc' rest

/-- Divides until the quotient is small, counting the divisions. -/
def lessened : Nat → Nat → Nat → Nat × Nat
  | 0, delta, count => (delta, count)
  | fuel + 1, delta, count =>
    if 455 < delta then lessened fuel (delta / 35) (count + 1) else (delta, count)

/-- How the weights of digits go on from one number to the next. -/
def adapted (delta size : Nat) (isFirst : Bool) : Nat :=
  let d := if isFirst then delta / 700 else delta / 2
  let (rest, count) := lessened 32 (d + d / size) 0
  36 * count + 36 * rest / (rest + 38)

/-- Inserts the characters that the numbers tell, from a code and a place on. -/
def insertAll : Nat → Nat → Nat → Nat → Bool → List Char → List Nat → Option (List Nat)
  | 0, _, _, _, _, _, _ => none
  | fuel + 1, code, place, bias, isFirst, cs, out =>
    if cs.isEmpty then some out
    else
      (readPuny bias 1 1 0 cs).bind fun (delta, rest) =>
        let size := out.length + 1
        let whole := place + delta
        let code' := code + whole / size
        let spot := whole % size
        if 0x10FFFF < code' then none
        else
          insertAll fuel code' (spot + 1) (adapted delta size isFirst) false rest
            (out.take spot ++ code' :: out.drop spot)

/-- The codes of the characters that a part stands for, written without its mark. -/
def ofPunycode? (cs : List Char) : Option (List Nat) :=
  let digits := (cs.reverse.takeWhile (· != '-')).reverse
  let plain := cs.take (cs.length - digits.length - 1)
  insertAll (cs.length + 1) 128 0 72 true digits (plain.map Char.toNat)

end Url
end Source
end Rollout
