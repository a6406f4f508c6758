import Rollout.Number.Decimal

/-
The text of a number: the fewest decimal digits that read back as it, written
positionally in the middle range and with an exponent outside it.
-/
namespace Rollout
namespace Shortest

/-- The power `k` with `10 ^ (k - 1) ≤ a / b < 10 ^ k`. -/
def decimalExponent (a b : Nat) : Int :=
  let k : Int := Int.ofNat (Decimal.digitCount a) - Int.ofNat (Decimal.digitCount b)
  let below := if 0 ≤ k then a < b * Nat.pow 10 k.toNat else a * Nat.pow 10 (-k).toNat < b
  if below then k else k + 1

/-- The magnitude `a / b` counted in units of `10 ^ unit`, as a quotient. -/
def inUnits (a b : Nat) (unit : Int) : Nat × Nat :=
  if 0 ≤ unit then (a, b * Nat.pow 10 unit.toNat) else (a * Nat.pow 10 (-unit).toNat, b)

/-- Whether a numeral reads back as the magnitude `a / b`. -/
def readsBack (a b : Nat) (n : Decimal.Numeral) : Bool := n.read == .finite (mkRat a b)

/-- The numeral of `count` digits that reads back as `a / b`. Only the two neighbours
on the grid can; the nearer wins, a tie going to the even one. -/
def ofCount? (a b count : Nat) : Option Decimal.Numeral :=
  let unit := decimalExponent a b - Int.ofNat count
  let (n, d) := inUnits a b unit
  let low : Decimal.Numeral := ⟨n / d, unit⟩
  let high : Decimal.Numeral := ⟨n / d + 1, unit⟩
  match readsBack a b low, readsBack a b high with
  | true, true =>
    if 2 * (n % d) < d then some low
    else if d < 2 * (n % d) then some high
    else if n / d % 2 = 0 then some low else some high
  | true, false => some low
  | false, true => some high
  | false, false => none

/-- The exact numeral of a magnitude whose denominator divides a power of ten, as
every power of two does. -/
def exactNumeral (a b : Nat) : Decimal.Numeral :=
  ⟨a * Nat.pow 10 b.log2 / b, -Int.ofNat b.log2⟩

/-- The shortest numeral that reads back. Seventeen digits tell all binary64 numbers
apart; any other rational gets its exact digits. -/
def shortestNumeral (a b : Nat) : Decimal.Numeral :=
  ((List.range 17).findSome? fun k => ofCount? a b (k + 1)).getD (exactNumeral a b)

/-- The digits of a number without the zeros at their end. -/
def significantDigits (n : Nat) : List Char :=
  ((Nat.toDigits 10 n).reverse.dropWhile (· == '0')).reverse

/-- Writes `0.d₁d₂… * 10 ^ point` with one digit before the point and an exponent. -/
def scientific (digits : List Char) (point : Int) : List Char :=
  let exponent := point - 1
  let sign := if exponent < 0 then '-' else '+'
  let mantissa :=
    match digits with
    | first :: more@(_ :: _) => first :: '.' :: more
    | short => short
  mantissa ++ 'e' :: sign :: Nat.toDigits 10 exponent.natAbs

/-- Lays out `0.d₁d₂… * 10 ^ point`. Up to 21 digits stand before the point, and up to
six zeros after it before the first digit. -/
def layOut (digits : List Char) (point : Int) : List Char :=
  let count := Int.ofNat digits.length
  if count ≤ point ∧ point ≤ 21 then
    digits ++ List.replicate (point - count).toNat '0'
  else if 0 < point ∧ point ≤ 21 then
    digits.take point.toNat ++ '.' :: digits.drop point.toNat
  else if -6 < point ∧ point ≤ 0 then
    '0' :: '.' :: (List.replicate (-point).toNat '0' ++ digits)
  else scientific digits point

/-- The shortest digits of a magnitude above zero, written by a layout. -/
def magnitudeBy (write : List Char → Int → List Char) (a b : Nat) : List Char :=
  let n := shortestNumeral a b
  write (significantDigits n.digits) (n.exponent + Int.ofNat (Decimal.digitCount n.digits))

/-- The text of a magnitude above zero. -/
def magnitudeText (a b : Nat) : List Char := magnitudeBy layOut a b

end Shortest

/-- The text of a number as messages show it. -/
def Number.text : Number → String
  | .finite q =>
    if q.num = 0 then "0"
    else
      let body := Shortest.magnitudeText q.num.natAbs q.den
      String.ofList (if q.num < 0 then '-' :: body else body)
  | .infinity => "Infinity"
  | .negInfinity => "-Infinity"
  | .notANumber => "NaN"

end Rollout
