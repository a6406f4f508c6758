import Rollout.Number.Binary64

/-
Reading decimal numerals. A numeral denotes a whole number of units of some power of
ten; the value is the binary64 number nearest to it. Numerals far outside the range
are settled by their order of magnitude, so that no huge power is ever formed.
-/
namespace Rollout
namespace Decimal

/-- A numeral without its sign: `digits * 10 ^ exponent`. -/
structure Numeral where
  digits : Nat
  exponent : Int

/-- The rational a numeral denotes. -/
def Numeral.value (n : Numeral) : Rat :=
  if 0 ≤ n.exponent then (n.digits * Nat.pow 10 n.exponent.toNat : Nat)
  else mkRat n.digits (Nat.pow 10 (-n.exponent).toNat)

/-- How many decimal digits a number has, zero having none. -/
def digitCount (n : Nat) : Nat := if n = 0 then 0 else (Nat.toDigits 10 n).length

/-- The number a numeral is read as. A value of at least `10 ^ 310` overflows and one
below `10 ^ (-330)` vanishes. -/
def Numeral.read (n : Numeral) : Number :=
  let top := n.exponent + Int.ofNat (digitCount n.digits)
  if n.digits = 0 then .zero
  else if 310 < top then .infinity
  else if top < -330 then .zero
  else Binary64.nearest n.value

def negated : Number → Number
  | .finite a => .finite (-a)
  | .infinity => .negInfinity
  | .negInfinity => .infinity
  | .notANumber => .notANumber

def isDigit (c : Char) : Bool := decide ('0' ≤ c) && decide (c ≤ '9')

def digitValue (c : Char) : Nat := c.toNat - '0'.toNat

/-- The number a run of digits writes in base ten. -/
def ofDigits (cs : List Char) : Nat := cs.foldl (fun acc c => acc * 10 + digitValue c) 0

/-- A signed exponent: an optional sign and at least one digit. -/
def readExponent (cs : List Char) : Option Int :=
  let signed (negative : Bool) (ds : List Char) : Option Int :=
    if ds.isEmpty || !ds.all isDigit then none
    else some (if negative then -Int.ofNat (ofDigits ds) else Int.ofNat (ofDigits ds))
  match cs with
  | '-' :: ds => signed true ds
  | '+' :: ds => signed false ds
  | ds => signed false ds

/-- The numeral written as whole digits, fraction digits and a power of ten. -/
def numeral (whole fraction : List Char) (exponent : Int) : Numeral :=
  ⟨ofDigits (whole ++ fraction), exponent - Int.ofNat fraction.length⟩

/-- Reads an unsigned literal in full: digits with an optional fraction or a bare
fraction, and an optional exponent. -/
def readUnsigned (cs : List Char) : Option Numeral :=
  let whole := cs.takeWhile isDigit
  let tail := cs.dropWhile isDigit
  let (fraction, rest, pointed) :=
    match tail with
    | '.' :: more => (more.takeWhile isDigit, more.dropWhile isDigit, true)
    | _ => ([], tail, false)
  if whole.isEmpty && (!pointed || fraction.isEmpty) then none
  else
    match rest with
    | [] => some (numeral whole fraction 0)
    | c :: more =>
      if c = 'e' ∨ c = 'E' then (readExponent more).map (numeral whole fraction) else none

/-- Reads a literal in full, with an optional sign. -/
def readLiteral (s : String) : Option Number :=
  match s.toList with
  | '-' :: cs => (readUnsigned cs).map fun n => negated n.read
  | '+' :: cs => (readUnsigned cs).map Numeral.read
  | cs => (readUnsigned cs).map Numeral.read

end Decimal
end Rollout
