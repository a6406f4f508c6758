/-
Numbers of documents and plans: exact rationals, the two infinities and the value
that is no number. There is one zero: the negative one is taken for it, as comparisons
take it, so that values are the same here if they are the same up to the sign of zeros.
-/
namespace Rollout

/-- A number as a document denotes it, up to the sign of zero. Finite numbers are kept
exactly; which of them binary64 can hold is the matter of `Binary64.nearest`. -/
inductive Number where
  | finite (value : Rat)
  | infinity
  | negInfinity
  | notANumber
  deriving DecidableEq

namespace Number

def ofNat (n : Nat) : Number := .finite n

def zero : Number := ofNat 0

instance : Inhabited Number := ⟨zero⟩

/-- Strict order. Nothing is below or above the value that is no number. -/
def lt : Number → Number → Bool
  | .finite a, .finite b => decide (a < b)
  | .finite _, .infinity => true
  | .negInfinity, .finite _ => true
  | .negInfinity, .infinity => true
  | _, _ => false

/-- The sum before rounding. Opposite infinities have none. -/
def exactSum : Number → Number → Number
  | .finite a, .finite b => .finite (a + b)
  | .notANumber, _ => .notANumber
  | _, .notANumber => .notANumber
  | .infinity, .negInfinity => .notANumber
  | .negInfinity, .infinity => .notANumber
  | .infinity, _ => .infinity
  | _, .infinity => .infinity
  | .negInfinity, _ => .negInfinity
  | _, .negInfinity => .negInfinity

/-- Replaces a finite number by what `round` makes of it. -/
def rounded (round : Rat → Number) : Number → Number
  | .finite a => round a
  | other => other

def isFinite : Number → Bool
  | .finite _ => true
  | _ => false

/-- Whether the number is whole. An infinity is not. -/
def isInteger : Number → Bool
  | .finite a => a.den == 1
  | _ => false

/-- The natural number a whole number at least zero is; zero for every other. -/
def toNat : Number → Nat
  | .finite a => a.num.toNat
  | _ => 0

/-- Equality as a comparison sees it: the value that is no number equals nothing. -/
def same : Number → Number → Bool
  | .notANumber, _ => false
  | a, b => a == b

end Number
end Rollout
