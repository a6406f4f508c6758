import Rollout.Number.Basic

/-
Rounding to binary64. A magnitude is scaled to a quotient with 53 significant bits,
or fewer where the exponent has reached its floor, and the quotient goes to the
nearest whole number, a tie to the even one.
-/
namespace Rollout
namespace Binary64

/-- The quotient `a / b` to the nearest whole number, a tie to the even one. -/
def roundDiv (a b : Nat) : Nat :=
  let q := a / b
  let r := a % b
  if 2 * r < b then q
  else if b < 2 * r then q + 1
  else if q % 2 = 0 then q else q + 1

/-- The smallest exponent of a unit in the last place. -/
def leastExponent : Int := -1074

/-- The exponent `k` with `2 ^ k ≤ a / b < 2 ^ (k + 1)`. The two logarithms leave one
doubt, which a comparison settles. -/
def binaryExponent (a b : Nat) : Int :=
  let k : Int := Int.ofNat a.log2 - Int.ofNat b.log2
  let reached := if 0 ≤ k then b * Nat.pow 2 k.toNat ≤ a else b ≤ a * Nat.pow 2 (-k).toNat
  if reached then k else k - 1

/-- The magnitude `m * 2 ^ e`. -/
def scaled (m : Nat) (e : Int) : Rat :=
  if 0 ≤ e then (m * Nat.pow 2 e.toNat : Nat) else mkRat m (Nat.pow 2 (-e).toNat)

/-- The binary64 magnitude nearest to `a / b`, or `none` where it overflows. -/
def nearestMagnitude (a b : Nat) : Option Rat :=
  if a = 0 then some 0
  else
    let e := max (binaryExponent a b - 52) leastExponent
    let m :=
      if 0 ≤ e then roundDiv a (b * Nat.pow 2 e.toNat)
      else roundDiv (a * Nat.pow 2 (-e).toNat) b
    if 971 < e ∨ (e = 971 ∧ Nat.pow 2 53 ≤ m) then none else some (scaled m e)

/-- The binary64 number nearest to a rational; an infinity where the magnitude is
beyond the largest finite one by half a unit or more. -/
def nearest (q : Rat) : Number :=
  match nearestMagnitude q.num.natAbs q.den with
  | some magnitude => .finite (if q.num < 0 then -magnitude else magnitude)
  | none => if q.num < 0 then .negInfinity else .infinity

/-- The sum as binary64 has it. -/
def add (a b : Number) : Number := (a.exactSum b).rounded nearest

/-- The smallest positive number. -/
def leastPositive : Number := .finite (mkRat 1 (Nat.pow 2 1074))

end Binary64
end Rollout
