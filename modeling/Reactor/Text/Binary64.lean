/-!
# Binary floating point of 64 bits

The non-negative finite values `mantissa * 2 ^ exponent` with a mantissa below `2 ^ 53` and an
exponent from `-1074` to `971`, and the rounding of a ratio of naturals to the nearest of them. Of
two equally near values the one with the even mantissa is taken.
-/

namespace Reactor.Text

/-- A non-negative finite value `mantissa * 2 ^ exponent`. -/
structure Binary64 where
  mantissa : Nat
  exponent : Int
  deriving DecidableEq, Repr

namespace Binary64

/-- The least exponent a value can have. -/
def minExponent : Int := -1074

/-- The greatest exponent a value can have. -/
def maxExponent : Int := 971

/-- The least mantissa of 53 bits. Twice as much takes one bit more. -/
def leastNormal : Nat := 0x10000000000000

/-- The value zero. -/
def zero : Binary64 := ⟨0, minExponent⟩

/-- A power of two as a ratio: numerator and denominator. -/
def powerRatio (q : Int) : Nat × Nat := (Nat.pow 2 q.toNat, Nat.pow 2 (-q).toNat)

/-- The quotient rounded to the nearest integer, a half to the even neighbour. -/
def divNearest (num den : Nat) : Nat :=
  let quotient := num / den
  let twice := 2 * (num % den)
  if twice < den then quotient
  else if den < twice then quotient + 1
  else quotient + quotient % 2

/-- The ratio in units of `2 ^ q`, rounded. -/
def scaled (num den : Nat) (q : Int) : Nat :=
  divNearest (num * (powerRatio q).2) (den * (powerRatio q).1)

/-- The exponent at which a positive ratio has 53 bits before the point, but not below the least. -/
def fitExponent (num den : Nat) : Int :=
  let guess := max ((num.log2 : Int) - (den.log2 : Int) - 53) minExponent
  let (up, down) := powerRatio guess
  if 2 * leastNormal * (den * up) ≤ num * down then guess + 1 else guess

/-- The value nearest to a ratio, or nothing when it is beyond the greatest. -/
def ofRatio? (num den : Nat) : Option Binary64 :=
  if num = 0 then some zero
  else
    let q := fitExponent num den
    let m := scaled num den q
    let (m, q) := if m = 2 * leastNormal then (leastNormal, q + 1) else (m, q)
    if q ≤ maxExponent then some ⟨m, q⟩ else none

/-- The value as a ratio: numerator and denominator. -/
def toRatio (x : Binary64) : Nat × Nat :=
  let (up, down) := powerRatio x.exponent
  (x.mantissa * up, down)

/-- The rounded product, or nothing when it is beyond the greatest value. -/
def mul? (x y : Binary64) : Option Binary64 :=
  ofRatio? (x.toRatio.1 * y.toRatio.1) (x.toRatio.2 * y.toRatio.2)

/-- The rounded quotient by a positive value, or nothing when it is beyond the greatest value. -/
def div? (x y : Binary64) : Option Binary64 :=
  ofRatio? (x.toRatio.1 * y.toRatio.2) (x.toRatio.2 * y.toRatio.1)

/-- The greatest power of ten in the table of powers. -/
def maxTen : Nat := 308

/-- The value nearest to `10 ^ n`, for `n` up to `maxTen`. -/
def tenPow? (n : Nat) : Option Binary64 := ofRatio? (Nat.pow 10 n) 1

/-- Scaling by a power of ten in the steps the table allows: one step when the power is in the
table, otherwise a division by the greatest power first. Each step rounds. Four steps are enough,
since two divisions by the greatest power take every value to zero. -/
def scaleTen? (steps : Nat) (x : Binary64) (power : Int) : Option Binary64 :=
  match steps with
  | 0 => some zero
  | steps + 1 =>
    if x.mantissa = 0 then some zero
    else if power.natAbs ≤ maxTen then
      (tenPow? power.natAbs).bind fun ten => if 0 ≤ power then x.mul? ten else x.div? ten
    else if 0 ≤ power then none
    else
      (tenPow? maxTen).bind fun ten => (x.div? ten).bind fun y => scaleTen? steps y (power + maxTen)

/-- The value of a decimal: the coefficient is rounded first and then scaled. Nothing when it is
beyond the greatest value. -/
def ofDecimal? (coefficient : Nat) (power : Int) : Option Binary64 :=
  (ofRatio? coefficient 1).bind fun x => scaleTen? 4 x power

example : ofRatio? 1 10 = some ⟨7205759403792794, -56⟩ := by decide +kernel

example : ofRatio? (2 ^ 1024 - 1) 1 = none := by decide +kernel

example : ofDecimal? 25 2 = some ⟨5497558138880000, -41⟩ := by decide +kernel

end Binary64

end Reactor.Text
