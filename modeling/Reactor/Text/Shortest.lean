import Reactor.Text.Binary64

/-!
# Shortest decimals

The decimal with the fewest digits that reads back as a given binary value, and of those the nearest
to it. The values that read back form an interval around the value; its ends belong to it when the
mantissa is even. A grid of decimals that meets the interval has one of the value's two neighbours
in it, so only these two are tried, with one digit, with two, and so on.
-/

namespace Reactor.Text

/-- A positive decimal `digits * 10 ^ power`. -/
structure Decimal where
  digits : Nat
  power : Int
  deriving DecidableEq, Repr

namespace Binary64

/-- The value and the two ends of the interval that reads back as it, as numerators
over one denominator. -/
structure Interval where
  low : Nat
  middle : Nat
  high : Nat
  denominator : Nat
  closed : Bool
  deriving DecidableEq, Repr

/-- The interval of a positive value. Below a power of two the neighbours are half as far apart. -/
def interval (x : Binary64) : Interval :=
  let (up, down) := powerRatio (x.exponent - 2)
  let below := if x.mantissa = leastNormal ∧ minExponent < x.exponent then 1 else 2
  { low := (4 * x.mantissa - below) * up
    middle := 4 * x.mantissa * up
    high := (4 * x.mantissa + 2) * up
    denominator := down
    closed := x.mantissa % 2 == 0 }

/-- A power of ten as a ratio: numerator and denominator. -/
def tenRatio (p : Int) : Nat × Nat := (Nat.pow 10 p.toNat, Nat.pow 10 (-p).toNat)

/-- Whether `d * 10 ^ p` lies in the interval. -/
def Interval.has (i : Interval) (d : Nat) (p : Int) : Bool :=
  let (up, down) := tenRatio p
  let point := d * up * i.denominator
  let (low, high) := (i.low * down, i.high * down)
  if i.closed then low ≤ point && point ≤ high else low < point && point < high

/-- The `m` with `10 ^ (m - 1) ≤ num / den < 10 ^ m`, for a positive ratio. -/
def magnitude (num den : Nat) : Int :=
  if den ≤ num then (Nat.toDigits 10 (num / den)).length
  else
    let zeros := (Nat.toDigits 10 (den / num)).length - 1
    if Nat.pow 10 zeros * num = den then 1 - (zeros : Int) else -(zeros : Int)

/-- The decimal on the grid `10 ^ p` that reads back as the value, if there is one: of two, the
nearer, and of two equally near, the even one. A last zero is moved into the power; the upper
neighbour of a value just below a power of ten has one. -/
def onGrid? (i : Interval) (p : Int) : Option Decimal :=
  let (up, down) := tenRatio p
  let num := i.middle * down
  let den := i.denominator * up
  let below := num / den
  let twice := 2 * (num % den)
  let upFirst := den < twice || (den == twice && below % 2 == 1)
  let tried := if upFirst then [below + 1, below] else [below, below + 1]
  (tried.find? fun d => 0 < d && i.has d p).map fun d =>
    if d % 10 = 0 then ⟨d / 10, p + 1⟩ else ⟨d, p⟩

/-- The shortest decimal of a positive value. -/
def shortest (x : Binary64) : Decimal :=
  let i := x.interval
  let m := magnitude i.middle i.denominator
  ((List.range' 1 17).findSome? fun (n : Nat) => onGrid? i (m - n)).getD ⟨x.mantissa, 0⟩

end Binary64

/-- Positional notation ends when the point would stand after more than this many digits. -/
def maxPositional : Int := 16

/-- Positional notation ends when this many zeros would follow the point. -/
def maxLeadingZeros : Int := 5

/-- An exponent in print: its sign, plus or minus, and no leading zeros. -/
def exponentText (n : Int) : String := (if n < 0 then "e-" else "e+") ++ toString n.natAbs

/-- A decimal in print, always with a point or an exponent: positional while it is not too long,
otherwise one digit before the point and an exponent. -/
def Decimal.text (d : Decimal) : String :=
  let digits := (toString d.digits).toList
  let point := (digits.length : Int) + d.power
  String.ofList <|
    if 0 ≤ d.power ∧ point ≤ maxPositional then
      digits ++ List.replicate d.power.toNat '0' ++ ['.', '0']
    else if 0 < point ∧ point ≤ maxPositional then
      digits.take point.toNat ++ '.' :: digits.drop point.toNat
    else if -maxLeadingZeros < point ∧ point ≤ 0 then
      '0' :: '.' :: List.replicate (-point).toNat '0' ++ digits
    else
      let fraction := match digits.drop 1 with
        | [] => []
        | rest => '.' :: rest
      digits.take 1 ++ fraction ++ (exponentText (point - 1)).toList

/-- A value in print. -/
def Binary64.text (x : Binary64) : String :=
  if x.mantissa = 0 then "0.0" else x.shortest.text

end Reactor.Text
