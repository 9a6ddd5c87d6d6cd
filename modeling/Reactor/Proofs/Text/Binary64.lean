import Mathlib.Data.Nat.Log
import Mathlib.Tactic.NormNum
import Reactor.Text.Binary64

/-!
# Decimals within the range of binary floating point

A ratio is rounded to a mantissa of at most 53 bits, at an exponent that follows from the lengths of
its numerator and its denominator in bits. So whether a value is beyond the greatest can be told
from these lengths, and a decimal of a word and few enough places has a value.
-/

namespace Reactor.Text.Binary64

variable {num den : Nat} {x y : Binary64} {p q b : Int}

/-- A value with a mantissa of at most 53 bits, or the next power of two, and
an exponent up to `q`. -/
structure Below (x : Binary64) (q : Int) : Prop where
  mantissa : x.mantissa ≤ 2 * leastNormal
  exponent : x.exponent ≤ q

/-- A quotient below an integer is rounded to no more than that integer. -/
theorem divNearest_le {k : Nat} (less : num < k * den) : divNearest num den ≤ k := by
  have below : num / den < k := Nat.div_lt_of_lt_mul (by rwa [Nat.mul_comm] at less)
  unfold divNearest
  simp only
  split
  case isTrue => exact below.le
  case isFalse => split <;> omega

/-- The exponent at which a ratio is rounded leaves at most 53 bits before the point. -/
theorem lt_fitExponent (positive : 0 < den) :
    num * (powerRatio (fitExponent num den)).2 <
      2 * leastNormal * (den * (powerRatio (fitExponent num den)).1) := by
  unfold fitExponent
  simp only
  split
  case isFalse fits => exact Nat.lt_of_not_le fits
  case isTrue =>
    have length : (num.log2 : Int) - den.log2 - 53 ≤
        max ((num.log2 : Int) - den.log2 - 53) minExponent := le_max_left _ _
    generalize max ((num.log2 : Int) - den.log2 - 53) minExponent = guess at length
    have upper : num < 2 ^ (num.log2 + 1) := Nat.lt_log2_self
    have lower : 2 ^ den.log2 ≤ den := Nat.log2_self_le positive.ne'
    simp only [powerRatio, leastNormal, Nat.pow_eq]
    calc num * 2 ^ (-(guess + 1)).toNat
        < 2 ^ (num.log2 + 1) * 2 ^ (-(guess + 1)).toNat :=
          Nat.mul_lt_mul_of_pos_right upper (by positivity)
      _ = 2 ^ (num.log2 + 1 + (-(guess + 1)).toNat) := (pow_add ..).symm
      _ ≤ 2 ^ (53 + den.log2 + (guess + 1).toNat) := Nat.pow_le_pow_right (by norm_num) (by omega)
      _ = 2 ^ 53 * (2 ^ den.log2 * 2 ^ (guess + 1).toNat) := by rw [pow_add, pow_add, mul_assoc]
      _ ≤ 2 * 0x10000000000000 * (den * 2 ^ (guess + 1).toNat) :=
        Nat.mul_le_mul (by norm_num) (Nat.mul_le_mul_right _ lower)

/-- The exponent that fits a ratio is at least 52 below every bound on the difference of its lengths
that leaves room above the least exponent. -/
theorem fitExponent_le (bits : (num.log2 : Int) - den.log2 ≤ b) (least : minExponent + 53 ≤ b) :
    fitExponent num den ≤ b - 52 := by
  unfold fitExponent
  simp only
  split <;> omega

/-- A ratio whose numerator is not much longer than its denominator has a value. -/
theorem ofRatio?_below (positive : 0 < den) (bits : (num.log2 : Int) - den.log2 ≤ b)
    (least : minExponent + 53 ≤ b) (range : b ≤ maxExponent + 51) :
    ∃ x, ofRatio? num den = some x ∧ x.Below (b - 51) := by
  have fit := fitExponent_le bits least
  have rounded : scaled num den (fitExponent num den) ≤ 2 * leastNormal :=
    divNearest_le (lt_fitExponent positive)
  unfold ofRatio?
  split
  case isTrue => exact ⟨zero, rfl, Nat.zero_le _, by simp only [zero]; omega⟩
  case isFalse =>
    simp only
    split
    case isTrue =>
      exact ⟨_, if_pos (by omega), by simp only [leastNormal]; omega, by simp only; omega⟩
    case isFalse => exact ⟨_, if_pos (by omega), rounded, by simp only; omega⟩

/-- The denominator of the ratio of a number is positive. -/
theorem toRatio_pos (x : Binary64) : 0 < x.toRatio.2 := Nat.pow_pos (by norm_num)

/-- The product of values that are not too great has a value. -/
theorem mul?_of_below (hx : x.Below p) (hy : y.Below q) (range : p + q + 106 ≤ maxExponent + 51) :
    ∃ z, x.mul? y = some z := by
  suffices bits : (((x.toRatio.1 * y.toRatio.1).log2 : Int) - (x.toRatio.2 * y.toRatio.2).log2) ≤
      maxExponent + 51 by
    obtain ⟨z, product, -⟩ :=
      ofRatio?_below (Nat.mul_pos x.toRatio_pos y.toRatio_pos) bits (by decide) le_rfl
    exact ⟨z, product⟩
  have numerator : x.toRatio.1 * y.toRatio.1 ≤ 2 ^ (106 + x.exponent.toNat + y.exponent.toNat) := by
    have mx : x.mantissa ≤ 2 ^ 53 := hx.mantissa
    have my : y.mantissa ≤ 2 ^ 53 := hy.mantissa
    calc x.mantissa * Nat.pow 2 x.exponent.toNat * (y.mantissa * Nat.pow 2 y.exponent.toNat)
        ≤ 2 ^ 53 * 2 ^ x.exponent.toNat * (2 ^ 53 * 2 ^ y.exponent.toNat) :=
          Nat.mul_le_mul (Nat.mul_le_mul_right _ mx) (Nat.mul_le_mul_right _ my)
      _ = 2 ^ (106 + x.exponent.toNat + y.exponent.toNat) := by
        rw [← pow_add, ← pow_add, ← pow_add]
        congr 1
        omega
  have denominator : (x.toRatio.2 * y.toRatio.2).log2 =
      (-x.exponent).toNat + (-y.exponent).toNat := by
    have power : x.toRatio.2 * y.toRatio.2 = 2 ^ ((-x.exponent).toNat + (-y.exponent).toNat) :=
      (pow_add ..).symm
    rw [power, Nat.log2_two_pow]
  have length : (x.toRatio.1 * y.toRatio.1).log2 ≤ 106 + x.exponent.toNat + y.exponent.toNat := by
    rcases Nat.eq_zero_or_pos (x.toRatio.1 * y.toRatio.1) with none | some
    · rw [none]
      exact Nat.zero_le _
    · exact (Nat.pow_le_pow_iff_right (by norm_num)).1 ((Nat.log2_self_le some.ne').trans numerator)
  have ex := hx.exponent
  have ey := hy.exponent
  omega

/-- Three places are less than ten bits. -/
theorem log2_ten_pow_le {n m : Nat} (few : n ≤ 3 * m) : (10 ^ n).log2 ≤ 10 * m := by
  suffices small : 10 ^ n ≤ 2 ^ (10 * m) from
    (Nat.pow_le_pow_iff_right (by norm_num)).1 ((Nat.log2_self_le (by positivity)).trans small)
  calc 10 ^ n
      ≤ 10 ^ (3 * m) := Nat.pow_le_pow_right (by norm_num) few
    _ = (10 ^ 3) ^ m := pow_mul ..
    _ ≤ (2 ^ 10) ^ m := Nat.pow_le_pow_left (by norm_num) m
    _ = 2 ^ (10 * m) := (pow_mul ..).symm

/-- Not more places than these follow the first digits of a number of 300 digits that
is longer than a word. -/
theorem tenPow?_below {n : Nat} (few : n ≤ 282) : ∃ t, tenPow? n = some t ∧ t.Below 889 := by
  have length : (10 ^ n).log2 ≤ 10 * 94 := log2_ten_pow_le few
  have bits : ((Nat.pow 10 n).log2 : Int) - Nat.log2 1 ≤ 940 := by
    rw [Nat.pow_eq, show Nat.log2 1 = 0 from rfl]
    omega
  exact ofRatio?_below Nat.one_pos bits (by decide) (by decide)

/-- A decimal of a word and few places has a value. -/
theorem exists_ofDecimal? {c n : Nat} (word : c < 0x10000000000000000) (few : n ≤ 282) :
    ∃ x, ofDecimal? c n = some x := by
  have length : c.log2 ≤ 63 := by
    rcases Nat.eq_zero_or_pos c with rfl | some
    · exact Nat.zero_le _
    · exact Nat.le_of_lt_succ ((Nat.log2_lt some.ne').2 word)
  have bits : (c.log2 : Int) - Nat.log2 1 ≤ 63 := by
    rw [show Nat.log2 1 = 0 from rfl]
    omega
  obtain ⟨x, rounded, below⟩ := ofRatio?_below Nat.one_pos bits (by decide) (by decide)
  rw [ofDecimal?, rounded, Option.bind_some, scaleTen?]
  split
  case isTrue => exact ⟨_, rfl⟩
  case isFalse =>
    obtain ⟨t, power, small⟩ := tenPow?_below few
    obtain ⟨z, product⟩ := mul?_of_below below small (by decide)
    have inTable : n ≤ maxTen := few.trans (by decide)
    exact ⟨z, by simp [inTable, power, product]⟩

end Reactor.Text.Binary64
