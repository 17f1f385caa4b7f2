import Mathlib.Algebra.Order.Ring.Rat
import Mathlib.Data.Nat.Cast.Basic

/-!
# Floats as numbers

A float stands for a number of an ordered type, an infinity, or no number. Comparisons with NaN are
false.
-/

namespace IiotMonitoring

inductive FloatNumber (K : Type) where
  | finite (value : K)
  | infinity (negative : Bool)
  | nan
  deriving DecidableEq, Repr

namespace FloatNumber

/-- The number a float stands for. -/
def toNumber? {K : Type} : FloatNumber K → Option K
  | finite value => some value
  | infinity _ => none
  | nan => none

/-- `math.isfinite`. -/
def isFinite {K : Type} (value : FloatNumber K) : Bool := value.toNumber?.isSome

def neg {K : Type} [Neg K] : FloatNumber K → FloatNumber K
  | finite value => finite (-value)
  | infinity negative => infinity !negative
  | nan => nan

variable {K : Type} [LinearOrder K]

/-- `abs`. -/
def abs [Neg K] [Zero K] : FloatNumber K → FloatNumber K
  | finite value => finite (if value < 0 then -value else value)
  | infinity _ => infinity false
  | nan => nan

/-- The comparison `>=` with a number. -/
def atLeast (value : FloatNumber K) (bound : K) : Bool :=
  match value with
  | finite value => bound ≤ value
  | infinity negative => !negative
  | nan => false

/-- The comparison `<=` with a number. -/
def atMost (value : FloatNumber K) (bound : K) : Bool :=
  match value with
  | finite value => value ≤ bound
  | infinity negative => negative
  | nan => false

/-- The comparison `<` with a number. -/
def below (value : FloatNumber K) (bound : K) : Bool :=
  match value with
  | finite value => value < bound
  | infinity negative => negative
  | nan => false

/-- The comparison `>` with a number. -/
def above (value : FloatNumber K) (bound : K) : Bool :=
  match value with
  | finite value => bound < value
  | infinity negative => !negative
  | nan => false

/-- The comparison `<` of two floats. -/
def less : FloatNumber K → FloatNumber K → Bool
  | finite left, finite right => left < right
  | finite _, infinity negative => !negative
  | infinity negative, finite _ => negative
  | infinity left, infinity right => left && !right
  | _, _ => false

/-- `max(left, right)` of Python, which keeps the first of two that do not compare. -/
def larger (left right : FloatNumber K) : FloatNumber K := if left.less right then right else left

/-- Between two numbers, which NaN is not. -/
def within (low high : K) (value : FloatNumber K) : Bool := value.atLeast low && value.atMost high

@[simp]
theorem atLeast_finite (value bound : K) : (finite value).atLeast bound = decide (bound ≤ value) := rfl

@[simp]
theorem atMost_finite (value bound : K) : (finite value).atMost bound = decide (value ≤ bound) := rfl

@[simp]
theorem within_finite (low high value : K) :
    (finite value).within low high = (decide (low ≤ value) && decide (value ≤ high)) := rfl

@[simp]
theorem within_infinity (low high : K) (negative : Bool) :
    (infinity negative).within low high = false := Bool.not_and_self negative

@[simp]
theorem within_nan (low high : K) : nan.within low high = false := rfl

theorem within_iff {low high : K} {value : FloatNumber K} :
    value.within low high = true ↔ ∃ number, value = finite number ∧ low ≤ number ∧ number ≤ high := by
  cases value with
  | finite number => simp
  | infinity negative => simp
  | nan => simp

@[simp]
theorem below_finite (value bound : K) : (finite value).below bound = decide (value < bound) := rfl

@[simp]
theorem above_finite (value bound : K) : (finite value).above bound = decide (bound < value) := rfl

theorem atLeast_of_le {value : FloatNumber K} {bound bound' : K} (hle : bound ≤ bound')
    (h : value.atLeast bound' = true) : value.atLeast bound = true := by
  cases value with
  | finite value =>
      rw [atLeast_finite, decide_eq_true_eq] at h ⊢
      exact le_trans hle h
  | infinity negative => exact h
  | nan => exact h

/-- The float a 32-bit pattern of IEEE 754 stores. -/
def ofBinary32 (bits : UInt32) : FloatNumber ℚ :=
  let negative : Bool := 2 ^ 31 ≤ bits.toNat
  let exponent := bits.toNat / 2 ^ 23 % 256
  let fraction := bits.toNat % 2 ^ 23
  if exponent = 255 then
    if fraction = 0 then infinity negative else nan
  else
    let magnitude : Nat :=
      if exponent = 0 then fraction else (2 ^ 23 + fraction) * 2 ^ (exponent - 1)
    finite (mkRat (if negative then -(magnitude : Int) else magnitude) (2 ^ 149))

example : ofBinary32 0xc2700000 = finite (-60) := by decide

theorem binary32_magnitude_lt (bits : UInt32) (h : bits.toNat / 2 ^ 23 % 256 ≠ 255) :
    (if bits.toNat / 2 ^ 23 % 256 = 0 then bits.toNat % 2 ^ 23
      else (2 ^ 23 + bits.toNat % 2 ^ 23) * 2 ^ (bits.toNat / 2 ^ 23 % 256 - 1)) < 2 ^ 24 * 2 ^ 253 := by
  have hfraction : bits.toNat % 2 ^ 23 < 2 ^ 23 := Nat.mod_lt _ (by decide)
  have hexponent : bits.toNat / 2 ^ 23 % 256 < 256 := Nat.mod_lt _ (by decide)
  split_ifs
  · calc bits.toNat % 2 ^ 23 < 2 ^ 23 := hfraction
      _ ≤ 2 ^ 24 := Nat.pow_le_pow_right (by decide) (by decide)
      _ ≤ 2 ^ 24 * 2 ^ 253 := Nat.le_mul_of_pos_right _ (Nat.two_pow_pos 253)
  · calc (2 ^ 23 + bits.toNat % 2 ^ 23) * 2 ^ (bits.toNat / 2 ^ 23 % 256 - 1)
        < 2 ^ 24 * 2 ^ (bits.toNat / 2 ^ 23 % 256 - 1) :=
          Nat.mul_lt_mul_of_pos_right (by omega) (Nat.two_pow_pos _)
      _ ≤ 2 ^ 24 * 2 ^ 253 := Nat.mul_le_mul_left _ (Nat.pow_le_pow_right (by decide) (by omega))

/-- A stored number is a whole multiple of the least one, with the sign of its first bit. -/
theorem ofBinary32_magnitude {bits : UInt32} {number : ℚ} (h : ofBinary32 bits = finite number) :
    ∃ magnitude : Nat, magnitude < 2 ^ 24 * 2 ^ 253 ∧
      number = if 2 ^ 31 ≤ bits.toNat then -((magnitude : ℚ) / 2 ^ 149) else (magnitude : ℚ) / 2 ^ 149 := by
  unfold ofBinary32 at h
  dsimp only at h
  by_cases hspecial : bits.toNat / 2 ^ 23 % 256 = 255
  · rw [if_pos hspecial] at h
    split at h <;> cases h
  · rw [if_neg hspecial] at h
    obtain rfl := finite.inj h
    refine ⟨_, binary32_magnitude_lt bits hspecial, ?_⟩
    generalize (if bits.toNat / 2 ^ 23 % 256 = 0 then bits.toNat % 2 ^ 23
      else (2 ^ 23 + bits.toNat % 2 ^ 23) * 2 ^ (bits.toNat / 2 ^ 23 % 256 - 1)) = magnitude
    rw [Rat.mkRat_eq_div, Nat.cast_pow, Nat.cast_ofNat]
    by_cases hnegative : 2 ^ 31 ≤ bits.toNat
    · rw [if_pos (decide_eq_true hnegative), if_pos hnegative, Int.cast_neg, Int.cast_natCast, neg_div]
    · rw [if_neg (by simpa using hnegative), if_neg hnegative, Int.cast_natCast]

end FloatNumber

end IiotMonitoring
