import IiotMonitoring.Lib.CFormat
import IiotMonitoring.Lib.JsonReadBack
import Mathlib.Data.Int.Log
import Mathlib.Data.List.DropRight
import Mathlib.Data.Rat.Floor

/-!
# Numbers with significant digits

What `%.5g` and its like write: a number rounded to a count of significant digits, without zeros at its
end, and with an exponent where it is very large or very small. What is written is a number of JSON, and
it is read as the rounded one.
-/

namespace IiotMonitoring

/-! ### Rounding -/

/-- The nearest natural number, and the even one of two. -/
def roundHalfEven (value : ℚ) : ℕ :=
  if value - ⌊value⌋₊ < 1 / 2 then ⌊value⌋₊
  else if 1 / 2 < value - ⌊value⌋₊ then ⌊value⌋₊ + 1
  else if ⌊value⌋₊ % 2 = 0 then ⌊value⌋₊
  else ⌊value⌋₊ + 1

theorem roundHalfEven_cases (value : ℚ) :
    (roundHalfEven value = ⌊value⌋₊ ∧ value - ⌊value⌋₊ ≤ 1 / 2) ∨
      (roundHalfEven value = ⌊value⌋₊ + 1 ∧ 1 / 2 ≤ value - ⌊value⌋₊) := by
  unfold roundHalfEven
  split_ifs with hbelow habove heven
  · exact .inl ⟨rfl, hbelow.le⟩
  · exact .inr ⟨rfl, habove.le⟩
  · exact .inl ⟨rfl, not_lt.mp habove⟩
  · exact .inr ⟨rfl, not_lt.mp hbelow⟩

theorem roundHalfEven_near {value : ℚ} (h : 0 ≤ value) : |(roundHalfEven value : ℚ) - value| ≤ 1 / 2 := by
  have hfloor := Nat.floor_le h
  have hnext := Nat.lt_floor_add_one value
  rw [abs_le]
  rcases roundHalfEven_cases value with ⟨hround, hle⟩ | ⟨hround, hle⟩
  · rw [hround]
    constructor <;> linarith
  · rw [hround]
    push_cast
    constructor <;> linarith

theorem le_roundHalfEven {value : ℚ} {number : ℕ} (h : number ≤ value) : number ≤ roundHalfEven value := by
  have hfloor := Nat.le_floor h
  rcases roundHalfEven_cases value with ⟨hround, -⟩ | ⟨hround, -⟩ <;> omega

theorem roundHalfEven_le {value : ℚ} {number : ℕ} (hnonneg : 0 ≤ value) (h : value < number) :
    roundHalfEven value ≤ number := by
  have hfloor := (Nat.floor_lt hnonneg).mpr h
  rcases roundHalfEven_cases value with ⟨hround, -⟩ | ⟨hround, -⟩ <;> omega

/-! ### Significant digits -/

/-- `significand` over `10 ^ digits`, times `10 ^ exponent`. -/
structure Scientific where
  significand : ℕ
  exponent : ℤ

/-- A number with one digit before the point and `places` digits after it. -/
def scientific (places : ℕ) (magnitude : ℚ) : Scientific :=
  let exponent := Int.log 10 magnitude
  let significand := roundHalfEven (magnitude * 10 ^ (places - exponent))
  if significand = 10 ^ (places + 1) then ⟨10 ^ places, exponent + 1⟩ else ⟨significand, exponent⟩

def Scientific.value (places : ℕ) (number : Scientific) : ℚ :=
  number.significand * 10 ^ (number.exponent - places)

/-- The value is rounded to one digit before the point and `places` digits after it. -/
def RoundsTo (places : ℕ) (value rounded : ℚ) : Prop :=
  (value = 0 ∧ rounded = 0) ∨
    ∃ significand exponent : ℤ, (10 : ℚ) ^ exponent ≤ |value| ∧ |value| < 10 ^ (exponent + 1) ∧
      rounded = significand * 10 ^ (exponent - places) ∧
        |rounded - value| ≤ 10 ^ (exponent - places) / 2

section Significant

variable {places : ℕ} {magnitude : ℚ}

theorem scaled_range (h : 0 < magnitude) :
    ((10 ^ places : ℕ) : ℚ) ≤ magnitude * 10 ^ (places - Int.log 10 magnitude) ∧
      magnitude * 10 ^ (places - Int.log 10 magnitude) < ((10 ^ (places + 1) : ℕ) : ℚ) := by
  have hlow : ((10 : ℕ) : ℚ) ^ Int.log 10 magnitude ≤ magnitude := Int.zpow_log_le_self (by decide) h
  have hhigh : magnitude < ((10 : ℕ) : ℚ) ^ (Int.log 10 magnitude + 1) :=
    Int.lt_zpow_succ_log_self (by decide) magnitude
  have hten : (0 : ℚ) < 10 ^ (places - Int.log 10 magnitude) := zpow_pos (by norm_num) _
  push_cast at hlow hhigh ⊢
  constructor
  · calc (10 : ℚ) ^ places = 10 ^ (Int.log 10 magnitude) * 10 ^ (places - Int.log 10 magnitude) := by
          rw [← zpow_add₀ (by norm_num), ← zpow_natCast]
          congr 1
          omega
      _ ≤ magnitude * 10 ^ (places - Int.log 10 magnitude) := mul_le_mul_of_nonneg_right hlow hten.le
  · calc magnitude * 10 ^ (places - Int.log 10 magnitude)
        < 10 ^ (Int.log 10 magnitude + 1) * 10 ^ (places - Int.log 10 magnitude) :=
          mul_lt_mul_of_pos_right hhigh hten
      _ = 10 ^ (places + 1) := by
          rw [← zpow_add₀ (by norm_num), ← zpow_natCast]
          congr 1
          push_cast
          omega

theorem scientific_zero : scientific places 0 = ⟨0, 0⟩ := by
  have hround : roundHalfEven 0 = 0 := by simp [roundHalfEven]
  have hpow : 10 ^ (places + 1) ≠ 0 := pow_ne_zero _ (by decide)
  unfold scientific
  dsimp only
  rw [zero_mul, hround, if_neg hpow.symm, Int.log_zero_right]

/-- Before a carry out of the first digit. -/
theorem rounded_range (h : 0 < magnitude) :
    10 ^ places ≤ roundHalfEven (magnitude * 10 ^ (places - Int.log 10 magnitude)) ∧
      roundHalfEven (magnitude * 10 ^ (places - Int.log 10 magnitude)) ≤ 10 ^ (places + 1) := by
  obtain ⟨hlow, hhigh⟩ := @scaled_range places _ h
  have hnonneg : (0 : ℚ) ≤ magnitude * 10 ^ (places - Int.log 10 magnitude) :=
    mul_nonneg h.le (zpow_nonneg (by norm_num) _)
  exact ⟨le_roundHalfEven hlow, roundHalfEven_le hnonneg hhigh⟩

theorem significand_range (h : 0 < magnitude) :
    10 ^ places ≤ (scientific places magnitude).significand ∧
      (scientific places magnitude).significand < 10 ^ (places + 1) := by
  obtain ⟨hlow, hhigh⟩ := @rounded_range places _ h
  unfold scientific
  dsimp only
  split_ifs with hcarry
  · exact ⟨le_rfl, Nat.pow_lt_pow_right (by decide) (Nat.lt_succ_self places)⟩
  · exact ⟨hlow, lt_of_le_of_ne hhigh hcarry⟩

theorem significand_lt (h : 0 ≤ magnitude) :
    (scientific places magnitude).significand < 10 ^ (places + 1) := by
  rcases h.eq_or_lt with hzero | hpos
  · rw [← hzero, scientific_zero]
    exact pow_pos (by decide) _
  · exact (significand_range hpos).2

theorem scientific_exponent :
    (scientific places magnitude).exponent = Int.log 10 magnitude ∨
      (scientific places magnitude).exponent = Int.log 10 magnitude + 1 := by
  unfold scientific
  dsimp only
  split
  · exact .inr rfl
  · exact .inl rfl

/-- A carry leaves the value. -/
theorem scientific_value :
    (scientific places magnitude).value places =
      roundHalfEven (magnitude * 10 ^ (places - Int.log 10 magnitude)) *
        10 ^ (Int.log 10 magnitude - places) := by
  unfold scientific Scientific.value
  dsimp only
  split_ifs with hcarry
  · rw [hcarry]
    push_cast
    rw [← zpow_natCast, ← zpow_natCast, ← zpow_add₀ (by norm_num), ← zpow_add₀ (by norm_num)]
    congr 1
    push_cast
    ring
  · rfl

theorem scientific_roundsTo (h : 0 ≤ magnitude) :
    RoundsTo places magnitude ((scientific places magnitude).value places) := by
  rcases h.eq_or_lt with hzero | hpos
  · left
    rw [← hzero, scientific_zero]
    exact ⟨rfl, by simp [Scientific.value]⟩
  · right
    have hscale : (0 : ℚ) < 10 ^ (Int.log 10 magnitude - places) := zpow_pos (by norm_num) _
    have hback : magnitude * 10 ^ (places - Int.log 10 magnitude) * 10 ^ (Int.log 10 magnitude - places) =
        magnitude := by
      rw [mul_assoc, ← zpow_add₀ (by norm_num)]
      simp
    have hnear := roundHalfEven_near
      (mul_nonneg hpos.le (zpow_nonneg (by norm_num : (0 : ℚ) ≤ 10) (places - Int.log 10 magnitude)))
    refine ⟨roundHalfEven (magnitude * 10 ^ (places - Int.log 10 magnitude)), Int.log 10 magnitude,
      ?_, ?_, ?_, ?_⟩
    · rw [abs_of_pos hpos]
      exact_mod_cast Int.zpow_log_le_self (b := 10) (by decide) hpos
    · rw [abs_of_pos hpos]
      exact_mod_cast Int.lt_zpow_succ_log_self (b := 10) (by decide) magnitude
    · rw [scientific_value, Int.cast_natCast]
    · rw [scientific_value]
      calc |(roundHalfEven (magnitude * 10 ^ (places - Int.log 10 magnitude)) : ℚ) *
              10 ^ (Int.log 10 magnitude - places) - magnitude|
          = |((roundHalfEven (magnitude * 10 ^ (places - Int.log 10 magnitude)) : ℚ) -
              magnitude * 10 ^ (places - Int.log 10 magnitude)) *
                10 ^ (Int.log 10 magnitude - places)| := by
            rw [sub_mul, hback]
        _ = |(roundHalfEven (magnitude * 10 ^ (places - Int.log 10 magnitude)) : ℚ) -
              magnitude * 10 ^ (places - Int.log 10 magnitude)| *
                10 ^ (Int.log 10 magnitude - places) := by
            rw [abs_mul, abs_of_pos hscale]
        _ ≤ 1 / 2 * 10 ^ (Int.log 10 magnitude - places) := mul_le_mul_of_nonneg_right hnear hscale.le
        _ = 10 ^ (Int.log 10 magnitude - places) / 2 := by ring

theorem RoundsTo.neg {value rounded : ℚ} (h : RoundsTo places value rounded) :
    RoundsTo places (-value) (-rounded) := by
  rcases h with ⟨hvalue, hrounded⟩ | ⟨significand, exponent, hlow, hhigh, hrounded, hnear⟩
  · left
    rw [hvalue, hrounded]
    exact ⟨neg_zero, neg_zero⟩
  · right
    refine ⟨-significand, exponent, by rwa [abs_neg], by rwa [abs_neg], ?_, ?_⟩
    · rw [hrounded]
      push_cast
      ring
    · rwa [neg_sub_neg, abs_sub_comm]

theorem RoundsTo.abs_le {value rounded : ℚ} (h : RoundsTo places value rounded) :
    |rounded| ≤ 2 * |value| := by
  rcases h with ⟨rfl, rfl⟩ | ⟨significand, exponent, hlow, -, -, hnear⟩
  · rw [abs_zero, mul_zero]
  · have hplace : (10 : ℚ) ^ (exponent - places) ≤ 10 ^ exponent :=
      zpow_le_zpow_right₀ (by norm_num) (by omega)
    have hsplit := abs_add_le (rounded - value) value
    rw [sub_add_cancel] at hsplit
    linarith [abs_nonneg value]

end Significant

/-! ### Order -/

theorem roundHalfEven_le_iff {value : ℚ} (h : 0 ≤ value) {number : ℕ} (heven : number % 2 = 0) :
    roundHalfEven value ≤ number ↔ value ≤ number + 1 / 2 := by
  have hfloor := Nat.floor_le h
  have hnext := Nat.lt_floor_add_one value
  rcases lt_trichotomy ⌊value⌋₊ number with hbelow | hequal | habove
  · have hround : roundHalfEven value ≤ ⌊value⌋₊ + 1 := by
      rcases roundHalfEven_cases value with ⟨hcase, -⟩ | ⟨hcase, -⟩
      · exact hcase.trans_le (Nat.le_succ _)
      · exact hcase.le
    have hstep : (⌊value⌋₊ : ℚ) + 1 ≤ number := by exact_mod_cast hbelow
    exact iff_of_true (hround.trans hbelow) (by linarith)
  · unfold roundHalfEven
    rw [hequal]
    split_ifs with hless hmore
    · exact iff_of_true le_rfl (by linarith)
    · exact iff_of_false (Nat.not_succ_le_self number) (by linarith)
    · exact iff_of_true le_rfl (by linarith)
  · have hround : ⌊value⌋₊ ≤ roundHalfEven value := le_roundHalfEven hfloor
    have hstep : (number : ℚ) + 1 ≤ ⌊value⌋₊ := by exact_mod_cast habove
    apply iff_of_false
    · omega
    · linarith

section Order

variable {places : ℕ} {magnitude : ℚ}

/-- A rounded number stays between the powers of ten around it. -/
theorem scientific_value_range (h : 0 < magnitude) :
    (10 : ℚ) ^ Int.log 10 magnitude ≤ (scientific places magnitude).value places ∧
      (scientific places magnitude).value places ≤ 10 ^ (Int.log 10 magnitude + 1) := by
  obtain ⟨hlow, hhigh⟩ := @rounded_range places _ h
  have hscale : (0 : ℚ) ≤ 10 ^ (Int.log 10 magnitude - places) := zpow_nonneg (by norm_num) _
  have hlowCast : (10 : ℚ) ^ places ≤
      roundHalfEven (magnitude * 10 ^ (places - Int.log 10 magnitude)) := by exact_mod_cast hlow
  have hhighCast : (roundHalfEven (magnitude * 10 ^ (places - Int.log 10 magnitude)) : ℚ) ≤
      10 ^ (places + 1) := by exact_mod_cast hhigh
  rw [scientific_value]
  constructor
  · calc (10 : ℚ) ^ Int.log 10 magnitude = 10 ^ places * 10 ^ (Int.log 10 magnitude - places) := by
          rw [← zpow_natCast, ← zpow_add₀ (by norm_num)]
          congr 1
          omega
      _ ≤ _ := mul_le_mul_of_nonneg_right hlowCast hscale
  · calc (roundHalfEven (magnitude * 10 ^ (places - Int.log 10 magnitude)) : ℚ) *
            10 ^ (Int.log 10 magnitude - places)
        ≤ 10 ^ (places + 1) * 10 ^ (Int.log 10 magnitude - places) :=
          mul_le_mul_of_nonneg_right hhighCast hscale
      _ = 10 ^ (Int.log 10 magnitude + 1) := by
          rw [← zpow_natCast, ← zpow_add₀ (by norm_num)]
          congr 1
          push_cast
          omega

/-- Nothing is rounded to a number between two decimals next to each other. -/
theorem scientific_value_le_of_lt (h : 0 < magnitude) {significand : ℕ} {exponent : ℤ}
    (hlow : 10 ^ places ≤ significand) (hhigh : significand < 10 ^ (places + 1))
    (hless : (scientific places magnitude).value places < (significand + 1) * 10 ^ (exponent - places)) :
    (scientific places magnitude).value places ≤ significand * 10 ^ (exponent - places) := by
  obtain ⟨hlow', hhigh'⟩ := @significand_range places _ h
  unfold Scientific.value at hless ⊢
  generalize scientific places magnitude = rounded at *
  have hscale : ∀ exponent : ℤ, (0 : ℚ) < 10 ^ (exponent - places) := fun _ => zpow_pos (by norm_num) _
  have hshift : ∀ exponent : ℤ, (10 : ℚ) ^ (places + 1) * 10 ^ (exponent - places) =
      10 ^ places * 10 ^ (exponent + 1 - places) := by
    intro exponent
    rw [← zpow_natCast, ← zpow_natCast, ← zpow_add₀ (by norm_num), ← zpow_add₀ (by norm_num)]
    congr 1
    push_cast
    omega
  have hmono : ∀ {low high : ℤ}, low + 1 ≤ high →
      (10 : ℚ) ^ (places + 1) * 10 ^ (low - places) ≤ 10 ^ places * 10 ^ (high - places) := by
    intro low high hle
    rw [hshift]
    exact mul_le_mul_of_nonneg_left (zpow_le_zpow_right₀ (by norm_num) (by omega)) (by positivity)
  rcases lt_trichotomy rounded.exponent exponent with hbelow | hequal | habove
  · have hsmall : (rounded.significand : ℚ) ≤ 10 ^ (places + 1) := by exact_mod_cast hhigh'.le
    have hlarge : (10 : ℚ) ^ places ≤ significand := by exact_mod_cast hlow
    calc (rounded.significand : ℚ) * 10 ^ (rounded.exponent - places)
        ≤ 10 ^ (places + 1) * 10 ^ (rounded.exponent - places) :=
          mul_le_mul_of_nonneg_right hsmall (hscale _).le
      _ ≤ 10 ^ places * 10 ^ (exponent - places) := hmono (Int.add_one_le_of_lt hbelow)
      _ ≤ significand * 10 ^ (exponent - places) := mul_le_mul_of_nonneg_right hlarge (hscale _).le
  · rw [hequal] at hless ⊢
    have hnext := lt_of_mul_lt_mul_right hless (hscale _).le
    have hle : rounded.significand ≤ significand := Nat.lt_succ_iff.mp (by exact_mod_cast hnext)
    exact mul_le_mul_of_nonneg_right (by exact_mod_cast hle) (hscale _).le
  · have hsmall : (significand : ℚ) + 1 ≤ 10 ^ (places + 1) := by exact_mod_cast hhigh
    have hlarge : (10 : ℚ) ^ places ≤ rounded.significand := by exact_mod_cast hlow'
    refine absurd hless (not_lt.mpr ?_)
    calc ((significand : ℚ) + 1) * 10 ^ (exponent - places)
        ≤ 10 ^ (places + 1) * 10 ^ (exponent - places) := mul_le_mul_of_nonneg_right hsmall (hscale _).le
      _ ≤ 10 ^ places * 10 ^ (rounded.exponent - places) := hmono (Int.add_one_le_of_lt habove)
      _ ≤ rounded.significand * 10 ^ (rounded.exponent - places) :=
          mul_le_mul_of_nonneg_right hlarge (hscale _).le

/-- What is rounded to at most a decimal whose last digit is even. -/
theorem scientific_value_le_iff (h : 0 ≤ magnitude) {significand : ℕ} {exponent : ℤ}
    (hlow : 10 ^ places ≤ significand) (hhigh : significand < 10 ^ (places + 1))
    (heven : significand % 2 = 0) :
    (scientific places magnitude).value places ≤ significand * 10 ^ (exponent - places) ↔
      magnitude ≤ (significand + 1 / 2) * 10 ^ (exponent - places) := by
  have hscale : (0 : ℚ) < 10 ^ (exponent - places) := zpow_pos (by norm_num) _
  have hhalf : (significand : ℚ) * 10 ^ (exponent - places) ≤
      (significand + 1 / 2) * 10 ^ (exponent - places) :=
    mul_le_mul_of_nonneg_right (by linarith) hscale.le
  have hfloor : (10 : ℚ) ^ exponent ≤ significand * 10 ^ (exponent - places) := by
    have hcast : (10 : ℚ) ^ places ≤ significand := by exact_mod_cast hlow
    calc (10 : ℚ) ^ exponent = 10 ^ places * 10 ^ (exponent - places) := by
          rw [← zpow_natCast, ← zpow_add₀ (by norm_num)]
          congr 1
          omega
      _ ≤ _ := mul_le_mul_of_nonneg_right hcast hscale.le
  have hceil : (significand + 1 / 2 : ℚ) * 10 ^ (exponent - places) < 10 ^ (exponent + 1) := by
    have hcast : (significand : ℚ) + 1 ≤ 10 ^ (places + 1) := by exact_mod_cast hhigh
    calc (significand + 1 / 2 : ℚ) * 10 ^ (exponent - places)
        < 10 ^ (places + 1) * 10 ^ (exponent - places) :=
          mul_lt_mul_of_pos_right (by linarith) hscale
      _ = 10 ^ (exponent + 1) := by
          rw [← zpow_natCast, ← zpow_add₀ (by norm_num)]
          congr 1
          push_cast
          omega
  rcases h.eq_or_lt with hzero | hpos
  · have hnonneg : (0 : ℚ) ≤ significand * 10 ^ (exponent - places) := by positivity
    rw [← hzero, scientific_zero]
    apply iff_of_true
    · simpa [Scientific.value] using hnonneg
    · exact hnonneg.trans hhalf
  · have hbase := Int.zpow_log_le_self (R := ℚ) (b := 10) (by decide) hpos
    have hnext := Int.lt_zpow_succ_log_self (R := ℚ) (b := 10) (by decide) magnitude
    push_cast at hbase hnext
    obtain ⟨hvalueLow, hvalueHigh⟩ := @scientific_value_range places _ hpos
    have hmono : ∀ {low high : ℤ}, low ≤ high → (10 : ℚ) ^ low ≤ 10 ^ high :=
      fun hle => zpow_le_zpow_right₀ (by norm_num) hle
    rcases lt_trichotomy (Int.log 10 magnitude) exponent with hbelow | hequal | habove
    · have hpower := hmono (Int.add_one_le_of_lt hbelow)
      apply iff_of_true
      · exact (hvalueHigh.trans hpower).trans hfloor
      · exact (hnext.le.trans hpower).trans (hfloor.trans hhalf)
    · have hback : magnitude = magnitude * 10 ^ (places - exponent) * 10 ^ (exponent - places) := by
        rw [mul_assoc, ← zpow_add₀ (by norm_num)]
        simp
      have hnonneg : (0 : ℚ) ≤ magnitude * 10 ^ (places - exponent) :=
        mul_nonneg hpos.le (zpow_nonneg (by norm_num) _)
      have hround := roundHalfEven_le_iff hnonneg heven
      rw [scientific_value, hequal, mul_le_mul_iff_left₀ hscale, Nat.cast_le, hround]
      conv_rhs => rw [hback, mul_le_mul_iff_left₀ hscale]
    · have hpower := hmono (Int.add_one_le_of_lt habove)
      apply iff_of_false
      · exact not_le.mpr (lt_of_lt_of_le (lt_of_le_of_lt hhalf hceil) (hpower.trans hvalueLow))
      · exact not_le.mpr (lt_of_lt_of_le hceil (hpower.trans hbase))

end Order

/-! ### Digits -/

def lastDigit (number : ℕ) : Fin 10 := ⟨number % 10, Nat.mod_lt number (Nat.succ_pos 9)⟩

@[simp]
theorem val_lastDigit (number : ℕ) : (lastDigit number).val = number % 10 := rfl

/-- The last digits of a number, with zeros in front. -/
def lastDigits : ℕ → ℕ → List (Fin 10)
  | 0, _ => []
  | width + 1, number => lastDigits width (number / 10) ++ [lastDigit number]

/-- Digits that follow a point. -/
def pointValue (digits : List (Fin 10)) : ℚ :=
  (digits.foldl (fun (number : ℕ) (digit : Fin 10) => 10 * number + digit) 0 : ℕ) / 10 ^ digits.length

@[simp]
theorem length_lastDigits (width number : ℕ) : (lastDigits width number).length = width := by
  induction width generalizing number with
  | zero => rfl
  | succ width ih =>
      unfold lastDigits
      rw [List.length_append, ih, List.length_singleton]

theorem foldl_lastDigits (width number start : ℕ) :
    (lastDigits width number).foldl (fun (number : ℕ) (digit : Fin 10) => 10 * number + digit) start =
      start * 10 ^ width + number % 10 ^ width := by
  induction width generalizing number with
  | zero => simp [lastDigits, Nat.mod_one]
  | succ width ih =>
      unfold lastDigits
      rw [List.foldl_append, ih, List.foldl_cons, List.foldl_nil, val_lastDigit, pow_succ', Nat.mod_mul]
      ring

theorem pointValue_concat_zero (digits : List (Fin 10)) {digit : Fin 10} (hzero : digit.val = 0) :
    pointValue (digits ++ [digit]) = pointValue digits := by
  unfold pointValue
  rw [List.foldl_append, List.length_append, List.length_singleton, List.foldl_cons, List.foldl_nil,
    hzero, add_zero, pow_succ]
  push_cast
  rw [mul_comm, mul_div_mul_right _ _ (by norm_num)]

/-- Zeros at the end say nothing. -/
theorem pointValue_strip (digits : List (Fin 10)) :
    pointValue (digits.rdropWhile (·.val = 0)) = pointValue digits := by
  induction digits using List.reverseRecOn with
  | nil => rfl
  | append_singleton digits digit ih =>
      by_cases hzero : digit.val = 0
      · rw [List.rdropWhile_concat_pos _ _ _ (by simpa using hzero), ih, pointValue_concat_zero _ hzero]
      · rw [List.rdropWhile_concat_neg _ _ _ (by simpa using hzero)]

/-- The digits after a point, without zeros at the end. -/
def fractionDigits (width number : ℕ) : Option Digits :=
  match (lastDigits width number).rdropWhile (·.val = 0) with
  | [] => none
  | head :: tail => some ⟨head, tail⟩

def Digits.fractionValue (digits : Digits) : ℚ := digits.value / 10 ^ digits.toList.length

theorem fractionDigits_value (width number : ℕ) :
    ((fractionDigits width number).map Digits.fractionValue).getD 0 =
      ((number % 10 ^ width : ℕ) : ℚ) / 10 ^ width := by
  have hall : pointValue (lastDigits width number) =
      ((number % 10 ^ width : ℕ) : ℚ) / 10 ^ width := by
    unfold pointValue
    rw [foldl_lastDigits, length_lastDigits, zero_mul, zero_add]
  rw [← hall, ← pointValue_strip]
  unfold fractionDigits
  cases (lastDigits width number).rdropWhile (·.val = 0) with
  | nil => simp [pointValue]
  | cons head tail => rfl

theorem length_fractionDigits (width number : ℕ) :
    (printFraction (fractionDigits width number)).length ≤ width + 1 := by
  have hlength := (List.rdropWhile_prefix (·.val = 0) (lastDigits width number)).length_le
  rw [length_lastDigits] at hlength
  unfold fractionDigits
  cases hkept : (lastDigits width number).rdropWhile (·.val = 0) with
  | nil => simp [printFraction]
  | cons head tail =>
      rw [hkept] at hlength
      simpa [printFraction, Digits.print, Digits.toList] using hlength

/-- At least two digits. -/
def exponentDigits (number : ℕ) : Digits :=
  ⟨lastDigit (number / 10 ^ max 1 (Nat.log 10 number)), lastDigits (max 1 (Nat.log 10 number)) number⟩

theorem exponentDigits_value (number : ℕ) : (exponentDigits number).value = number := by
  have hlt : number < 10 ^ max 1 (Nat.log 10 number) * 10 := by
    rw [← pow_succ]
    calc number < 10 ^ (Nat.log 10 number + 1) := Nat.lt_pow_succ_log_self (by decide) number
      _ ≤ 10 ^ (max 1 (Nat.log 10 number) + 1) := Nat.pow_le_pow_right (by decide) (by omega)
  unfold Digits.value Digits.toList exponentDigits
  rw [List.foldl_cons, foldl_lastDigits, val_lastDigit, mul_zero, zero_add,
    Nat.mod_eq_of_lt (Nat.div_lt_of_lt_mul hlt)]
  exact Nat.div_add_mod' number _

theorem length_exponentDigits {number : ℕ} (h : number < 100) :
    (exponentDigits number).toList.length = 2 := by
  have hlog : Nat.log 10 number < 2 := Nat.log_lt_of_lt_pow' (by decide) h
  unfold exponentDigits Digits.toList
  rw [List.length_cons, length_lastDigits]
  omega

/-! ### The number -/

/-- With the digits of the significand around the point. -/
def fixedNumber (negative : Bool) (significand shift : ℕ) : JsonNumber :=
  ⟨negative, significand / 10 ^ shift, fractionDigits shift significand, none⟩

/-- With an exponent. -/
def exponentNumber (places : ℕ) (negative : Bool) (number : Scientific) : JsonNumber :=
  { fixedNumber negative number.significand places with
    exponent := some ⟨false, some (number.exponent < 0), exponentDigits number.exponent.natAbs⟩ }

/-- `%g` with `places + 1` significant digits. -/
def generalNumber (places : ℕ) (negative : Bool) (magnitude : ℚ) : JsonNumber :=
  let number := scientific places magnitude
  if -4 ≤ number.exponent ∧ number.exponent ≤ places then
    fixedNumber negative number.significand (places - number.exponent).toNat
  else exponentNumber places negative number

theorem JsonNumber.value_eq (number : JsonNumber) :
    number.value = (if number.negative then -1 else 1) *
      (number.whole + (number.fraction.map Digits.fractionValue).getD 0) *
        10 ^ ((number.exponent.map JsonExponent.value).getD 0) := by
  unfold JsonNumber.value
  cases number.fraction <;> rfl

theorem fixedNumber_value (negative : Bool) (significand shift : ℕ) :
    (fixedNumber negative significand shift).value =
      (if negative then -1 else 1) * (significand / 10 ^ shift) := by
  have hsplit : ((significand / 10 ^ shift : ℕ) : ℚ) + ((significand % 10 ^ shift : ℕ) : ℚ) / 10 ^ shift =
      significand / 10 ^ shift := by
    rw [eq_div_iff (by positivity), add_mul, div_mul_cancel₀ _ (by positivity)]
    exact_mod_cast Nat.div_add_mod' significand (10 ^ shift)
  rw [JsonNumber.value_eq]
  unfold fixedNumber
  rw [fractionDigits_value, hsplit, Option.map_none, Option.getD_none, zpow_zero, mul_one]

theorem exponentNumber_value (places : ℕ) (negative : Bool) (number : Scientific) :
    (exponentNumber places negative number).value =
      (if negative then -1 else 1) * (number.significand / 10 ^ places) * 10 ^ number.exponent := by
  have hexponent : (JsonExponent.value
      ⟨false, some (number.exponent < 0), exponentDigits number.exponent.natAbs⟩) = number.exponent := by
    unfold JsonExponent.value
    dsimp only
    rw [exponentDigits_value]
    split_ifs with hnegative
    · have hbelow := of_decide_eq_true (Option.some.inj hnegative)
      omega
    · have habove : ¬ number.exponent < 0 := by simpa using hnegative
      omega
  have hfixed := fixedNumber_value negative number.significand places
  rw [JsonNumber.value_eq] at hfixed ⊢
  unfold exponentNumber
  dsimp only
  rw [Option.map_some, Option.getD_some, hexponent, ← hfixed]
  simp [fixedNumber]

/-- Either way the rounded number is written. -/
theorem generalNumber_value (places : ℕ) (negative : Bool) (magnitude : ℚ) :
    (generalNumber places negative magnitude).value =
      (if negative then -1 else 1) * (scientific places magnitude).value places := by
  unfold generalNumber Scientific.value
  dsimp only
  by_cases hfixed : -4 ≤ (scientific places magnitude).exponent ∧
      (scientific places magnitude).exponent ≤ places
  · rw [if_pos hfixed]
    have hshift : ((places - (scientific places magnitude).exponent).toNat : ℤ) =
        places - (scientific places magnitude).exponent := Int.toNat_of_nonneg (by omega)
    rw [fixedNumber_value, ← zpow_natCast, hshift, div_eq_mul_inv, ← zpow_neg, neg_sub]
  · rw [if_neg hfixed, exponentNumber_value, zpow_sub₀ (by norm_num), zpow_natCast]
    ring

theorem generalNumber_roundsTo (places : ℕ) (negative : Bool) {magnitude : ℚ} (h : 0 ≤ magnitude) :
    RoundsTo places (if negative then -magnitude else magnitude)
      (generalNumber places negative magnitude).value := by
  have hrounds := @scientific_roundsTo places _ h
  rw [generalNumber_value]
  cases negative with
  | true => simpa using hrounds.neg
  | false => simpa using hrounds

/-- A number that is not far above a decimal is written as one that is not above it. -/
theorem generalNumber_value_le {places significand : ℕ} {exponent : ℤ} {negative : Bool} {magnitude : ℚ}
    (h : 0 ≤ magnitude) (hlow : 10 ^ places ≤ significand) (hhigh : significand < 10 ^ (places + 1))
    (heven : significand % 2 = 0)
    (hnumber : (if negative then -magnitude else magnitude) ≤
      (significand + 1 / 2) * 10 ^ (exponent - places)) :
    (generalNumber places negative magnitude).value ≤ significand * 10 ^ (exponent - places) := by
  have hrounds := @scientific_value_le_iff places _ h _ exponent hlow hhigh heven
  rw [generalNumber_value]
  cases negative with
  | true =>
      have hvalue : 0 ≤ (scientific places magnitude).value places :=
        mul_nonneg (Nat.cast_nonneg _) (zpow_nonneg (by norm_num) _)
      have hdecimal : (0 : ℚ) ≤ significand * 10 ^ (exponent - places) :=
        mul_nonneg (Nat.cast_nonneg _) (zpow_nonneg (by norm_num) _)
      rw [if_pos rfl, neg_one_mul]
      linarith
  | false =>
      rw [if_neg Bool.false_ne_true] at hnumber ⊢
      rw [one_mul]
      exact hrounds.mpr hnumber

theorem generalNumber_negate (places : ℕ) (negative : Bool) (magnitude : ℚ) :
    (generalNumber places (!negative) magnitude).value = -(generalNumber places negative magnitude).value := by
  rw [generalNumber_value, generalNumber_value]
  cases negative with
  | true => simp
  | false => simp

theorem le_generalNumber_value {places significand : ℕ} {exponent : ℤ} {negative : Bool} {magnitude : ℚ}
    (h : 0 ≤ magnitude) (hlow : 10 ^ places ≤ significand) (hhigh : significand < 10 ^ (places + 1))
    (heven : significand % 2 = 0)
    (hnumber : -((significand + 1 / 2) * 10 ^ (exponent - places)) ≤
      if negative then -magnitude else magnitude) :
    -(significand * 10 ^ (exponent - places)) ≤ (generalNumber places negative magnitude).value := by
  have hnegated : (if (!negative) = true then -magnitude else magnitude) =
      -(if negative then -magnitude else magnitude) := by
    cases negative with
    | true => exact (neg_neg magnitude).symm
    | false => rfl
  have hbelow := @generalNumber_value_le places _ exponent (!negative) _ h hlow hhigh heven
    (by rw [hnegated]; exact neg_le.mp hnumber)
  rw [generalNumber_negate] at hbelow
  exact neg_le.mp hbelow

/-! ### How long it is -/

section Length

variable {places : ℕ} {magnitude : ℚ}

theorem fixedNumber_within {limits : JsonLimits} {significand width : ℕ} (negative : Bool) (shift : ℕ)
    (hwidth : 1 ≤ width) (hsignificand : significand < 10 ^ width) (hlimits : width ≤ limits.digits) :
    (fixedNumber negative significand shift).Within limits := by
  intro _
  have hwhole : significand / 10 ^ shift < 10 ^ width := lt_of_le_of_lt (Nat.div_le_self _ _) hsignificand
  exact (length_decimalDigits_le hwidth hwhole).trans hlimits

theorem generalNumber_within {limits : JsonLimits} (negative : Bool) (h : 0 ≤ magnitude)
    (hlimits : places + 1 ≤ limits.digits) : (generalNumber places negative magnitude).Within limits := by
  unfold generalNumber
  dsimp only
  split_ifs
  · exact fixedNumber_within negative _ (Nat.le_add_left 1 places) (significand_lt h) hlimits
  · intro hinteger
    simp [exponentNumber, JsonNumber.isInteger] at hinteger

theorem length_printNat (number : ℕ) : (printNat number).length = (decimalDigits number).length :=
  List.length_map _

/-- The digits before the point, with what follows them. -/
theorem length_fixedNumber {significand width : ℕ} (negative : Bool) (shift : ℕ)
    (hwidth : 1 ≤ width) (hsignificand : significand < 10 ^ (width + shift)) :
    (fixedNumber negative significand shift).print.length ≤ width + shift + 2 := by
  have hprint := (fixedNumber negative significand shift).print_append []
  have hwhole : (printNat (significand / 10 ^ shift)).length ≤ width := by
    rw [length_printNat]
    apply length_decimalDigits_le hwidth
    rw [pow_add] at hsignificand
    exact Nat.div_lt_of_lt_mul (by rwa [mul_comm])
  have hfraction := length_fractionDigits shift significand
  rw [List.append_nil] at hprint
  rw [hprint]
  unfold fixedNumber
  dsimp only
  rw [List.length_append, List.length_append, List.length_append]
  have hsign : (if negative = true then [45] else [] : Text).length ≤ 1 := by
    split_ifs
    · exact le_rfl
    · exact Nat.zero_le 1
  simp only [printExponent, List.append_nil, List.length_nil]
  omega

theorem length_exponentNumber (negative : Bool) {number : Scientific}
    (hsignificand : number.significand < 10 ^ (places + 1)) (hexponent : number.exponent.natAbs < 100) :
    (exponentNumber places negative number).print.length ≤ places + 7 := by
  have hfixed := length_fixedNumber negative places (le_refl 1) (by rwa [add_comm])
  have hprint := (fixedNumber negative number.significand places).print_append []
  have hexponentPrint := (exponentNumber places negative number).print_append []
  rw [List.append_nil] at hprint hexponentPrint
  rw [hprint] at hfixed
  rw [hexponentPrint]
  have hdigits := length_exponentDigits hexponent
  unfold exponentNumber
  unfold fixedNumber at hfixed ⊢
  simp only [printExponent, JsonExponent.print, Digits.print, List.append_nil, List.length_append,
    List.length_cons, List.length_map] at hfixed ⊢
  omega

theorem length_generalNumber (negative : Bool) (h : 0 ≤ magnitude)
    (hexponent : (scientific places magnitude).exponent.natAbs < 100) :
    (generalNumber places negative magnitude).print.length ≤ places + 7 := by
  have hsignificand := @significand_lt places _ h
  unfold generalNumber
  dsimp only
  split_ifs with hfixed
  · obtain ⟨hlow, hhigh⟩ := hfixed
    by_cases hnegative : (scientific places magnitude).exponent < 0
    · have hlength := length_fixedNumber negative
        (places - (scientific places magnitude).exponent).toNat (le_refl 1) (lt_of_lt_of_le hsignificand
          (Nat.pow_le_pow_right (by decide) (by omega)))
      omega
    · have hlength := @length_fixedNumber _ ((scientific places magnitude).exponent.toNat + 1) negative
        (places - (scientific places magnitude).exponent).toNat (by omega) (lt_of_lt_of_le hsignificand
          (Nat.pow_le_pow_right (by decide) (by omega)))
      omega
  · exact length_exponentNumber negative hsignificand hexponent

/-- The exponent of a number between two powers of ten. -/
theorem scientific_exponent_range {low high : ℤ} (hlow : (10 : ℚ) ^ low ≤ magnitude)
    (hhigh : magnitude < 10 ^ high) :
    low ≤ (scientific places magnitude).exponent ∧ (scientific places magnitude).exponent ≤ high := by
  have hpos : 0 < magnitude := lt_of_lt_of_le (zpow_pos (by norm_num) low) hlow
  have hlowLog := (Int.zpow_le_iff_le_log (b := 10) (by decide) hpos).mp (by exact_mod_cast hlow)
  have hhighLog := (Int.lt_zpow_iff_log_lt (b := 10) (by decide) hpos).mp (by exact_mod_cast hhigh)
  have hexponent := @scientific_exponent places magnitude
  omega

end Length

end IiotMonitoring
