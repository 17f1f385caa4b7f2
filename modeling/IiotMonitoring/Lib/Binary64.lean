import IiotMonitoring.Lib.DecimalFormat
import IiotMonitoring.Lib.FloatNumber

/-!
# Reading a number as a double

The nearest binary64 of a number, with ties to even. It lies between any two doubles that the number
lies between.
-/

namespace IiotMonitoring

/-- The exponent of the last place of a double of this size. -/
def lastPlace (magnitude : ℚ) : ℤ := max (Int.log 2 magnitude - 52) (-1074)

def roundToDouble (magnitude : ℚ) : ℚ :=
  roundHalfEven (magnitude * 2 ^ (-lastPlace magnitude)) * 2 ^ lastPlace magnitude

/-- The double that a number is read as. -/
def binary64 (number : ℚ) : FloatNumber ℚ :=
  if 2 ^ 1024 ≤ roundToDouble |number| then .infinity (number < 0)
  else .finite (if number < 0 then -roundToDouble |number| else roundToDouble |number|)

/-- A finite double. -/
def IsDouble (number : ℚ) : Prop :=
  ∃ (significand : ℕ) (exponent : ℤ), significand < 2 ^ 53 ∧ -1074 ≤ exponent ∧ exponent ≤ 971 ∧
    |number| = significand * 2 ^ exponent

/-! ### Magnitudes -/

section Magnitude

variable {magnitude : ℚ}

theorem roundHalfEven_natCast (number : ℕ) : roundHalfEven number = number := by
  unfold roundHalfEven
  rw [Nat.floor_natCast, sub_self, if_pos (by norm_num)]

theorem roundHalfEven_le_of_le {value : ℚ} {number : ℕ} (hnonneg : 0 ≤ value) (h : value ≤ number) :
    roundHalfEven value ≤ number := by
  rcases h.lt_or_eq with hless | rfl
  · exact roundHalfEven_le hnonneg hless
  · rw [roundHalfEven_natCast]

/-- Where a unit is below the last place of a number, the number has all 53 bits above that place. -/
theorem two_zpow_le_of_lastPlace {exponent : ℤ} (hpos : 0 < magnitude) (hleast : -1074 ≤ exponent)
    (hless : exponent < lastPlace magnitude) :
    (2 : ℚ) ^ (lastPlace magnitude + 52) ≤ magnitude := by
  have hlog : lastPlace magnitude = Int.log 2 magnitude - 52 := by
    unfold lastPlace at hless ⊢
    omega
  have hlow : ((2 : ℕ) : ℚ) ^ Int.log 2 magnitude ≤ magnitude := Int.zpow_log_le_self (by decide) hpos
  rw [hlog, sub_add_cancel]
  exact_mod_cast hlow

/-- A multiple of a larger unit is one of a smaller unit. -/
theorem mul_two_zpow_eq {significand : ℕ} {exponent place : ℤ} (h : place ≤ exponent) :
    (significand : ℚ) * 2 ^ exponent = (significand * 2 ^ (exponent - place).toNat : ℕ) * 2 ^ place := by
  have hsplit : exponent = ((exponent - place).toNat : ℤ) + place := by omega
  rw [Nat.cast_mul, Nat.cast_pow, Nat.cast_ofNat, mul_assoc]
  congr 1
  calc (2 : ℚ) ^ exponent = 2 ^ (((exponent - place).toNat : ℤ) + place) := by rw [← hsplit]
    _ = 2 ^ (exponent - place).toNat * 2 ^ place := by rw [zpow_add₀ two_ne_zero, zpow_natCast]

/-- The significands of a unit end below the numbers of which a larger one is the last place. -/
theorem lt_of_lastPlace {significand : ℕ} {exponent : ℤ} (hsignificand : significand < 2 ^ 53)
    (hless : exponent < lastPlace magnitude) :
    (significand : ℚ) * 2 ^ exponent < 2 ^ (lastPlace magnitude + 52) := by
  have hcast : (significand : ℚ) < 2 ^ 53 := by exact_mod_cast hsignificand
  calc (significand : ℚ) * 2 ^ exponent < 2 ^ 53 * 2 ^ exponent :=
        mul_lt_mul_of_pos_right hcast (zpow_pos two_pos _)
    _ = 2 ^ (53 + exponent) := by rw [zpow_add₀ two_ne_zero]; norm_num
    _ ≤ 2 ^ (lastPlace magnitude + 52) := zpow_le_zpow_right₀ one_le_two (by omega)

theorem scaled_le_iff {place : ℤ} {number : ℕ} :
    magnitude * 2 ^ (-place) ≤ number ↔ magnitude ≤ number * 2 ^ place := by
  rw [zpow_neg, ← div_eq_mul_inv, div_le_iff₀ (zpow_pos two_pos _)]

theorem le_scaled_iff {place : ℤ} {number : ℕ} :
    (number : ℚ) ≤ magnitude * 2 ^ (-place) ↔ number * 2 ^ place ≤ magnitude := by
  rw [zpow_neg, ← div_eq_mul_inv, le_div_iff₀ (zpow_pos two_pos _)]

theorem roundToDouble_nonneg (magnitude : ℚ) : 0 ≤ roundToDouble magnitude :=
  mul_nonneg (Nat.cast_nonneg _) (zpow_nonneg zero_le_two _)

theorem roundToDouble_le (hnonneg : 0 ≤ magnitude) {significand : ℕ} {exponent : ℤ}
    (hsignificand : significand < 2 ^ 53) (hleast : -1074 ≤ exponent)
    (h : magnitude ≤ significand * 2 ^ exponent) :
    roundToDouble magnitude ≤ significand * 2 ^ exponent := by
  by_cases hplace : lastPlace magnitude ≤ exponent
  · rw [mul_two_zpow_eq hplace] at h ⊢
    have hround := roundHalfEven_le_of_le (mul_nonneg hnonneg (zpow_nonneg zero_le_two _))
      (scaled_le_iff.mpr h)
    exact mul_le_mul_of_nonneg_right (by exact_mod_cast hround) (zpow_nonneg zero_le_two _)
  · rcases hnonneg.eq_or_lt with rfl | hpos
    · have hzero : roundToDouble 0 = 0 := by
        unfold roundToDouble
        rw [zero_mul, ← Nat.cast_zero, roundHalfEven_natCast, Nat.cast_zero, zero_mul]
      rw [hzero]
      exact mul_nonneg (Nat.cast_nonneg _) (zpow_nonneg zero_le_two _)
    · have hlow := two_zpow_le_of_lastPlace hpos hleast (not_le.mp hplace)
      have hhigh := lt_of_lastPlace hsignificand (not_le.mp hplace)
      exact absurd h (not_le.mpr (hhigh.trans_le hlow))

theorem le_roundToDouble {significand : ℕ} {exponent : ℤ} (hsignificand : significand < 2 ^ 53)
    (hleast : -1074 ≤ exponent) (hpos : 0 < magnitude) (h : significand * 2 ^ exponent ≤ magnitude) :
    significand * 2 ^ exponent ≤ roundToDouble magnitude := by
  by_cases hplace : lastPlace magnitude ≤ exponent
  · rw [mul_two_zpow_eq hplace] at h ⊢
    have hround := le_roundHalfEven (le_scaled_iff.mpr h)
    exact mul_le_mul_of_nonneg_right (by exact_mod_cast hround) (zpow_nonneg zero_le_two _)
  · have hlow := two_zpow_le_of_lastPlace hpos hleast (not_le.mp hplace)
    have hhigh := lt_of_lastPlace hsignificand (not_le.mp hplace)
    have hsplit : (2 : ℚ) ^ (lastPlace magnitude + 52) = ((2 ^ 52 : ℕ) : ℚ) * 2 ^ lastPlace magnitude := by
      rw [add_comm, zpow_add₀ two_ne_zero]
      norm_num
    rw [hsplit] at hlow hhigh
    have hround := le_roundHalfEven (le_scaled_iff.mpr hlow)
    exact hhigh.le.trans (mul_le_mul_of_nonneg_right (by exact_mod_cast hround) (zpow_nonneg zero_le_two _))

end Magnitude

/-! ### Numbers -/

theorem isDouble_natCast {number : ℕ} (h : number < 2 ^ 53) : IsDouble number :=
  ⟨number, 0, h, by decide, by decide, by rw [zpow_zero, mul_one, Nat.abs_cast]⟩

theorem IsDouble.neg {number : ℚ} (h : IsDouble number) : IsDouble (-number) := by
  unfold IsDouble at h ⊢
  rwa [abs_neg]

theorem IsDouble.abs_lt {number : ℚ} (h : IsDouble number) : |number| < 2 ^ 1024 := by
  obtain ⟨significand, exponent, hsignificand, -, hmost, hvalue⟩ := h
  have hcast : (significand : ℚ) < 2 ^ 53 := by exact_mod_cast hsignificand
  rw [hvalue]
  calc (significand : ℚ) * 2 ^ exponent < 2 ^ 53 * 2 ^ exponent :=
        mul_lt_mul_of_pos_right hcast (zpow_pos two_pos _)
    _ ≤ 2 ^ 53 * 2 ^ ((971 : ℕ) : ℤ) :=
        mul_le_mul_of_nonneg_left (zpow_le_zpow_right₀ one_le_two hmost) (by positivity)
    _ = 2 ^ 1024 := by rw [zpow_natCast, ← pow_add]

section Numbers

variable {number : ℚ}

theorem roundToDouble_abs_le {bound : ℚ} (hbound : IsDouble bound) (h : |number| ≤ |bound|) :
    roundToDouble |number| ≤ |bound| := by
  obtain ⟨significand, exponent, hsignificand, hleast, -, hvalue⟩ := hbound
  rw [hvalue] at h ⊢
  exact roundToDouble_le (abs_nonneg number) hsignificand hleast h

theorem le_roundToDouble_abs {bound : ℚ} (hbound : IsDouble bound) (h : |bound| ≤ |number|)
    (hnumber : number ≠ 0) : |bound| ≤ roundToDouble |number| := by
  obtain ⟨significand, exponent, hsignificand, hleast, -, hvalue⟩ := hbound
  rw [hvalue] at h ⊢
  exact le_roundToDouble hsignificand hleast (abs_pos.mpr hnumber) h

theorem binary64_finite {read : ℚ} (h : binary64 number = .finite read) :
    read = if number < 0 then -roundToDouble |number| else roundToDouble |number| := by
  unfold binary64 at h
  by_cases hoverflow : 2 ^ 1024 ≤ roundToDouble |number|
  · rw [if_pos hoverflow] at h
    cases h
  · rw [if_neg hoverflow] at h
    exact (FloatNumber.finite.inj h).symm

theorem binary64_of_abs_le {bound : ℚ} (hbound : IsDouble bound) (h : |number| ≤ |bound|) :
    binary64 number =
      .finite (if number < 0 then -roundToDouble |number| else roundToDouble |number|) :=
  if_neg (not_le.mpr ((roundToDouble_abs_le hbound h).trans_lt hbound.abs_lt))

/-- What is read is not above a double that the number is not above. -/
theorem binary64_le {high read : ℚ} (hhigh : IsDouble high) (h : number ≤ high)
    (hread : binary64 number = .finite read) : read ≤ high := by
  rw [binary64_finite hread]
  split_ifs with hnegative
  · rcases le_or_gt 0 high with hpositive | hbelow
    · exact (neg_nonpos.mpr (roundToDouble_nonneg _)).trans hpositive
    · have hle : |high| ≤ |number| := by
        rw [abs_of_neg hbelow, abs_of_neg hnegative]
        exact neg_le_neg h
      have hround := le_roundToDouble_abs hhigh hle hnegative.ne
      rw [abs_of_neg hbelow] at hround
      linarith
  · have hle : |number| ≤ |high| := by
      rw [abs_of_nonneg (not_lt.mp hnegative), abs_of_nonneg ((not_lt.mp hnegative).trans h)]
      exact h
    have hround := roundToDouble_abs_le hhigh hle
    rwa [abs_of_nonneg ((not_lt.mp hnegative).trans h)] at hround

/-- And not below one that it is not below. -/
theorem le_binary64 {low read : ℚ} (hlow : IsDouble low) (h : low ≤ number)
    (hread : binary64 number = .finite read) : low ≤ read := by
  rw [binary64_finite hread]
  split_ifs with hnegative
  · have hbelow : low < 0 := h.trans_lt hnegative
    have hle : |number| ≤ |low| := by
      rw [abs_of_neg hbelow, abs_of_neg hnegative]
      exact neg_le_neg h
    have hround := roundToDouble_abs_le hlow hle
    rw [abs_of_neg hbelow] at hround
    linarith
  · rcases le_or_gt low 0 with hnonpos | hpositive
    · exact hnonpos.trans (roundToDouble_nonneg _)
    · have hle : |low| ≤ |number| := by
        rwa [abs_of_pos hpositive, abs_of_nonneg (not_lt.mp hnegative)]
      have hround := le_roundToDouble_abs hlow hle (hpositive.trans_le h).ne'
      rwa [abs_of_pos hpositive] at hround

/-- **Reading.** Between two doubles a number is read as a double between them. -/
theorem binary64_between {low high : ℚ} (hlow : IsDouble low) (hhigh : IsDouble high)
    (habove : low ≤ number) (hbelow : number ≤ high) :
    ∃ read, binary64 number = .finite read ∧ low ≤ read ∧ read ≤ high := by
  have hfinite : ∃ read, binary64 number = .finite read := by
    rcases abs_le_max_abs_abs habove hbelow |> le_max_iff.mp with hle | hle
    · exact ⟨_, binary64_of_abs_le hlow hle⟩
    · exact ⟨_, binary64_of_abs_le hhigh hle⟩
  obtain ⟨read, hread⟩ := hfinite
  exact ⟨read, hread, le_binary64 hlow habove hread, binary64_le hhigh hbelow hread⟩

end Numbers

example : binary64 (-1 / 10) = .finite (-3602879701896397 / 36028797018963968) := by decide +kernel

end IiotMonitoring
