import IiotMonitoring.Proof.Aggregation
import IiotMonitoring.Proof.TelemetryAccepted

/-!
# The measurements of a window in the ranges of the server

The gateway accepts single samples, the server what is made of a window of them. All measurements but
the root mean square of the vibration are in the server's ranges by the gateway's.
-/

namespace IiotMonitoring

/-! ### Written numbers -/

section Written

variable {value : CFloat} {number : ℚ}

theorem written_le (h : value.value.toNumber? = some number) {significand : ℕ} {exponent : ℤ}
    (hlow : 10 ^ 4 ≤ significand) (hhigh : significand < 10 ^ 5) (heven : significand % 2 = 0)
    (hnumber : number ≤ (significand + 1 / 2) * 10 ^ (exponent - 4)) :
    writtenNumber value number ≤ significand * 10 ^ (exponent - 4) := by
  rw [(finite_range h).1] at hnumber
  exact @generalNumber_value_le 4 _ exponent _ _ (abs_nonneg number) hlow hhigh heven hnumber

theorem le_written (h : value.value.toNumber? = some number) {significand : ℕ} {exponent : ℤ}
    (hlow : 10 ^ 4 ≤ significand) (hhigh : significand < 10 ^ 5) (heven : significand % 2 = 0)
    (hnumber : -((significand + 1 / 2) * 10 ^ (exponent - 4)) ≤ number) :
    -(significand * 10 ^ (exponent - 4)) ≤ writtenNumber value number := by
  rw [(finite_range h).1] at hnumber
  exact @le_generalNumber_value 4 _ exponent _ _ (abs_nonneg number) hlow hhigh heven hnumber

/-- The sign of a number that is not negative counts for zero only. -/
theorem writtenNumber_nonneg (h : value.value.toNumber? = some number) (hnumber : 0 ≤ number) :
    writtenNumber value number = (scientific 4 number).value 4 := by
  have hsign := (finite_range h).1
  unfold writtenNumber
  rw [generalNumber_value, abs_of_nonneg hnumber] at *
  split_ifs at hsign ⊢ with hnegative
  · have hzero : number = 0 := by linarith
    rw [hzero, scientific_zero]
    simp [Scientific.value]
  · exact one_mul _

theorem written_nonneg (h : value.value.toNumber? = some number) (hnumber : 0 ≤ number) :
    0 ≤ writtenNumber value number := by
  rw [writtenNumber_nonneg h hnumber]
  exact mul_nonneg (Nat.cast_nonneg _) (zpow_nonneg (by norm_num) _)

/-- Up to half a unit of the fifth digit above 2000, at most 2000 is written. -/
theorem written_le_2000_iff (h : value.value.toNumber? = some number) (hnumber : 0 ≤ number) :
    writtenNumber value number ≤ 2000 ↔ number ≤ 2000 + 1 / 20 := by
  have hrounds := @scientific_value_le_iff 4 _ hnumber 20000 3 (by decide) (by decide) (by decide)
  norm_num at hrounds
  rw [writtenNumber_nonneg h hnumber, hrounds]
  norm_num

/-- No number between 2000 and the next one of five digits is written. -/
theorem written_le_2000 (h : value.value.toNumber? = some number) (hnumber : 0 < number)
    (hless : writtenNumber value number < 2000 + 1 / 10) : writtenNumber value number ≤ 2000 := by
  have hdigits := @scientific_value_le_of_lt 4 number hnumber 20000 3 (by decide) (by decide)
  norm_num at hdigits
  rw [writtenNumber_nonneg h hnumber.le] at hless ⊢
  norm_num at hless
  exact hdigits hless

end Written

/-! ### Read numbers -/

section Read

variable {value : CFloat} {low high : ℚ}

/-- Doubles are limits that a number does not pass when it is read. -/
theorem readWithin_of_written (hlow : IsDouble low) (hhigh : IsDouble high)
    (h : ∀ number, value.value.toNumber? = some number →
      low ≤ writtenNumber value number ∧ writtenNumber value number ≤ high) :
    ReadWithin low high value := by
  intro number hnumber
  obtain ⟨habove, hbelow⟩ := h number hnumber
  rw [FloatNumber.within_iff]
  exact binary64_between hlow hhigh habove hbelow

theorem isDouble_zero : IsDouble 0 := by exact_mod_cast @isDouble_natCast 0 (by decide)

theorem isDouble_minimumCurrent : IsDouble minimumCurrent :=
  ⟨3602879701896397, -55, by decide, by decide, by decide, by norm_num [minimumCurrent, abs_div]⟩

/-- A double lies between 2000 and the next number that is written. -/
theorem readWithin_2000_iff {number : ℚ} (h : value.value.toNumber? = some number) (hnumber : 0 ≤ number) :
    ReadWithin 0 2000 value ↔ number ≤ 2000 + 1 / 20 := by
  rw [← written_le_2000_iff h hnumber]
  constructor
  · intro hwithin
    obtain ⟨read, hread, -, hmost⟩ := FloatNumber.within_iff.mp (hwithin number h)
    rcases hnumber.eq_or_lt with hzero | hpos
    · rw [written_le_2000_iff h hnumber, ← hzero]
      norm_num
    · apply written_le_2000 h hpos
      by_contra hnext
      have hbetween : IsDouble (32001 / 16) :=
        ⟨32001, -4, by decide, by decide, by decide, by norm_num [abs_div]⟩
      have hleast := le_binary64 hbetween (by norm_num at hnext; linarith) hread
      norm_num at hleast
      linarith
  · intro hwritten
    apply readWithin_of_written isDouble_zero (by exact_mod_cast @isDouble_natCast 2000 (by decide))
    intro number' hnumber'
    rw [h] at hnumber'
    obtain rfl := Option.some.inj hnumber'
    exact ⟨written_nonneg h hnumber, hwritten⟩

end Read


/-! ### Stored numbers -/

section Between

variable {K : Type} [LinearOrder K]

/-- NaN, or a number in a range. -/
def NanOrBetween (low high : K) (value : FloatNumber K) : Prop :=
  value = .nan ∨ ∃ number, value = .finite number ∧ low ≤ number ∧ number ≤ high

theorem NanOrBetween.mono {low high low' high' : K} {value : FloatNumber K}
    (h : NanOrBetween low high value) (hlow : low' ≤ low) (hhigh : high ≤ high') :
    NanOrBetween low' high' value := by
  obtain hnan | ⟨number, hnumber, habove, hbelow⟩ := h
  · exact .inl hnan
  · exact .inr ⟨number, hnumber, hlow.trans habove, hbelow.trans hhigh⟩

theorem MeanOf.between {numbers : List K} {low high : K} {mean : FloatNumber K}
    (h : MeanOf numbers low high mean) : NanOrBetween low high mean := by
  by_cases hnone : numbers = []
  · exact .inl (h.none hnone)
  · obtain ⟨value, hvalue, -, -, hlow, hhigh⟩ := h.some hnone
    exact .inr ⟨value, hvalue, hlow, hhigh⟩

end Between

section Stored

variable {K : Type} [Field K] [LinearOrder K]

/-- C's conversion of a number to `float`: the result is between any two floats that the number is
between, and so one of the floats next to it. -/
def ConvertsToFloat (convert : K → CFloat) : Prop :=
  ∀ (low high : CFloat) (lowest highest : ℚ) (number : K), low.value = .finite lowest →
    high.value = .finite highest → (lowest : K) ≤ number → number ≤ highest →
      ∃ stored, (convert number).value = .finite stored ∧ lowest ≤ stored ∧ stored ≤ highest

variable {convert : K → CFloat}

theorem stored_range (hconvert : ConvertsToFloat convert) {low high : CFloat} {lowest highest : ℚ}
    (hlow : low.value = .finite lowest) (hhigh : high.value = .finite highest) {value : FloatNumber K}
    (hvalue : NanOrBetween (lowest : K) highest value) {stored : ℚ}
    (hstored : (value.stored convert).value.toNumber? = some stored) :
    lowest ≤ stored ∧ stored ≤ highest := by
  obtain rfl | ⟨number, rfl, habove, hbelow⟩ := hvalue
  · have hnan : (CFloat.mk 0x7fc00000).value = .nan := by decide
    rw [FloatNumber.stored, hnan] at hstored
    cases hstored
  · obtain ⟨converted, hconverted, hrange⟩ := hconvert low high lowest highest number hlow hhigh habove hbelow
    rw [FloatNumber.stored, hconverted] at hstored
    obtain rfl := Option.some.inj hstored
    exact hrange

theorem stored_temperature (hconvert : ConvertsToFloat convert) {value : FloatNumber K}
    (h : NanOrBetween (-80) 200 value) : ReadWithin (-80) 200 (value.stored convert) := by
  apply readWithin_of_written
  · exact IsDouble.neg (by exact_mod_cast @isDouble_natCast 80 (by decide))
  · exact_mod_cast @isDouble_natCast 200 (by decide)
  intro number hnumber
  obtain ⟨hlow, hhigh⟩ := @stored_range _ _ _ _ hconvert ⟨0xc2a00000⟩ ⟨0x43480000⟩ (-80) 200
    (by decide) (by decide) _ (by simpa using h) _ hnumber
  have habove := @le_written _ _ hnumber 80000 1 (by decide) (by decide) (by decide) (by norm_num; linarith)
  have hbelow := @written_le _ _ hnumber 20000 2 (by decide) (by decide) (by decide) (by norm_num; linarith)
  norm_num at habove hbelow
  exact ⟨habove, hbelow⟩

/-- A range of numbers that are not negative, up to a float with a short decimal. -/
theorem stored_upTo (hconvert : ConvertsToFloat convert) {high : CFloat} {highest : ℕ}
    (hhigh : high.value = .finite highest) (hdouble : highest < 2 ^ 53) {significand : ℕ} {exponent : ℤ}
    (hsignificand : 10 ^ 4 ≤ significand ∧ significand < 10 ^ 5 ∧ significand % 2 = 0)
    (hdecimal : (significand : ℚ) * 10 ^ (exponent - 4) = highest) {value : FloatNumber K}
    (h : NanOrBetween (0 : K) highest value) : ReadWithin 0 highest (value.stored convert) := by
  apply readWithin_of_written isDouble_zero (isDouble_natCast hdouble)
  intro number hnumber
  obtain ⟨hlow, hbelow⟩ := @stored_range _ _ _ _ hconvert ⟨0⟩ high 0 highest (by decide) hhigh _
    (by simpa using h) _ hnumber
  refine ⟨written_nonneg hnumber hlow, ?_⟩
  rw [← hdecimal] at hbelow ⊢
  apply written_le hnumber hsignificand.1 hsignificand.2.1 hsignificand.2.2
  exact hbelow.trans (mul_le_mul_of_nonneg_right (by linarith) (zpow_nonneg (by norm_num) _))

theorem stored_peak (hconvert : ConvertsToFloat convert) {value : FloatNumber K}
    (h : NanOrBetween 0 4000 value) : ReadWithin 0 4000 (value.stored convert) := by
  exact_mod_cast @stored_upTo _ _ _ _ hconvert ⟨0x457a0000⟩ 4000 (by decide) (by decide) 40000 3
    (by decide) (by norm_num) _ (by simpa using h)

theorem stored_crest (hconvert : ConvertsToFloat convert) {value : FloatNumber K}
    (h : NanOrBetween 0 100 value) : ReadWithin 0 100 (value.stored convert) := by
  exact_mod_cast @stored_upTo _ _ _ _ hconvert ⟨0x42c80000⟩ 100 (by decide) (by decide) 10000 2
    (by decide) (by norm_num) _ (by simpa using h)

variable [IsStrictOrderedRing K]

/-- The float below the limit of a current is written as the limit. -/
theorem stored_current (hconvert : ConvertsToFloat convert) {value : FloatNumber K}
    (h : NanOrBetween Aggregation.lowestCurrent 10 value) :
    ReadWithin minimumCurrent 10 (value.stored convert) := by
  have hfloat : (CFloat.mk 0xbdcccccd).value = .finite (-(13421773 / 134217728)) := by
    simp [CFloat.value, FloatNumber.ofBinary32, Rat.mkRat_eq_div]
    norm_num
  have hbetween : NanOrBetween ((-(13421773 / 134217728) : ℚ) : K) ((10 : ℚ) : K) value := by
    apply h.mono
    · norm_num [Aggregation.lowestCurrent]
    · norm_num
  apply readWithin_of_written isDouble_minimumCurrent
  · exact_mod_cast @isDouble_natCast 10 (by decide)
  intro number hnumber
  obtain ⟨hlow, hhigh⟩ := @stored_range _ _ _ _ hconvert ⟨0xbdcccccd⟩ ⟨0x41200000⟩ _ _
    hfloat (by decide) _ hbetween _ hnumber
  have habove := @le_written _ _ hnumber 10000 (-1) (by decide) (by decide) (by decide)
    (by norm_num; linarith)
  have hbelow := @written_le _ _ hnumber 10000 1 (by decide) (by decide) (by decide) (by norm_num; linarith)
  have hleast : minimumCurrent ≤ -(1 / 10) := by norm_num [minimumCurrent]
  norm_num at habove hbelow hleast
  exact ⟨hleast.trans habove, hbelow⟩

end Stored

/-! ### The measurements of a window -/

section Window

variable {K : Type} [Field K] [LinearOrder K] {sqrtf : K → K} {convert : K → CFloat}

/-- The numbers of the vibration samples that a window counts. -/
def countedVibrations (samples : List (IiotSample K)) : List K :=
  acceptedNumbers (samples.map IiotSample.vibration)

/-- The root mean square of the vibration samples that count, as a float, is at most half a unit of the
fifth digit above the limit of the server. -/
def RmsAccepted (sqrtf : K → K) (convert : K → CFloat) (samples : List (IiotSample K)) : Prop :=
  countedVibrations samples = [] ∨
    ∃ rms, (convert (sqrtf (squareSum (countedVibrations samples) /
      (countedVibrations samples).length))).value = .finite rms ∧ rms ≤ 2000 + 1 / 20

variable {count : Nat} {samples : List (IiotSample K)}

theorem vibration_none (hpos : 1 ≤ count) (hcount : count ≤ 6000) (h : countedVibrations samples = []) :
    (windowResult Aggregation.lowestCurrent sqrtf count samples).vibrationRmsMps2 = .nan ∧
      (windowResult Aggregation.lowestCurrent sqrtf count samples).vibrationPeakMps2 = .nan := by
  rw [windowResult_eq Aggregation.lowestCurrent sqrtf hpos (by omega)]
  unfold windowOf IiotSampleWindow.finish
  unfold countedVibrations at h
  simp only [h]
  exact ⟨rfl, rfl⟩

theorem vibration_some (hpos : 1 ≤ count) (hcount : count ≤ 6000) (hlength : samples.length = count)
    (h : countedVibrations samples ≠ []) :
    (windowResult Aggregation.lowestCurrent sqrtf count samples).vibrationRmsMps2 =
        .finite (sqrtf (squareSum (countedVibrations samples) / (countedVibrations samples).length)) ∧
      (windowResult Aggregation.lowestCurrent sqrtf count samples).vibrationPeakMps2 =
        .finite (peakOf (countedVibrations samples)) := by
  have hle := length_acceptedNumbers_le (samples.map IiotSample.vibration)
  rw [List.length_map, hlength] at hle
  rw [windowResult_eq Aggregation.lowestCurrent sqrtf hpos (by omega)]
  unfold countedVibrations at h ⊢
  generalize hnumbers : acceptedNumbers (samples.map IiotSample.vibration) = numbers at hle h
  have hvalid : (UInt16.ofNat numbers.length).toNat = numbers.length :=
    UInt16.toNat_ofNat_of_lt' (show numbers.length < 65536 by omega)
  have hsome : 0 < UInt16.ofNat numbers.length := by
    rw [UInt16.lt_iff_toNat_lt, hvalid, UInt16.toNat_zero]
    exact List.length_pos_iff.mpr h
  unfold windowOf IiotSampleWindow.finish
  simp only [hnumbers, if_pos hsome, hvalid, and_self]

theorem countedVibrations_le {number : K} (h : number ∈ countedVibrations samples) : |number| ≤ 4000 := by
  obtain ⟨sample, -, hsample⟩ := List.mem_map.mp (mem_acceptedNumbers.mp h)
  have hrange := inRange_of_readSample hsample
  exact of_decide_eq_true hrange

variable [IsStrictOrderedRing K]

theorem peak_between (hpos : 1 ≤ count) (hcount : count ≤ 6000) (hlength : samples.length = count) :
    NanOrBetween 0 4000 (windowResult Aggregation.lowestCurrent sqrtf count samples).vibrationPeakMps2 := by
  by_cases hnone : countedVibrations samples = []
  · exact .inl (vibration_none hpos hcount hnone).2
  · obtain ⟨number, hmem, hpeak⟩ := exists_peakOf hnone
    refine .inr ⟨_, (vibration_some hpos hcount hlength hnone).2, peakOf_nonneg _, ?_⟩
    rw [hpeak]
    exact countedVibrations_le hmem

/-- The mean of a channel is in the range of its samples. -/
theorem channel_between (hcount : count ≤ 6000) (hlength : samples.length = count) {low high : K}
    {channel : IiotSample K → Except IiotSensorStatus K}
    (hrange : ∀ sample number, channel sample = .ok number → low ≤ number ∧ number ≤ high) :
    NanOrBetween low high (quotient (acceptedNumbers (samples.map channel)).sum
      (UInt16.ofNat (acceptedNumbers (samples.map channel)).length)) := by
  have hle := length_acceptedNumbers_le (samples.map channel)
  rw [List.length_map, hlength] at hle
  apply MeanOf.between
  apply meanOf_quotient (by omega)
  intro number hmem
  obtain ⟨sample, -, hsample⟩ := List.mem_map.mp (mem_acceptedNumbers.mp hmem)
  exact hrange sample number hsample

theorem temperature_between (hpos : 1 ≤ count) (hcount : count ≤ 6000) (hlength : samples.length = count) :
    NanOrBetween (-80) 200 (windowResult Aggregation.lowestCurrent sqrtf count samples).temperatureC := by
  rw [windowResult_eq Aggregation.lowestCurrent sqrtf hpos (by omega)]
  apply channel_between hcount hlength
  intro sample number hsample
  have hrange := inRange_of_readSample hsample
  rwa [Bool.and_eq_true, decide_eq_true_iff, decide_eq_true_iff] at hrange

theorem current_between (hpos : 1 ≤ count) (hcount : count ≤ 6000) (hlength : samples.length = count) :
    NanOrBetween Aggregation.lowestCurrent 10
      (windowResult Aggregation.lowestCurrent sqrtf count samples).currentA := by
  rw [windowResult_eq Aggregation.lowestCurrent sqrtf hpos (by omega)]
  apply channel_between hcount hlength
  intro sample number hsample
  have hrange := inRange_of_readSample hsample
  rwa [Bool.and_eq_true, decide_eq_true_iff, decide_eq_true_iff] at hrange

/-- The server's range of the root mean square is narrower than what the gateway's range of a sample
allows. -/
theorem rms_read_iff (hroot : ExactRoot sqrtf) (hconvert : ConvertsToFloat convert) (hpos : 1 ≤ count)
    (hcount : count ≤ 6000) (hlength : samples.length = count) :
    ReadWithin 0 2000
        ((windowResult Aggregation.lowestCurrent sqrtf count samples).vibrationRmsMps2.stored convert) ↔
      RmsAccepted sqrtf convert samples := by
  unfold RmsAccepted
  by_cases hnone : countedVibrations samples = []
  · have hnan : (CFloat.mk 0x7fc00000).value.toNumber? = none := by decide
    rw [(vibration_none hpos hcount hnone).1]
    apply iff_of_true
    · intro number hnumber
      rw [FloatNumber.stored, hnan] at hnumber
      cases hnumber
    · exact .inl hnone
  · obtain ⟨hnonneg, hle, -⟩ := rms_bounds hroot hnone
    obtain ⟨number, hmem, hpeak⟩ := exists_peakOf hnone
    have hmost := countedVibrations_le hmem
    rw [← hpeak] at hmost
    obtain ⟨rms, hrms, hlow, -⟩ := hconvert ⟨0⟩ ⟨0x457a0000⟩ 0 4000 _ (by decide) (by decide)
      (by simpa using hnonneg) (by simpa using hle.trans hmost)
    rw [(vibration_some hpos hcount hlength hnone).1, FloatNumber.stored, or_iff_right hnone,
      readWithin_2000_iff (congrArg FloatNumber.toNumber? hrms) hlow, hrms]
    constructor
    · intro hbound
      exact ⟨rms, rfl, hbound⟩
    · rintro ⟨rms', hsame, hbound⟩
      rwa [FloatNumber.finite.inj hsame]

/-- All measurements are in the server's ranges if the root mean square is. -/
theorem stored_readWithin (hroot : ExactRoot sqrtf) (hconvert : ConvertsToFloat convert)
    (hpos : 1 ≤ count) (hcount : count ≤ 6000) (hlength : samples.length = count)
    (h : RmsAccepted sqrtf convert samples) :
    ((windowResult Aggregation.lowestCurrent sqrtf count samples).stored convert).ReadWithin where
  temperature := stored_temperature hconvert (temperature_between hpos hcount hlength)
  rms := (rms_read_iff hroot hconvert hpos hcount hlength).mpr h
  peak := stored_peak hconvert (peak_between hpos hcount hlength)
  crest := by
    apply stored_crest hconvert
    obtain hnan | ⟨crest, hcrest, hlow, hroots, hhigh⟩ :=
      (vibrationOf_window hroot hpos hcount hlength).crest
    · exact .inl hnan
    · exact .inr ⟨crest, hcrest, zero_le_one.trans hlow, hroots.trans hhigh⟩
  current := stored_current hconvert (current_between hpos hcount hlength)

end Window

end IiotMonitoring
