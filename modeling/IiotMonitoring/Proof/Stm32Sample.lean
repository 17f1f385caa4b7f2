import IiotMonitoring.Firmware.Stm32Node
import IiotMonitoring.Proof.ModbusRequests

/-!
# The STM32 sample is exact

The calibration over the integers and the bounds that keep it inside `int32_t` and its result inside
`int16_t`, and what a sample then leaves in the registers.
-/

namespace IiotMonitoring

/-! ### Calibration over the integers -/

/-- The temperature before the calibration, in hundredths of a degree. -/
def uncalibrated (adcRaw : UInt16) : Int := 2000 + ((adcRaw.toNat : Int) * 8000).tdiv 4095

/-- The calibration, without a bound on its intermediate results. -/
def calibration (config : ModbusNodeConfig) (adcRaw : UInt16) : Int :=
  ((uncalibrated adcRaw + config.calibrationOffsetCentiC.toInt) *
    config.calibrationGainQ15.toNat).tdiv 32768

theorem tdiv_mem {value divisor low high : Int} (hpos : 0 < divisor) (hlow : low * divisor ≤ value)
    (hhigh : value ≤ high * divisor) : low ≤ value.tdiv divisor ∧ value.tdiv divisor ≤ high := by
  constructor
  · calc low = (low * divisor).tdiv divisor := (Int.mul_tdiv_cancel low hpos.ne').symm
      _ ≤ value.tdiv divisor := Int.tdiv_le_tdiv hpos hlow
  · calc value.tdiv divisor ≤ (high * divisor).tdiv divisor := Int.tdiv_le_tdiv hpos hhigh
      _ = high := Int.mul_tdiv_cancel high hpos.ne'

section Calibration

variable {config : ModbusNodeConfig} {adcRaw : UInt16}

theorem offset_mem (hvalid : modbusNodeConfigValidate config = true) :
    -5000 ≤ config.calibrationOffsetCentiC.toInt ∧ config.calibrationOffsetCentiC.toInt ≤ 5000 := by
  rw [modbusNodeConfigValidate, decide_eq_true_iff] at hvalid
  obtain ⟨-, -, -, -, -, hlow, hhigh, -, -⟩ := hvalid
  exact ⟨Int16.le_iff_toInt_le.mp hlow, Int16.le_iff_toInt_le.mp hhigh⟩

theorem uncalibrated_mem (hraw : adcRaw.toNat ≤ 4095) :
    2000 ≤ uncalibrated adcRaw ∧ uncalibrated adcRaw ≤ 10000 := by
  have hquotient : 0 ≤ ((adcRaw.toNat : Int) * 8000).tdiv 4095 ∧
      ((adcRaw.toNat : Int) * 8000).tdiv 4095 ≤ 8000 := by
    apply tdiv_mem
    · omega
    · omega
    · omega
  unfold uncalibrated
  omega

/-- The gain scales a shifted reading by less than two. -/
theorem gain_mem {shifted : Int} (hlow : -3000 ≤ shifted) (hhigh : shifted ≤ 15000) (gain : UInt16) :
    -6000 * 32768 ≤ shifted * gain.toNat ∧ shifted * gain.toNat ≤ 30000 * 32768 := by
  have hgain : (gain.toNat : Int) ≤ 65535 := Int.ofNat_le.mpr (Nat.le_of_lt_succ gain.toNat_lt)
  have hpos : (0 : Int) ≤ gain.toNat := Int.natCast_nonneg _
  constructor
  · calc -6000 * 32768 ≤ -3000 * (65535 : Int) := by decide
      _ ≤ -3000 * gain.toNat := by omega
      _ ≤ shifted * gain.toNat := Int.mul_le_mul_of_nonneg_right hlow hpos
  · calc shifted * gain.toNat ≤ 15000 * gain.toNat := Int.mul_le_mul_of_nonneg_right hhigh hpos
      _ ≤ 15000 * (65535 : Int) := by omega
      _ ≤ 30000 * 32768 := by decide

/-- The calibration of a twelve-bit reading stays inside `int16_t`. -/
theorem calibration_mem (hvalid : modbusNodeConfigValidate config = true)
    (hraw : adcRaw.toNat ≤ 4095) :
    -6000 ≤ calibration config adcRaw ∧ calibration config adcRaw ≤ 30000 := by
  have hoffset := offset_mem hvalid
  have huncalibrated := uncalibrated_mem hraw
  have hproduct := @gain_mem (uncalibrated adcRaw + config.calibrationOffsetCentiC.toInt)
    (by omega) (by omega) config.calibrationGainQ15
  exact tdiv_mem (by decide) hproduct.1 hproduct.2

/-- No operation overflows. -/
theorem calibrate_eq (hvalid : modbusNodeConfigValidate config = true) (hraw : adcRaw.toNat ≤ 4095) :
    calibrate config adcRaw = some (calibration config adcRaw) := by
  have hoffset := offset_mem hvalid
  have huncalibrated := uncalibrated_mem hraw
  have hproduct := @gain_mem (uncalibrated adcRaw + config.calibrationOffsetCentiC.toInt)
    (by omega) (by omega) config.calibrationGainQ15
  have hcalibration := calibration_mem hvalid hraw
  have hscaled : int32 ((adcRaw.toNat : Int) * 8000) = some ((adcRaw.toNat : Int) * 8000) :=
    int32_of_range (by omega) (by omega)
  have hread : int32 (2000 + ((adcRaw.toNat : Int) * 8000).tdiv 4095) = some (uncalibrated adcRaw) :=
    int32_of_range (by unfold uncalibrated at huncalibrated; omega)
      (by unfold uncalibrated at huncalibrated; omega)
  unfold calibrate
  rw [hscaled, Option.bind_eq_bind, Option.bind_some, hread, Option.bind_some,
    int32_of_range (by omega) (by omega), Option.bind_some, int32_of_range (by omega) (by omega),
    Option.bind_some]
  unfold calibration at hcalibration ⊢
  exact int32_of_range (by omega) (by omega)

end Calibration

/-! ### The conversion -/

/-- `10 <= adc_raw <= 4085`. -/
def RawInRange (adcRaw : UInt16) : Prop := 10 ≤ adcRaw ∧ adcRaw ≤ 4085

/-- The reading and the temperature are both inside their ranges. -/
def SampleInRange (adcRaw : UInt16) (calibrated : Int) : Prop :=
  -4000 ≤ calibrated ∧ calibrated ≤ 12500 ∧ RawInRange adcRaw

/-- What the conversion says: the reading has twelve bits, and the fault is raised where it is missing
or out of range. -/
theorem readAdc_spec (faults : UInt16) (adc : AdcOutcome) :
    (readAdc faults adc).adcRaw.toNat ≤ 4095 ∧
      (∀ value, adc = .converted value → (readAdc faults adc).adcRaw.toNat = value.toNat) ∧
      ((readAdc faults adc).status = .ok → RawInRange (readAdc faults adc).adcRaw) ∧
      ((readAdc faults adc).faults &&& faultAdcRange ≠ 0 ↔
        ¬ RawInRange (readAdc faults adc).adcRaw) := by
  have hraised : (faults ||| faultAdcRange) &&& faultAdcRange ≠ 0 := by
    rw [or_and_mask]
    decide
  have hfailed : ¬ RawInRange 0 := by
    unfold RawInRange
    decide
  cases adc with
  | startFailed | pollFailed =>
      refine ⟨Nat.zero_le _, ?_, ?_, iff_of_true hraised hfailed⟩
      · intro value h
        cases h
      · intro h
        cases h
  | converted value =>
      have hvalue : (UInt16.ofNat value.toNat).toNat = value.toNat := by
        have hlt := value.isLt
        rw [UInt16.toNat_ofNat']
        omega
      have htwelve : (UInt16.ofNat value.toNat).toNat ≤ 4095 := by
        have hlt := value.isLt
        omega
      have hsame : ∀ other, AdcOutcome.converted value = .converted other →
          (UInt16.ofNat value.toNat).toNat = other.toNat := by
        intro other hother
        cases hother
        exact hvalue
      unfold readAdc
      dsimp only
      split_ifs with hrange
      · refine ⟨htwelve, hsame, ?_, iff_of_true hraised ?_⟩
        · intro h
          cases h
        · rintro ⟨hlow, hhigh⟩
          rcases hrange with h | h
          · exact absurd hlow (UInt16.not_le.mpr h)
          · exact absurd hhigh (UInt16.not_le.mpr h)
      · have hinside : RawInRange (UInt16.ofNat value.toNat) :=
          ⟨UInt16.not_lt.mp fun h => hrange (.inl h), UInt16.not_lt.mp fun h => hrange (.inr h)⟩
        refine ⟨htwelve, hsame, fun _ => hinside, iff_of_false ?_ (not_not.mpr hinside)⟩
        rw [and_not_and_mask]
        exact not_not.mpr rfl

/-! ### The sample -/

/-- What a sample leaves: the calibrated temperature in register 6, a status that is only OK inside
the ranges, and the fault outside them. -/
structure SampleExact (adc : AdcOutcome) (calibrated : Int) (next : Stm32Node) : Prop where
  raw : ∀ value, adc = .converted value → next.node.adcRaw.toNat = value.toNat
  narrowed : (Int16.ofInt calibrated).toInt = calibrated
  register : signedWord (registers next.node)[6].toNat = calibrated
  ok : (registers next.node)[4] = ModbusSensorStatus.ok.code →
    SampleInRange next.node.adcRaw calibrated
  fault : next.runtimeFaults &&& faultAdcRange ≠ 0 ↔ ¬ SampleInRange next.node.adcRaw calibrated
  faultRegister :
    (registers next.node)[5] &&& faultAdcRange ≠ 0 ↔ ¬ SampleInRange next.node.adcRaw calibrated

theorem code_eq_ok {status : ModbusSensorStatus} (h : status.code = ModbusSensorStatus.ok.code) :
    status = .ok := by
  cases status with
  | ok => rfl
  | stale => exact absurd h (by decide)
  | outOfRange => exact absurd h (by decide)
  | adcError => exact absurd h (by decide)

theorem toInt_ofInt_calibration {calibrated : Int}
    (hmem : -6000 ≤ calibrated ∧ calibrated ≤ 30000) : (Int16.ofInt calibrated).toInt = calibrated :=
  Int16.toInt_ofInt_of_le (by omega) (by omega)

theorem signedWord_ofInt {calibrated : Int} (hmem : -6000 ≤ calibrated ∧ calibrated ≤ 30000) :
    signedWord (Int16.ofInt calibrated).toUInt16.toNat = calibrated := by
  calc signedWord (Int16.ofInt calibrated).toUInt16.toNat
      = (Int16.ofInt calibrated).toInt := (@toInt_toInt16 (Int16.ofInt calibrated).toUInt16).symm
    _ = calibrated := toInt_ofInt_calibration hmem

/-- The faults once the temperature is checked as well. -/
theorem faults_outside_iff {reading : AdcReading} {calibrated : Int}
    (hfault : reading.faults &&& faultAdcRange ≠ 0 ↔ ¬ RawInRange reading.adcRaw) :
    (if decide (calibrated < -4000 ∨ calibrated > 12500) = true then reading.faults ||| faultAdcRange
      else reading.faults) &&& faultAdcRange ≠ 0 ↔ ¬ SampleInRange reading.adcRaw calibrated := by
  split_ifs with houtside
  · rw [decide_eq_true_iff] at houtside
    apply iff_of_true
    · rw [or_and_mask]
      decide
    · rintro ⟨hlow, hhigh, -⟩
      omega
  · rw [decide_eq_true_iff] at houtside
    rw [hfault]
    apply not_congr
    constructor
    · exact fun hraw => ⟨by omega, by omega, hraw⟩
    · exact fun hinside => hinside.2.2

/-- The status once the temperature is checked as well. -/
theorem status_ok_inside {reading : AdcReading} {calibrated : Int}
    (hok : reading.status = .ok → RawInRange reading.adcRaw)
    (hstatus : (if decide (calibrated < -4000 ∨ calibrated > 12500) = true then
      ModbusSensorStatus.outOfRange else reading.status) = .ok) :
    SampleInRange reading.adcRaw calibrated := by
  split_ifs at hstatus with houtside
  rw [decide_eq_true_iff] at houtside
  exact ⟨by omega, by omega, hok hstatus⟩

theorem register_fault (node : ModbusNode) (adcRaw : UInt16) (temperatureCentiC : Int16)
    (status : ModbusSensorStatus) (faults : UInt16) (uptimeMs resetCount : UInt32) :
    (registers (modbusNodeSetMeasurement node adcRaw temperatureCentiC status faults uptimeMs
      resetCount))[5] &&& faultAdcRange = faults &&& faultAdcRange := by
  have hkept : (node.faultFlags &&& 1) &&& faultAdcRange = 0 := by
    rw [UInt16.and_assoc]
    exact UInt16.and_zero
  exact or_and_of_disjoint hkept faults

/-- Every sample of a node with a valid configuration is exact. -/
theorem sampleFixture_exact (state : Stm32Node) (adc : AdcOutcome) (sampleTick uptimeTick : UInt32)
    (hvalid : modbusNodeConfigValidate state.node.config = true) :
    ∃ next, sampleFixture state adc sampleTick uptimeTick = some next ∧
      calibrate state.node.config next.node.adcRaw =
        some (calibration state.node.config next.node.adcRaw) ∧
      SampleExact adc (calibration state.node.config next.node.adcRaw) next := by
  obtain ⟨htwelve, hraw, hok, hfault⟩ := readAdc_spec state.runtimeFaults adc
  have hcalibrate := calibrate_eq hvalid htwelve
  have hmem := calibration_mem hvalid htwelve
  have hfaults := @faults_outside_iff _
    (calibration state.node.config (readAdc state.runtimeFaults adc).adcRaw) hfault
  unfold sampleFixture
  dsimp only
  rw [hcalibrate, Option.bind_eq_bind, Option.bind_some]
  refine ⟨_, rfl, hcalibrate, hraw, toInt_ofInt_calibration hmem, signedWord_ofInt hmem, ?_, hfaults,
    ?_⟩
  · exact fun hstatus => status_ok_inside hok (code_eq_ok hstatus)
  · rw [register_fault]
    exact hfaults

theorem sampleFixture_exact_defaults :
    modbusNodeConfigValidate modbusNodeConfigDefaults = true ∧
      ∃ next, sampleFixture ⟨modbusNodeInit none true, 0, 0, 1⟩ (.converted 2048) 7 7 = some next ∧
        calibrate modbusNodeConfigDefaults next.node.adcRaw =
          some (calibration modbusNodeConfigDefaults next.node.adcRaw) ∧
        SampleExact (.converted 2048) (calibration modbusNodeConfigDefaults next.node.adcRaw) next :=
  have hvalid : modbusNodeConfigValidate modbusNodeConfigDefaults = true := by decide +kernel
  ⟨hvalid, sampleFixture_exact ⟨modbusNodeInit none true, 0, 0, 1⟩ (.converted 2048) 7 7 hvalid⟩

end IiotMonitoring
