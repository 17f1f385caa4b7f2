import IiotMonitoring.Firmware.ModbusNode

/-!
# Sampling on the STM32

`sample_fixture` of the node's `main.c`. Its arithmetic is that of `int32_t`, checked at every
operation, since a signed overflow has no meaning in C.
-/

namespace IiotMonitoring

/-! ### Signed arithmetic -/

/-- The result of an operation on `int32_t`, `none` where it overflows. -/
def int32 (value : Int) : Option Int :=
  if -2147483648 ≤ value ∧ value ≤ 2147483647 then some value else none

theorem int32_of_range {value : Int} (hlow : -2147483648 ≤ value) (hhigh : value ≤ 2147483647) :
    int32 value = some value := if_pos ⟨hlow, hhigh⟩

/-! ### The converter -/

/-- `FAULT_ADC_RANGE`. -/
def faultAdcRange : UInt16 := (1 : UInt16) <<< 1

/-- What `HAL_ADC_Start`, `HAL_ADC_PollForConversion` and `HAL_ADC_GetValue` answer. A conversion has
twelve bits. -/
inductive AdcOutcome where
  | startFailed
  | pollFailed
  | converted (value : BitVec 12)
  deriving DecidableEq

/-- `adc_raw`, `status` and `faults` as the conversion leaves them. -/
structure AdcReading where
  adcRaw : UInt16
  status : ModbusSensorStatus
  faults : UInt16
  deriving DecidableEq

def readAdc (faults : UInt16) : AdcOutcome → AdcReading
  | .startFailed | .pollFailed => ⟨0, .adcError, faults ||| faultAdcRange⟩
  | .converted value =>
      let adcRaw := UInt16.ofNat value.toNat
      if adcRaw < 10 ∨ adcRaw > 4085 then ⟨adcRaw, .outOfRange, faults ||| faultAdcRange⟩
      else ⟨adcRaw, .ok, faults &&& ~~~faultAdcRange⟩

/-! ### The sample -/

/-- `calibrated` before it is converted to `int16_t`. -/
def calibrate (config : ModbusNodeConfig) (adcRaw : UInt16) : Option Int := do
  let scaled ← int32 (adcRaw.toNat * 8000)
  let uncalibrated ← int32 (2000 + scaled.tdiv 4095)
  let shifted ← int32 (uncalibrated + config.calibrationOffsetCentiC.toInt)
  let product ← int32 (shifted * config.calibrationGainQ15.toNat)
  int32 (product.tdiv 32768)

/-- The variables of `main.c` that sampling reads and writes. -/
structure Stm32Node where
  node : ModbusNode
  runtimeFaults : UInt16
  lastSampleMs : UInt32
  resetCount : UInt32
  deriving DecidableEq

/-- `sample_fixture`, with the two readings of `HAL_GetTick`. -/
def sampleFixture (state : Stm32Node) (adc : AdcOutcome) (sampleTick uptimeTick : UInt32) :
    Option Stm32Node := do
  let reading := readAdc state.runtimeFaults adc
  let calibrated ← calibrate state.node.config reading.adcRaw
  let outside : Bool := calibrated < -4000 ∨ calibrated > 12500
  let status := if outside then .outOfRange else reading.status
  let faults := if outside then reading.faults ||| faultAdcRange else reading.faults
  return { state with
    runtimeFaults := faults
    lastSampleMs := sampleTick
    node := modbusNodeSetMeasurement state.node reading.adcRaw (Int16.ofInt calibrated) status faults
      uptimeTick state.resetCount }

end IiotMonitoring
