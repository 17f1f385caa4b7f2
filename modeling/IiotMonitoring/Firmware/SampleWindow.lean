import IiotMonitoring.Firmware.Telemetry
import IiotMonitoring.Lib.FloatNumber
import Mathlib.Algebra.Order.Field.Basic

/-!
# Windows of samples

The sample window of `iiot_core.c`. A `float` or a `double` is a number of an ordered field, an
infinity or NaN, and the arithmetic is exact.
-/

namespace IiotMonitoring

/-- `merge_status`. -/
def mergeStatus (current next : IiotSensorStatus) : IiotSensorStatus :=
  if current.code < next.code then next else current

/-- The arguments of `iiot_sample_window_add`. -/
structure IiotSample (K : Type) where
  temperatureC : FloatNumber K
  temperatureStatus : IiotSensorStatus
  currentA : FloatNumber K
  currentStatus : IiotSensorStatus
  vibrationMps2 : FloatNumber K
  vibrationStatus : IiotSensorStatus

/-- `iiot_sample_window_t`. -/
structure IiotSampleWindow (K : Type) where
  temperatureSum : K
  currentSum : K
  vibrationSquareSum : K
  vibrationPeakMps2 : K
  temperatureValid : UInt16
  currentValid : UInt16
  vibrationValid : UInt16
  expectedSamples : UInt16
  temperatureStatus : IiotSensorStatus
  currentStatus : IiotSensorStatus
  vibrationStatus : IiotSensorStatus

/-- `iiot_measurements_t`. -/
structure WindowMeasurements (K : Type) where
  temperatureC : FloatNumber K
  currentA : FloatNumber K
  vibrationRmsMps2 : FloatNumber K
  vibrationPeakMps2 : FloatNumber K
  vibrationCrestFactor : FloatNumber K
  temperatureQuality : IiotSampleQuality
  currentQuality : IiotSampleQuality
  vibrationQuality : IiotSampleQuality

section Window

variable {K : Type} [Field K] [LinearOrder K]

/-- The number of a good sample that is finite and in its range, and the status that is merged for any
other sample. -/
def readSample (inRange : K → Bool) (status : IiotSensorStatus) :
    FloatNumber K → Except IiotSensorStatus K
  | .finite number =>
      if status = .good && inRange number then .ok number
      else .error (if status = .good then .outOfRange else status)
  | .infinity _ | .nan => .error (if status = .good then .outOfRange else status)

namespace IiotSample

variable (lowest : K) (sample : IiotSample K)

def temperature : Except IiotSensorStatus K :=
  readSample (fun number => -80 ≤ number && number ≤ 200) sample.temperatureStatus sample.temperatureC

def current : Except IiotSensorStatus K :=
  readSample (fun number => lowest ≤ number && number ≤ 10) sample.currentStatus sample.currentA

def vibration : Except IiotSensorStatus K :=
  readSample (fun number => |number| ≤ 4000) sample.vibrationStatus sample.vibrationMps2

end IiotSample

namespace IiotSampleWindow

/-- `iiot_sample_window_begin`. -/
def begin (expectedSamples : UInt16) : IiotSampleWindow K where
  temperatureSum := 0
  currentSum := 0
  vibrationSquareSum := 0
  vibrationPeakMps2 := 0
  temperatureValid := 0
  currentValid := 0
  vibrationValid := 0
  expectedSamples := if expectedSamples = 0 then 1 else expectedSamples
  temperatureStatus := .good
  currentStatus := .good
  vibrationStatus := .good

variable (window : IiotSampleWindow K)

def addTemperature : Except IiotSensorStatus K → IiotSampleWindow K
  | .ok temperatureC =>
      { window with
        temperatureSum := window.temperatureSum + temperatureC
        temperatureValid := window.temperatureValid + 1 }
  | .error status => { window with temperatureStatus := mergeStatus window.temperatureStatus status }

def addCurrent : Except IiotSensorStatus K → IiotSampleWindow K
  | .ok currentA =>
      { window with
        currentSum := window.currentSum + currentA
        currentValid := window.currentValid + 1 }
  | .error status => { window with currentStatus := mergeStatus window.currentStatus status }

def addVibration : Except IiotSensorStatus K → IiotSampleWindow K
  | .ok vibrationMps2 =>
      { window with
        vibrationSquareSum := window.vibrationSquareSum + vibrationMps2 * vibrationMps2
        vibrationPeakMps2 :=
          if window.vibrationPeakMps2 < |vibrationMps2| then |vibrationMps2| else window.vibrationPeakMps2
        vibrationValid := window.vibrationValid + 1 }
  | .error status => { window with vibrationStatus := mergeStatus window.vibrationStatus status }

/-- `iiot_sample_window_add`, where `lowest` is the constant `-0.1F`. -/
def add (lowest : K) (window : IiotSampleWindow K) (sample : IiotSample K) : IiotSampleWindow K :=
  ((window.addTemperature sample.temperature).addCurrent (sample.current lowest)).addVibration
    sample.vibration

end IiotSampleWindow

/-- `quality`. -/
def sampleQuality (status : IiotSensorStatus) (valid expected : UInt16) : IiotSampleQuality :=
  ⟨if status = .good ∧ valid < expected then .missing else status, valid, expected⟩

/-- A sum over a counter, NaN where nothing was counted. -/
def quotient (sum : K) (valid : UInt16) : FloatNumber K :=
  if 0 < valid then .finite (sum / valid.toNat) else .nan

/-- The crest factor of two numbers, where the first is not too small. -/
def crestFactor (rms peak : FloatNumber K) : FloatNumber K :=
  match rms, peak with
  | .finite rms, .finite peak => if 1 / 1000000 < rms then .finite (peak / rms) else .nan
  | _, _ => .nan

/-- `iiot_sample_window_finish`, with `sqrtf`. -/
def IiotSampleWindow.finish (sqrtf : K → K) (window : IiotSampleWindow K) : WindowMeasurements K :=
  let rms := if 0 < window.vibrationValid then
      .finite (sqrtf (window.vibrationSquareSum / window.vibrationValid.toNat))
    else .nan
  let peak := if 0 < window.vibrationValid then .finite window.vibrationPeakMps2 else .nan
  { temperatureC := quotient window.temperatureSum window.temperatureValid
    currentA := quotient window.currentSum window.currentValid
    vibrationRmsMps2 := rms
    vibrationPeakMps2 := peak
    vibrationCrestFactor := crestFactor rms peak
    temperatureQuality :=
      sampleQuality window.temperatureStatus window.temperatureValid window.expectedSamples
    currentQuality := sampleQuality window.currentStatus window.currentValid window.expectedSamples
    vibrationQuality :=
      sampleQuality window.vibrationStatus window.vibrationValid window.expectedSamples }

/-- The window after the samples. -/
def IiotSampleWindow.after (lowest : K) (expectedSamples : UInt16) (samples : List (IiotSample K)) :
    IiotSampleWindow K :=
  samples.foldl (add lowest) (begin expectedSamples)

end Window

end IiotMonitoring
