import IiotMonitoring.Firmware.AckPublish
import IiotMonitoring.Firmware.SampleWindow
import IiotMonitoring.Firmware.Serialize

/-!
# Aggregating samples

The windows that `aggregation_task` of `app_main.c` makes of the samples it receives, the record it
builds from one of them, and how `publish_telemetry` publishes a record.
-/

namespace IiotMonitoring

/-! ### Windows -/

/-- `expected` of `aggregation_task`. -/
def IiotConfig.expectedSamples (config : IiotConfig) : UInt16 :=
  config.telemetryIntervalMs / config.sampleIntervalMs

/-- The window that is being filled, and how many samples it has got. -/
structure Aggregation (K : Type) where
  window : IiotSampleWindow K
  samples : UInt16

namespace Aggregation

variable {K : Type} [Field K] [LinearOrder K]

/-- `-0.1F`. -/
def lowestCurrent : K := -(13421773 / 134217728)

def start (expected : UInt16) : Aggregation K := ⟨.begin expected, 0⟩

/-- One pass of the loop, with the measurements of a window that it fills. -/
def receive (sqrtf : K → K) (expected : UInt16) (task : Aggregation K) (sample : IiotSample K) :
    Option (WindowMeasurements K) × Aggregation K :=
  let window := task.window.add lowestCurrent sample
  let samples := task.samples + 1
  if samples < expected then (none, ⟨window, samples⟩)
  else (some (window.finish sqrtf), start expected)

/-- The measurements of the windows that the samples fill. -/
def measurements (sqrtf : K → K) (expected : UInt16) :
    Aggregation K → List (IiotSample K) → List (WindowMeasurements K)
  | _, [] => []
  | task, sample :: rest =>
      (task.receive sqrtf expected sample).1.toList ++
        measurements sqrtf expected (task.receive sqrtf expected sample).2 rest

end Aggregation

/-! ### Records -/

section Stored

variable {K : Type}

/-- What a `float` stores, where `convert` gives the float of a number. -/
def FloatNumber.stored (convert : K → CFloat) : FloatNumber K → CFloat
  | finite value => convert value
  | infinity negative => ⟨if negative then 0xff800000 else 0x7f800000⟩
  | nan => ⟨0x7fc00000⟩

def WindowMeasurements.stored (convert : K → CFloat) (measurements : WindowMeasurements K) :
    IiotMeasurements where
  temperatureC := measurements.temperatureC.stored convert
  currentA := measurements.currentA.stored convert
  vibrationRmsMps2 := measurements.vibrationRmsMps2.stored convert
  vibrationPeakMps2 := measurements.vibrationPeakMps2.stored convert
  vibrationCrestFactor := measurements.vibrationCrestFactor.stored convert
  temperatureQuality := measurements.temperatureQuality
  currentQuality := measurements.currentQuality
  vibrationQuality := measurements.vibrationQuality

end Stored

/-- `IIOT_FIRMWARE_VERSION`. -/
def iiotFirmwareVersion : String := "0.1.0"

/-- `firmware_version`, with `CONFIG_IIOT_SIMULATION`. -/
def firmwareVersion (simulation : Bool) : String :=
  if simulation then iiotFirmwareVersion ++ "-sim" else iiotFirmwareVersion

/-- What `aggregation_task` reads besides the samples when a window is full: random bytes, the next
sequence number, the clocks and `active_faults`. -/
structure AggregationReads where
  random : Vector UInt8 16
  sequence : UInt64
  uptimeMs : UInt64
  time : Int
  activeFaults : UInt32

/-- The array `device_time` after `gateway_utc_now`. -/
def deviceTimeArray : Option String → Vector UInt8 32
  | some now => storeText (zeroArray 32) (literalText now)
  | none => zeroArray 32

/-- The record of a full window. -/
def aggregatedTelemetry (simulation : Bool) (config : IiotConfig) (reads : AggregationReads)
    (measurements : IiotMeasurements) : IiotTelemetry where
  messageId := storeText (zeroArray 37) (gatewayMakeUuid reads.random)
  siteId := printText (zeroArray 64) (cText config.siteId)
  deviceId := printText (zeroArray 64) (cText config.deviceId)
  firmwareVersion := printText (zeroArray 49) (literalText (firmwareVersion simulation))
  deviceTime := deviceTimeArray (gatewayUtcNow reads.time 32)
  sequence := reads.sequence
  uptimeMs := reads.uptimeMs
  clockSynchronized := (gatewayUtcNow reads.time 32).isSome
  replayed := false
  measurements := measurements
  faultFlags := reads.activeFaults

/-! ### Publishing -/

/-- The string in a buffer of `size` bytes. -/
def Memory.text (memory : Memory) (size : Nat) : List UInt8 :=
  ((List.range size).map memory).takeWhile (· ≠ 0)

def telemetrySuffix : CString where
  bytes := literalText "telemetry"
  terminated := toUTF8_ne_zero (by decide)

/-- `publish_telemetry`, with the array `payload` before it is written, and the array of the topic. -/
def publishTelemetry (connected : Bool) (config : IiotConfig) (payload : Memory)
    (topic : Vector UInt8 iiotTopicMax) (telemetry : IiotTelemetry) : Option (List UInt8 × List UInt8) :=
  let (written, payload) := iiotSerializeTelemetry telemetry payload iiotJsonMax
  if written then
    gatewayMqttPublish connected config topic telemetrySuffix (payload.text iiotJsonMax)
  else
    none

end IiotMonitoring
