import IiotMonitoring.Lib.Layout

/-!
# Telemetry records

The record types of `iiot_core.h`, each with its memory image on the gateway: the NVS code stores a
record by copying its memory, so the image is what a slot blob and a journal blob hold.
-/

namespace IiotMonitoring

/-- `iiot_sensor_status_t`. -/
inductive IiotSensorStatus where
  | good | missing | stuck | outOfRange | noisy | rateInvalid | driverError
  deriving DecidableEq, Repr

def IiotSensorStatus.code : IiotSensorStatus → UInt32
  | .good => 0
  | .missing => 1
  | .stuck => 2
  | .outOfRange => 3
  | .noisy => 4
  | .rateInvalid => 5
  | .driverError => 6

/-- A word that is no enumerator reads as a driver error, as `iiot_sensor_status_name` has it. -/
def IiotSensorStatus.ofCode (code : UInt32) : IiotSensorStatus :=
  if code = 0 then .good
  else if code = 1 then .missing
  else if code = 2 then .stuck
  else if code = 3 then .outOfRange
  else if code = 4 then .noisy
  else if code = 5 then .rateInvalid
  else .driverError

theorem IiotSensorStatus.ofCode_code (status : IiotSensorStatus) : ofCode status.code = status := by
  cases status <;> rfl

/-- A C `float`, by the bits that store it. -/
structure CFloat where
  bits : UInt32
  deriving DecidableEq, Repr

/-- `iiot_sample_quality_t`. -/
structure IiotSampleQuality where
  status : IiotSensorStatus
  validSamples : UInt16
  expectedSamples : UInt16
  deriving DecidableEq, Repr

/-- `iiot_measurements_t`. -/
structure IiotMeasurements where
  temperatureC : CFloat
  currentA : CFloat
  vibrationRmsMps2 : CFloat
  vibrationPeakMps2 : CFloat
  vibrationCrestFactor : CFloat
  temperatureQuality : IiotSampleQuality
  currentQuality : IiotSampleQuality
  vibrationQuality : IiotSampleQuality
  deriving DecidableEq, Repr

/-- `iiot_telemetry_t`. Character arrays are kept whole, with whatever follows the terminator. -/
structure IiotTelemetry where
  messageId : Vector UInt8 37
  siteId : Vector UInt8 64
  deviceId : Vector UInt8 64
  firmwareVersion : Vector UInt8 49
  deviceTime : Vector UInt8 32
  sequence : UInt64
  uptimeMs : UInt64
  clockSynchronized : Bool
  replayed : Bool
  measurements : IiotMeasurements
  faultFlags : UInt32
  deriving DecidableEq, Repr

/-! ### Images -/

def boolLayout : Layout Bool :=
  Layout.u8.via (fun value => if value then 1 else 0) (fun byte => byte != 0) (by decide)

def floatLayout : Layout CFloat :=
  Layout.u32.via CFloat.bits CFloat.mk fun _ => rfl

def statusLayout : Layout IiotSensorStatus :=
  Layout.u32.via IiotSensorStatus.code IiotSensorStatus.ofCode IiotSensorStatus.ofCode_code

def sampleQualityLayout : Layout IiotSampleQuality :=
  (statusLayout.pair (Layout.u16.pair Layout.u16)).via
    (fun value => (value.status, value.validSamples, value.expectedSamples))
    (fun fields => ⟨fields.1, fields.2.1, fields.2.2⟩) fun _ => rfl

def measurementsLayout : Layout IiotMeasurements :=
  (floatLayout.pair (floatLayout.pair (floatLayout.pair (floatLayout.pair (floatLayout.pair
    (sampleQualityLayout.pair (sampleQualityLayout.pair sampleQualityLayout))))))).via
    (fun value => (value.temperatureC, value.currentA, value.vibrationRmsMps2,
      value.vibrationPeakMps2, value.vibrationCrestFactor, value.temperatureQuality,
      value.currentQuality, value.vibrationQuality))
    (fun fields => ⟨fields.1, fields.2.1, fields.2.2.1, fields.2.2.2.1, fields.2.2.2.2.1,
      fields.2.2.2.2.2.1, fields.2.2.2.2.2.2.1, fields.2.2.2.2.2.2.2⟩) fun _ => rfl

/-- The compiler aligns the 64-bit counters and the record itself to eight bytes. -/
def telemetryLayout : Layout IiotTelemetry :=
  ((Layout.bytes 37).pair ((Layout.bytes 64).pair ((Layout.bytes 64).pair ((Layout.bytes 49).pair
    ((Layout.bytes 32).pair ((Layout.padding 2).pair (Layout.u64.pair (Layout.u64.pair
    (boolLayout.pair (boolLayout.pair ((Layout.padding 2).pair (measurementsLayout.pair
    (Layout.u32.pair (Layout.padding 4)))))))))))))).via
    (fun value => (value.messageId, value.siteId, value.deviceId, value.firmwareVersion,
      value.deviceTime, (), value.sequence, value.uptimeMs, value.clockSynchronized,
      value.replayed, (), value.measurements, value.faultFlags, ()))
    (fun fields => ⟨fields.1, fields.2.1, fields.2.2.1, fields.2.2.2.1, fields.2.2.2.2.1,
      fields.2.2.2.2.2.2.1, fields.2.2.2.2.2.2.2.1, fields.2.2.2.2.2.2.2.2.1,
      fields.2.2.2.2.2.2.2.2.2.1, fields.2.2.2.2.2.2.2.2.2.2.2.1,
      fields.2.2.2.2.2.2.2.2.2.2.2.2.1⟩) fun _ => rfl

/-- `sizeof(iiot_telemetry_t)`. -/
theorem size_telemetryLayout : telemetryLayout.size = 320 := rfl

attribute [irreducible] telemetryLayout

end IiotMonitoring
