import IiotMonitoring.Firmware.Topics
import IiotMonitoring.Lib.CFormat
import IiotMonitoring.Lib.DecimalFormat

/-!
# Telemetry documents

`iiot_serialize_telemetry` of `iiot_core.c`, with the writer that its appends share. The pointers it is
given are not null.
-/

namespace IiotMonitoring

/-- `IIOT_JSON_MAX`. -/
def iiotJsonMax : Nat := 1536

def iiotSensorStatusName : IiotSensorStatus → String
  | .good => "good"
  | .missing => "missing"
  | .stuck => "stuck"
  | .outOfRange => "out_of_range"
  | .noisy => "noisy"
  | .rateInvalid => "rate_invalid"
  | .driverError => "driver_error"

/-- `json_writer_t`. `output` is the memory behind the pointer, past the buffer too. -/
structure JsonWriter where
  output : Memory
  capacity : Nat
  used : Nat
  valid : Bool

/-- `append` of a formatted text. `vsnprintf` returns the length it would have written. -/
def JsonWriter.append (writer : JsonWriter) (text : List UInt8) : JsonWriter :=
  if !writer.valid || writer.capacity ≤ writer.used then { writer with valid := false }
  else
    let room := writer.capacity - writer.used
    let printed := { writer with output := writer.output.print writer.used room text }
    if room ≤ text.length then { printed with valid := false }
    else { printed with used := writer.used + text.length }

/-- The sign bit, of a zero too. -/
def CFloat.signBit (value : CFloat) : Bool := 2 ^ 31 ≤ value.bits.toNat

/-- `%.5g`. -/
def printGeneral (value : CFloat) (number : ℚ) : List UInt8 :=
  plainBytes (generalNumber 4 value.signBit |number|).print

def JsonWriter.appendNumber (writer : JsonWriter) (value : CFloat) : JsonWriter :=
  match value.value.toNumber? with
  | some number => writer.append (printGeneral value number)
  | none => writer.append (literalText "null")

def JsonWriter.appendQuality (writer : JsonWriter) (name : String) (qualityValue : IiotSampleQuality)
    (trailing : Bool) : JsonWriter :=
  writer.append
    (literalText "\"" ++ literalText name ++ literalText "\":\x7b\"status\":\"" ++
      literalText (iiotSensorStatusName qualityValue.status) ++ literalText "\",\"valid_samples\":" ++
      printUnsigned qualityValue.validSamples.toNat ++ literalText ",\"expected_samples\":" ++
      printUnsigned qualityValue.expectedSamples.toNat ++ literalText "\x7d" ++
      literalText (if trailing then "," else ""))

structure FaultName where
  flag : UInt32
  name : String

/-- The table of `append_faults`. -/
def faultNames : List FaultName :=
  [⟨(1 : UInt32) <<< 0, "TEMPERATURE_SENSOR_FAULT"⟩, ⟨(1 : UInt32) <<< 1, "CURRENT_SENSOR_FAULT"⟩,
    ⟨(1 : UInt32) <<< 2, "VIBRATION_SENSOR_FAULT"⟩, ⟨(1 : UInt32) <<< 3, "MODBUS_FAULT"⟩,
    ⟨(1 : UInt32) <<< 4, "CONFIG_FALLBACK"⟩, ⟨(1 : UInt32) <<< 5, "OFFLINE_QUEUE_DROP"⟩,
    ⟨(1 : UInt32) <<< 6, "REBOOT_LOOP_GUARD"⟩]

/-- The loop of `append_faults`. -/
def JsonWriter.appendFaultNames (flags : UInt32) :
    List FaultName → Bool → JsonWriter → JsonWriter
  | [], _, writer => writer
  | value :: values, first, writer =>
      if flags &&& value.flag ≠ 0 then
        appendFaultNames flags values false
          (writer.append (literalText (if first then "" else ",") ++ literalText "\"" ++
            literalText value.name ++ literalText "\""))
      else appendFaultNames flags values first writer

def JsonWriter.appendFaults (writer : JsonWriter) (flags : UInt32) : JsonWriter :=
  (JsonWriter.appendFaultNames flags faultNames true (writer.append (literalText "["))).append
    (literalText "]")

/-- The `quality` of a document. -/
def IiotMeasurements.overallQuality (measurements : IiotMeasurements) : String :=
  let statuses := [measurements.temperatureQuality.status, measurements.currentQuality.status,
    measurements.vibrationQuality.status]
  let bad := statuses.any fun status => status ≠ .good && status ≠ .missing
  let degraded := statuses.any fun status => status ≠ .good
  if bad then "bad" else if degraded then "degraded" else "good"

def literalBool (value : Bool) : List UInt8 := literalText (if value then "true" else "false")

/-- `iiot_serialize_telemetry`, with the memory it leaves. -/
def iiotSerializeTelemetry (telemetry : IiotTelemetry) (output : Memory) (outputSize : Nat) :
    Bool × Memory :=
  if outputSize = 0 || !(cString telemetry.siteId).identifierIsValid ||
      !(cString telemetry.deviceId).identifierIsValid || (cText telemetry.messageId).length ≠ 36 then
    (false, output)
  else
    let writer : JsonWriter := ⟨output, outputSize, 0, true⟩
    let writer := writer.append
      (literalText "\x7b\"schema_version\":1,\"message_id\":\"" ++ cText telemetry.messageId ++
        literalText "\",\"site_id\":\"" ++ cText telemetry.siteId ++ literalText "\",\"device_id\":\"" ++
        cText telemetry.deviceId ++ literalText "\",\"sequence\":" ++
        printUnsigned telemetry.sequence.toNat ++ literalText ",\"device_time\":")
    let writer :=
      if telemetry.clockSynchronized then
        writer.append (literalText "\"" ++ cText telemetry.deviceTime ++ literalText "\"")
      else writer.append (literalText "null")
    let writer := writer.append
      (literalText ",\"clock_synchronized\":" ++ literalBool telemetry.clockSynchronized ++
        literalText ",\"uptime_ms\":" ++ printUnsigned telemetry.uptimeMs.toNat ++
        literalText ",\"firmware_version\":\"" ++ cText telemetry.firmwareVersion ++
        literalText "\",\"quality\":\"")
    let measurements := telemetry.measurements
    let writer := writer.append
      (literalText measurements.overallQuality ++ literalText "\",\"replayed\":" ++
        literalBool telemetry.replayed ++ literalText ",\"measurements\":\x7b\"temperature_c\":")
    let writer := writer.appendNumber measurements.temperatureC
    let writer := writer.append (literalText ",\"vibration_rms_mps2\":")
    let writer := writer.appendNumber measurements.vibrationRmsMps2
    let writer := writer.append (literalText ",\"vibration_peak_mps2\":")
    let writer := writer.appendNumber measurements.vibrationPeakMps2
    let writer := writer.append (literalText ",\"vibration_crest_factor\":")
    let writer := writer.appendNumber measurements.vibrationCrestFactor
    let writer := writer.append (literalText ",\"current_a\":")
    let writer := writer.appendNumber measurements.currentA
    let writer := writer.append (literalText "\x7d,\"sample_quality\":\x7b")
    let writer := writer.appendQuality "temperature" measurements.temperatureQuality true
    let writer := writer.appendQuality "vibration" measurements.vibrationQuality true
    let writer := writer.appendQuality "current" measurements.currentQuality false
    let writer := writer.append (literalText "\x7d,\"fault_flags\":")
    let writer := writer.appendFaults telemetry.faultFlags
    let writer := writer.append (literalText "\x7d")
    (writer.valid, writer.output)

end IiotMonitoring
