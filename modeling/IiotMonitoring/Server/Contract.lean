import IiotMonitoring.Lib.JsonSchema
import IiotMonitoring.Lib.TextEncoding
import IiotMonitoring.Server.Command
import IiotMonitoring.Server.Ingestion

/-!
# Decoding messages

`parse_topic`, `decode_payload`, `decode_health` and `decode_command_ack` of the MQTT ingestor, with
the models of `schemas.py`. What pydantic makes of a single value in its lax mode, and its own JSON
reader, are parameters.
-/

namespace IiotMonitoring

/-! ### Topics -/

inductive TopicKind where
  | telemetry | health | events | commands | commandAcks | availability
  deriving DecidableEq, Repr

def TopicKind.text : TopicKind → String
  | telemetry => "telemetry"
  | health => "health"
  | events => "events"
  | commands => "commands"
  | commandAcks => "command-acks"
  | availability => "availability"

def TopicKind.all : List TopicKind :=
  [.telemetry, .health, .events, .commands, .commandAcks, .availability]

structure ParsedTopic where
  siteId : Text
  deviceId : Text
  kind : TopicKind
  deriving DecidableEq

/-- Why a message is not decoded: a `ValueError` with its text, a `ValidationError`, or the
`RecursionError` of `json.loads`. -/
inductive MessageError where
  | value (message : String)
  | validation
  | recursion
  deriving DecidableEq, Repr

def parseTopic (value : Text) : Except MessageError ParsedTopic :=
  match value.splitOn 47 with
  | [root, version, siteId, deviceId, kind] =>
      if root = codes "iiot" ∧ version = codes "v1" then
        match TopicKind.all.find? fun candidate => codes candidate.text = kind with
        | none => .error (.value "topic kind is not supported")
        | some kind => .ok ⟨siteId, deviceId, kind⟩
      else
        .error (.value "topic is not a version-1 application topic")
  | _ => .error (.value "topic is not a version-1 application topic")

def maxPayloadBytes : Nat := 16 * 1024

/-! ### Fields -/

def NonFinite.float : NonFinite → FloatNumber ℚ
  | nan => .nan
  | infinity => .infinity false
  | negativeInfinity => .infinity true

/-- What pydantic makes of a value, for each type that the models use: `Literal[1]`, `int`, `float`,
`bool`, `UUID`, `datetime` (in microseconds), `str`, and `str` with a pattern or a length. -/
structure PydanticScalars where
  literalOne : Json → Bool
  int : Json → Option Int
  float : Json → Option (FloatNumber ℚ)
  bool : Json → Option Bool
  uuid : Json → Option String
  datetime : Json → Option Int
  string : Json → Option String
  boundedString : Json → Option String

def Json.isScalar : Json → Bool
  | .bool _ | .number _ | .string _ => true
  | _ => false

/-- What pydantic documents of its lax mode: an integer is itself, a flag counts as a number, and a
container or null is never converted. How strings are converted is left open. -/
structure PydanticScalars.Lax (scalars : PydanticScalars) : Prop where
  literalOne : ∀ number : JsonNumber, number.isInteger = true →
    (scalars.literalOne (.number number) = true ↔ number.value = 1)
  int_number : ∀ number : JsonNumber, number.isInteger = true →
    scalars.int (.number number) = some number.value.num
  int_bool : ∀ flag : Bool, scalars.int (.bool flag) = some (flag.toNat : Int)
  int_scalar : ∀ value number, scalars.int value = some number → value.isScalar = true
  float_nonFinite : ∀ literal, scalars.float (.nonFinite literal) = some literal.float
  float_bool : ∀ flag : Bool, scalars.float (.bool flag) = some (.finite (flag.toNat : ℚ))
  float_array : ∀ items, scalars.float (.array items) = none
  float_object : ∀ members, scalars.float (.object members) = none
  bool_bool : ∀ flag, scalars.bool (.bool flag) = some flag
  uuid_string : ∀ value uuid, scalars.uuid value = some uuid → ∃ text, value = .string text
  string_iff : ∀ value, (scalars.string value).isSome = true ↔ ∃ text, value = .string text
  boundedString_iff : ∀ value string,
    scalars.boundedString value = some string ↔ value = .string (codes string)

/-- A model checks the object of `json.loads` (`model_validate`), or reads the text itself
(`model_validate_json`). -/
structure Pydantic where
  python : PydanticScalars
  json : PydanticScalars
  parse : List UInt8 → Option Json
  errorCount : List UInt8 → Nat

def isLowerAlphanumeric (code : Nat) : Bool :=
  (97 ≤ code && code ≤ 122) || (48 ≤ code && code ≤ 57)

/-- `^[a-z0-9][a-z0-9-]{0,62}$` -/
def identifierPattern : Text → Bool
  | [] => false
  | head :: tail =>
      isLowerAlphanumeric head && tail.all (fun code => isLowerAlphanumeric code || code = 45) &&
        tail.length ≤ 62

def isUpperAlphanumeric (code : Nat) : Bool :=
  (65 ≤ code && code ≤ 90) || (48 ≤ code && code ≤ 57)

/-- `^[A-Z][A-Z0-9_]{1,47}$` -/
def codePattern : Text → Bool
  | [] => false
  | head :: tail =>
      (65 ≤ head && head ≤ 90) && tail.all (fun code => isUpperAlphanumeric code || code = 95) &&
        1 ≤ tail.length && tail.length ≤ 47

section Fields

variable (scalars : PydanticScalars)

/-- `int` with `ge`. -/
def natField (low : Nat) (value : Json) : Option Nat :=
  ((scalars.int value).filter fun number => (low : Int) ≤ number).map Int.toNat

/-- `int | None` with `ge` and `le`. -/
def optionalIntField (low high : Int) : Json → Option (Option Int)
  | .null => some none
  | value => ((scalars.int value).filter fun number => low ≤ number ∧ number ≤ high).map some

/-- `float | None` with `ge` and `le`, which refuse NaN. -/
def measurementField (low high : ℚ) : Json → Option (Option (FloatNumber ℚ))
  | .null => some none
  | value => ((scalars.float value).filter (FloatNumber.within low high)).map some

def identifierField (value : Json) : Option String :=
  (scalars.boundedString value).filter fun text => identifierPattern (codes text)

/-- `str` with `max_length`. -/
def textField (length : Nat) (value : Json) : Option String :=
  (scalars.boundedString value).filter fun text => text.length ≤ length

/-- `str | None` with `max_length` and the default `None`. -/
def optionalTextField (length : Nat) : Option Json → Option (Option String)
  | none | some .null => some none
  | some value => (textField scalars length value).map some

def timeField : Json → Option (Option Int)
  | .null => some none
  | value => (scalars.datetime value).map some

/-- A list of `str` with `max_length`. -/
def textsField (length : Nat) : Json → Option (List String)
  | .array items => if items.length ≤ length then items.mapM scalars.string else none
  | _ => none

end Fields

/-- A `Literal` of strings. -/
def literalField {α : Type} (text : α → String) (values : List α) : Json → Option α
  | .string found => values.find? fun value => codes (text value) = found
  | _ => none

/-- The members of an object with no others than these keys (`extra="forbid"`). -/
def modelMembers (names : List String) : Json → Option (List (Text × Json))
  | .object members =>
      if members.all fun member => names.any fun name => codes name = member.1 then some members
      else none
  | _ => none

def requiredField {α : Type} (name : String) (members : List (Text × Json)) (field : Json → Option α) :
    Option α :=
  (findMember (codes name) members).bind field

/-! ### Models -/

def sensorStatuses : List String :=
  ["good", "missing", "stuck", "out_of_range", "noisy", "rate_invalid", "driver_error"]

section Models

variable (scalars : PydanticScalars)

def validateSensorQuality (value : Json) : Option SensorQuality := do
  let members ← modelMembers ["status", "valid_samples", "expected_samples", "error_code"] value
  return {
    status := ← requiredField "status" members (literalField id sensorStatuses)
    validSamples := ← requiredField "valid_samples" members (natField scalars 0)
    expectedSamples := ← requiredField "expected_samples" members (natField scalars 1)
    errorCode := ← optionalTextField scalars 48 (findMember (codes "error_code") members) }

def validateSampleQuality (value : Json) : Option SampleQuality := do
  let members ← modelMembers ["temperature", "vibration", "current"] value
  return {
    temperature := ← requiredField "temperature" members (validateSensorQuality scalars)
    vibration := ← requiredField "vibration" members (validateSensorQuality scalars)
    current := ← requiredField "current" members (validateSensorQuality scalars) }

/-- `-0.1` as a binary64. -/
def minimumCurrent : ℚ := -3602879701896397 / 36028797018963968

def validateMeasurements (value : Json) : Option Measurements := do
  let members ← modelMembers
    ["temperature_c", "vibration_rms_mps2", "vibration_peak_mps2", "vibration_crest_factor",
      "current_a"] value
  return {
    temperatureC := ← requiredField "temperature_c" members (measurementField scalars (-80) 200)
    vibrationRmsMps2 := ← requiredField "vibration_rms_mps2" members (measurementField scalars 0 2000)
    vibrationPeakMps2 :=
      ← requiredField "vibration_peak_mps2" members (measurementField scalars 0 4000)
    vibrationCrestFactor :=
      ← requiredField "vibration_crest_factor" members (measurementField scalars 0 100)
    currentA := ← requiredField "current_a" members (measurementField scalars minimumCurrent 10) }

/-- `clock_state_is_consistent`. -/
def clockConsistent (clockSynchronized : Bool) (deviceTime : Option Int) : Bool :=
  clockSynchronized = deviceTime.isSome

def telemetryNames : List String :=
  ["schema_version", "message_id", "site_id", "device_id", "sequence", "device_time",
    "clock_synchronized", "uptime_ms", "firmware_version", "quality", "replayed", "measurements",
    "sample_quality", "fault_flags"]

def validateTelemetry (value : Json) : Option TelemetryEnvelope := do
  let members ← modelMembers telemetryNames value
  let _ ← requiredField "schema_version" members fun value =>
    if scalars.literalOne value then some () else none
  let envelope : TelemetryEnvelope := {
    messageId := ← requiredField "message_id" members scalars.uuid
    siteId := ← requiredField "site_id" members (identifierField scalars)
    deviceId := ← requiredField "device_id" members (identifierField scalars)
    sequence := ← requiredField "sequence" members (natField scalars 0)
    deviceTime := ← requiredField "device_time" members (timeField scalars)
    clockSynchronized := ← requiredField "clock_synchronized" members scalars.bool
    uptimeMs := ← requiredField "uptime_ms" members (natField scalars 0)
    firmwareVersion := ← requiredField "firmware_version" members (textField scalars 48)
    quality := ← requiredField "quality" members (literalField Quality.text [.good, .degraded, .bad])
    replayed := ← requiredField "replayed" members scalars.bool
    measurements := ← requiredField "measurements" members (validateMeasurements scalars)
    sampleQuality := ← requiredField "sample_quality" members (validateSampleQuality scalars)
    faultFlags := ← requiredField "fault_flags" members (textsField scalars 32) }
  if clockConsistent envelope.clockSynchronized envelope.deviceTime then some envelope else none

structure HealthEnvelope where
  messageId : String
  siteId : String
  deviceId : String
  sequence : Nat
  deviceTime : Option Int
  uptimeMs : Nat
  firmwareVersion : String
  status : ReportedStatus
  rssiDbm : Option Int
  resetReason : String
  resetCount : Nat
  queueDepth : Nat
  queueCapacity : Nat
  droppedMessageCount : Nat
  modbusStatus : String
  activeFaults : List String
  deriving DecidableEq

def ReportedStatus.text : ReportedStatus → String
  | offline => "offline"
  | online => "online"
  | degraded => "degraded"

def modbusStatuses : List String := ["ok", "timeout", "crc_error", "exception", "stale", "disabled"]

def healthNames : List String :=
  ["schema_version", "message_id", "site_id", "device_id", "sequence", "device_time", "uptime_ms",
    "firmware_version", "status", "rssi_dbm", "reset_reason", "reset_count", "queue_depth",
    "queue_capacity", "dropped_message_count", "modbus_status", "active_faults"]

def validateHealth (value : Json) : Option HealthEnvelope := do
  let members ← modelMembers healthNames value
  let _ ← requiredField "schema_version" members fun value =>
    if scalars.literalOne value then some () else none
  return {
    messageId := ← requiredField "message_id" members scalars.uuid
    siteId := ← requiredField "site_id" members (identifierField scalars)
    deviceId := ← requiredField "device_id" members (identifierField scalars)
    sequence := ← requiredField "sequence" members (natField scalars 0)
    deviceTime := ← requiredField "device_time" members (timeField scalars)
    uptimeMs := ← requiredField "uptime_ms" members (natField scalars 0)
    firmwareVersion := ← requiredField "firmware_version" members (textField scalars 48)
    status := ← requiredField "status" members
      (literalField ReportedStatus.text [.online, .degraded, .offline])
    rssiDbm := ← requiredField "rssi_dbm" members (optionalIntField scalars (-127) 0)
    resetReason := ← requiredField "reset_reason" members (textField scalars 48)
    resetCount := ← requiredField "reset_count" members (natField scalars 0)
    queueDepth := ← requiredField "queue_depth" members (natField scalars 0)
    queueCapacity := ← requiredField "queue_capacity" members (natField scalars 1)
    droppedMessageCount := ← requiredField "dropped_message_count" members (natField scalars 0)
    modbusStatus := ← requiredField "modbus_status" members (literalField id modbusStatuses)
    activeFaults := ← requiredField "active_faults" members (textsField scalars 32) }

def AckStatus.text : AckStatus → String
  | accepted => "accepted"
  | completed => "completed"
  | rejected => "rejected"
  | expired => "expired"
  | failed => "failed"

/-- `str` with the pattern of codes. -/
def codeField (value : Json) : Option String :=
  (scalars.boundedString value).filter fun text => codePattern (codes text)

def commandAckNames : List String :=
  ["schema_version", "message_id", "command_id", "site_id", "device_id", "device_time", "status",
    "result_code", "detail", "relay_on"]

def validateCommandAck (value : Json) : Option CommandAckEnvelope := do
  let members ← modelMembers commandAckNames value
  let _ ← requiredField "schema_version" members fun value =>
    if scalars.literalOne value then some () else none
  return {
    messageId := ← requiredField "message_id" members scalars.uuid
    commandId := ← requiredField "command_id" members scalars.uuid
    siteId := ← requiredField "site_id" members (identifierField scalars)
    deviceId := ← requiredField "device_id" members (identifierField scalars)
    deviceTime := ← requiredField "device_time" members (timeField scalars)
    status := ← requiredField "status" members
      (literalField AckStatus.text [.accepted, .completed, .rejected, .expired, .failed])
    resultCode := ← requiredField "result_code" members (codeField scalars)
    detail := ← optionalTextField scalars 240 (findMember (codes "detail") members)
    relayOn := ← requiredField "relay_on" members scalars.bool }

end Models

/-! ### What is read -/

section Reads

variable {scalars : PydanticScalars}

theorem modelMembers_eq {names : List String} {value : Json} {members : List (Text × Json)}
    (h : modelMembers names value = some members) : value = .object members := by
  cases value with
  | object members' =>
      unfold modelMembers at h
      obtain ⟨-, rfl⟩ := Option.ite_some_none_eq_some.mp h
      rfl
  | _ => cases h

theorem requiredField_some {α : Type} {name : String} {members : List (Text × Json)}
    {field : Json → Option α} {result : α} (h : requiredField name members field = some result) :
    ∃ value, findMember (codes name) members = some value ∧ field value = some result :=
  Option.bind_eq_some_iff.mp h

/-- The fields of an envelope are those of the members. -/
structure ReadsTelemetry (scalars : PydanticScalars) (members : List (Text × Json))
    (envelope : TelemetryEnvelope) : Prop where
  schemaVersion : (requiredField "schema_version" members fun value =>
    if scalars.literalOne value then some () else none) = some ()
  messageId : requiredField "message_id" members scalars.uuid = some envelope.messageId
  siteId : requiredField "site_id" members (identifierField scalars) = some envelope.siteId
  deviceId : requiredField "device_id" members (identifierField scalars) = some envelope.deviceId
  sequence : requiredField "sequence" members (natField scalars 0) = some envelope.sequence
  deviceTime : requiredField "device_time" members (timeField scalars) = some envelope.deviceTime
  clockSynchronized :
    requiredField "clock_synchronized" members scalars.bool = some envelope.clockSynchronized
  uptimeMs : requiredField "uptime_ms" members (natField scalars 0) = some envelope.uptimeMs
  firmwareVersion :
    requiredField "firmware_version" members (textField scalars 48) = some envelope.firmwareVersion
  quality : requiredField "quality" members (literalField Quality.text [.good, .degraded, .bad]) =
    some envelope.quality
  replayed : requiredField "replayed" members scalars.bool = some envelope.replayed
  measurements :
    requiredField "measurements" members (validateMeasurements scalars) = some envelope.measurements
  sampleQuality : requiredField "sample_quality" members (validateSampleQuality scalars) =
    some envelope.sampleQuality
  faultFlags : requiredField "fault_flags" members (textsField scalars 32) = some envelope.faultFlags
  consistent : clockConsistent envelope.clockSynchronized envelope.deviceTime = true

theorem validateTelemetry_iff {value : Json} {envelope : TelemetryEnvelope} :
    validateTelemetry scalars value = some envelope ↔
      ∃ members, modelMembers telemetryNames value = some members ∧
        ReadsTelemetry scalars members envelope := by
  constructor
  · intro h
    unfold validateTelemetry at h
    obtain ⟨members, hmembers, h⟩ := Option.bind_eq_some_iff.mp h
    obtain ⟨_, hversion, h⟩ := Option.bind_eq_some_iff.mp h
    obtain ⟨messageId, hmessage, h⟩ := Option.bind_eq_some_iff.mp h
    obtain ⟨siteId, hsite, h⟩ := Option.bind_eq_some_iff.mp h
    obtain ⟨deviceId, hdevice, h⟩ := Option.bind_eq_some_iff.mp h
    obtain ⟨sequence, hsequence, h⟩ := Option.bind_eq_some_iff.mp h
    obtain ⟨deviceTime, htime, h⟩ := Option.bind_eq_some_iff.mp h
    obtain ⟨clockSynchronized, hclock, h⟩ := Option.bind_eq_some_iff.mp h
    obtain ⟨uptimeMs, huptime, h⟩ := Option.bind_eq_some_iff.mp h
    obtain ⟨firmwareVersion, hfirmware, h⟩ := Option.bind_eq_some_iff.mp h
    obtain ⟨quality, hquality, h⟩ := Option.bind_eq_some_iff.mp h
    obtain ⟨replayed, hreplayed, h⟩ := Option.bind_eq_some_iff.mp h
    obtain ⟨measurements, hmeasurements, h⟩ := Option.bind_eq_some_iff.mp h
    obtain ⟨sampleQuality, hsamples, h⟩ := Option.bind_eq_some_iff.mp h
    obtain ⟨faultFlags, hfaults, h⟩ := Option.bind_eq_some_iff.mp h
    obtain ⟨hconsistent, henvelope⟩ := Option.ite_some_none_eq_some.mp h
    subst henvelope
    exact ⟨members, hmembers, hversion, hmessage, hsite, hdevice, hsequence, htime, hclock, huptime,
      hfirmware, hquality, hreplayed, hmeasurements, hsamples, hfaults, hconsistent⟩
  · rintro ⟨members, hmembers, h⟩
    refine Option.bind_eq_some_iff.mpr ⟨members, hmembers, ?_⟩
    refine Option.bind_eq_some_iff.mpr ⟨_, h.schemaVersion, ?_⟩
    refine Option.bind_eq_some_iff.mpr ⟨_, h.messageId, ?_⟩
    refine Option.bind_eq_some_iff.mpr ⟨_, h.siteId, ?_⟩
    refine Option.bind_eq_some_iff.mpr ⟨_, h.deviceId, ?_⟩
    refine Option.bind_eq_some_iff.mpr ⟨_, h.sequence, ?_⟩
    refine Option.bind_eq_some_iff.mpr ⟨_, h.deviceTime, ?_⟩
    refine Option.bind_eq_some_iff.mpr ⟨_, h.clockSynchronized, ?_⟩
    refine Option.bind_eq_some_iff.mpr ⟨_, h.uptimeMs, ?_⟩
    refine Option.bind_eq_some_iff.mpr ⟨_, h.firmwareVersion, ?_⟩
    refine Option.bind_eq_some_iff.mpr ⟨_, h.quality, ?_⟩
    refine Option.bind_eq_some_iff.mpr ⟨_, h.replayed, ?_⟩
    refine Option.bind_eq_some_iff.mpr ⟨_, h.measurements, ?_⟩
    refine Option.bind_eq_some_iff.mpr ⟨_, h.sampleQuality, ?_⟩
    refine Option.bind_eq_some_iff.mpr ⟨_, h.faultFlags, ?_⟩
    exact Option.ite_some_none_eq_some.mpr ⟨h.consistent, rfl⟩

end Reads

/-! ### Decoders -/

section Decoders

/-- An envelope of the site and the device that the topic names. -/
def ParsedTopic.accept {α : Type} (topic : ParsedTopic) (siteId deviceId : String) (envelope : α) :
    Except MessageError α :=
  if codes siteId = topic.siteId ∧ codes deviceId = topic.deviceId then .ok envelope
  else .error (.value "topic and payload identities do not match")

/-- `json.loads` in `decode_payload`, which catches `UnicodeDecodeError` and `JSONDecodeError`. -/
def JsonError.raised : JsonError → MessageError
  | malformed => .value "payload is not valid UTF-8 JSON"
  | digits => .value "Exceeds the limit for integer string conversion"
  | nesting => .recursion

variable (limits : JsonLimits) (pydantic : Pydantic)

def decodePayload (topic : Text) (payload : List UInt8) : Except MessageError TelemetryEnvelope :=
  if maxPayloadBytes < payload.length then .error (.value "payload exceeds 16 KiB contract limit")
  else
    match parseTopic topic with
    | .error error => .error error
    | .ok parsed =>
        if parsed.kind = .telemetry then
          match jsonLoads limits payload with
          | .error error => .error error.raised
          | .ok raw =>
              match validateTelemetry pydantic.python raw with
              | none => .error .validation
              | some envelope => parsed.accept envelope.siteId envelope.deviceId envelope
        else
          .error (.value "topic is not a version-1 telemetry topic")

/-- What `decode_health` and `decode_command_ack` have in common: a topic of the kind, then a bounded
payload that pydantic reads itself. -/
def decodeJson {α : Type} (kind : TopicKind) (wrongKind : String) (validate : Json → Option α)
    (siteId deviceId : α → String) (topic : Text) (payload : List UInt8) : Except MessageError α :=
  match parseTopic topic with
  | .error error => .error error
  | .ok parsed =>
      if parsed.kind = kind then
        if maxPayloadBytes < payload.length then
          .error (.value "payload exceeds 16 KiB contract limit")
        else
          match (pydantic.parse payload).bind validate with
          | none => .error .validation
          | some envelope => parsed.accept (siteId envelope) (deviceId envelope) envelope
      else
        .error (.value wrongKind)

def decodeHealth (topic : Text) (payload : List UInt8) : Except MessageError HealthEnvelope :=
  decodeJson pydantic .health "topic is not a health topic" (validateHealth pydantic.json)
    HealthEnvelope.siteId HealthEnvelope.deviceId topic payload

def decodeCommandAck (topic : Text) (payload : List UInt8) : Except MessageError CommandAckEnvelope :=
  decodeJson pydantic .commandAcks "topic is not a command acknowledgement topic"
    (validateCommandAck pydantic.json) CommandAckEnvelope.siteId CommandAckEnvelope.deviceId topic
    payload

end Decoders

end IiotMonitoring
