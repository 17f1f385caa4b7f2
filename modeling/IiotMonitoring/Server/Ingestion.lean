import IiotMonitoring.Lib.FloatNumber
import IiotMonitoring.Lib.Json
import IiotMonitoring.Lib.Program
import Mathlib.Data.Rat.Defs
import Mathlib.Logic.Function.Basic

/-!
# Telemetry ingestion

`persist_telemetry` and `apply_threshold_alarms` of `ingestion.py`, as a program over the statements
its session sends. `autoflush` is off, so rows it adds or changes are written at the flush and the
commit; a changed row is written by the columns that differ from what was loaded. The database is
PostgreSQL. Times are in microseconds.
-/

namespace IiotMonitoring

/-! ### Rows -/

inductive Severity where
  | warning | critical
  deriving DecidableEq, Repr

def Severity.text : Severity → String
  | warning => "warning"
  | critical => "critical"

inductive AlarmState where
  | active | cleared
  deriving DecidableEq, Repr

inductive AlarmCode where
  | temperatureThreshold | vibrationThreshold | currentThreshold | sensorDiagnostic | anomalyDetected
  deriving DecidableEq, Repr

structure Alarm where
  deviceId : String
  code : AlarmCode
  severity : Severity
  source : String
  state : AlarmState
  summary : String
  openedAt : Int
  clearedAt : Option Int
  acknowledgedAt : Option Int
  acknowledgedBy : Option String
  deriving DecidableEq

inductive ReportedStatus where
  | offline | online | degraded
  deriving DecidableEq, Repr

structure Device where
  id : String
  siteId : String
  displayName : String
  assetClass : String
  simulated : Bool
  firmwareVersion : Option String
  reportedStatus : ReportedStatus
  lastSeenAt : Option Int
  rssiDbm : Option Int
  resetReason : Option String
  resetCount : Nat
  queueDepth : Nat
  queueCapacity : Nat
  droppedMessageCount : Nat
  modbusStatus : String
  activeFaults : List String
  deriving DecidableEq

structure ThresholdConfig where
  deviceId : String
  temperatureWarningC : ℚ
  temperatureCriticalC : ℚ
  vibrationWarningMps2 : ℚ
  vibrationCriticalMps2 : ℚ
  currentWarningA : ℚ
  currentCriticalA : ℚ
  hysteresisPercent : ℚ
  updatedBy : String
  deriving DecidableEq

/-- `ThresholdConfig(device_id=...)` with the defaults of its columns. -/
def ThresholdConfig.default (deviceId : String) : ThresholdConfig where
  deviceId := deviceId
  temperatureWarningC := 65
  temperatureCriticalC := 75
  vibrationWarningMps2 := 9 / 2
  vibrationCriticalMps2 := 7
  currentWarningA := 7 / 5
  currentCriticalA := 9 / 5
  hysteresisPercent := 5
  updatedBy := "system"

structure SensorQuality where
  status : String
  validSamples : Nat
  expectedSamples : Nat
  errorCode : Option String
  deriving DecidableEq

structure SampleQuality where
  temperature : SensorQuality
  vibration : SensorQuality
  current : SensorQuality
  deriving DecidableEq

structure Measurements where
  temperatureC : Option (FloatNumber ℚ)
  vibrationRmsMps2 : Option (FloatNumber ℚ)
  vibrationPeakMps2 : Option (FloatNumber ℚ)
  vibrationCrestFactor : Option (FloatNumber ℚ)
  currentA : Option (FloatNumber ℚ)
  deriving DecidableEq

inductive Quality where
  | good | degraded | bad
  deriving DecidableEq, Repr

def Quality.text : Quality → String
  | good => "good"
  | degraded => "degraded"
  | bad => "bad"

structure TelemetryEnvelope where
  messageId : String
  siteId : String
  deviceId : String
  sequence : Nat
  deviceTime : Option Int
  clockSynchronized : Bool
  uptimeMs : Nat
  firmwareVersion : String
  quality : Quality
  replayed : Bool
  measurements : Measurements
  sampleQuality : SampleQuality
  faultFlags : List String
  deriving DecidableEq

structure Telemetry where
  messageId : String
  deviceId : String
  siteId : String
  sequence : Nat
  deviceTime : Option Int
  receivedAt : Int
  clockSynchronized : Bool
  uptimeMs : Nat
  firmwareVersion : String
  quality : Quality
  replayed : Bool
  measurements : Measurements
  sampleQuality : SampleQuality
  faultFlags : List String
  deriving DecidableEq

/-- The committed tables. An alarm's key is its place in the list. -/
structure Database where
  telemetry : List Telemetry
  devices : String → Option Device
  thresholds : String → Option ThresholdConfig
  alarms : List Alarm

namespace Database

def findMessage (db : Database) (messageId : String) : Option Telemetry :=
  db.telemetry.find? (·.messageId = messageId)

def findSequence (db : Database) (deviceId : String) (sequence : Nat) : Option Telemetry :=
  db.telemetry.find? fun row => row.deviceId = deviceId && row.sequence = sequence

def isActive (deviceId : String) (code : AlarmCode) (alarm : Alarm) : Bool :=
  alarm.deviceId = deviceId && alarm.code = code && alarm.state = .active

/-- The first active alarm of a device and code, with its key. -/
def activeAlarm (db : Database) (deviceId : String) (code : AlarmCode) : Option (Nat × Alarm) :=
  match db.alarms.findIdx? (isActive deviceId code) with
  | none => none
  | some key => db.alarms[key]?.map fun alarm => (key, alarm)

end Database

/-! ### Writes -/

/-- What the unit of work holds besides alarms: the device row, new or loaded, the telemetry row, and
the threshold row where it is new. -/
structure RowWrites where
  loaded : Option Device
  held : Device
  telemetry : Telemetry
  thresholds : Option ThresholdConfig

inductive AlarmWrite where
  | insert (alarm : Alarm)
  | update (key : Nat) (loaded held : Alarm)

/-- A changed device row is written by the columns `persist_telemetry` sets, where they differ from what
was loaded. -/
def writeDevice (loaded held stored : Device) : Device :=
  { stored with
    firmwareVersion :=
      if held.firmwareVersion = loaded.firmwareVersion then stored.firmwareVersion
      else held.firmwareVersion
    reportedStatus :=
      if held.reportedStatus = loaded.reportedStatus then stored.reportedStatus
      else held.reportedStatus
    lastSeenAt := if held.lastSeenAt = loaded.lastSeenAt then stored.lastSeenAt else held.lastSeenAt
    activeFaults :=
      if held.activeFaults = loaded.activeFaults then stored.activeFaults else held.activeFaults }

def writeAlarm (loaded held stored : Alarm) : Alarm :=
  { stored with
    severity := if held.severity = loaded.severity then stored.severity else held.severity
    summary := if held.summary = loaded.summary then stored.summary else held.summary
    state := if held.state = loaded.state then stored.state else held.state
    clearedAt := if held.clearedAt = loaded.clearedAt then stored.clearedAt else held.clearedAt }

/-- The device row that the write leaves. -/
def RowWrites.device (rows : RowWrites) (stored : Option Device) : Option Device :=
  match rows.loaded with
  | none => some rows.held
  | some loaded => stored.map (writeDevice loaded rows.held)

namespace Database

def writeRows (db : Database) (rows : RowWrites) : Database :=
  { db with
    telemetry := db.telemetry ++ [rows.telemetry]
    devices := Function.update db.devices rows.telemetry.deviceId
      (rows.device (db.devices rows.telemetry.deviceId))
    thresholds :=
      match rows.thresholds with
      | none => db.thresholds
      | some config => Function.update db.thresholds config.deviceId (some config) }

def writeAlarms (alarms : List Alarm) (write : Option AlarmWrite) : List Alarm :=
  match write with
  | none => alarms
  | some (.insert alarm) => alarms ++ [alarm]
  | some (.update key loaded held) => alarms.modify key (writeAlarm loaded held)

/-- What a commit stores: the rows of the session, flushed before or not, and its alarms. -/
def commit (db : Database) (rows : Option RowWrites) (alarms : List (Option AlarmWrite)) : Database :=
  { rows.elim db db.writeRows with alarms := alarms.foldl writeAlarms db.alarms }

/-- A row with a key that exists: the message id, the device and sequence, or the key of a new device or
threshold row. -/
def violates (db : Database) (rows : RowWrites) : Bool :=
  (db.findMessage rows.telemetry.messageId).isSome ||
    (db.findSequence rows.telemetry.deviceId rows.telemetry.sequence).isSome ||
    (rows.loaded.isNone && (db.devices rows.telemetry.deviceId).isSome) ||
    rows.thresholds.any fun config => (db.thresholds config.deviceId).isSome

end Database

/-! ### The statements of a session -/

inductive SessionOp where
  | findMessage (messageId : String)
  | findSequence (deviceId : String) (sequence : Nat)
  | getDevice (id : String)
  | getThresholds (deviceId : String)
  | activeAlarm (deviceId : String) (code : AlarmCode)
  | flush (rows : RowWrites)
  | notify (payload : Text)
  | commit (rows : Option RowWrites) (alarms : List (Option AlarmWrite))
  | findAfterRollback (messageId : String)

/-- The answer to a statement; a flush or commit answers whether it succeeded, or raised
`IntegrityError`. -/
abbrev SessionOp.Answer : SessionOp → Type
  | findMessage _ | findSequence _ _ | findAfterRollback _ => Option Telemetry
  | getDevice _ => Option Device
  | getThresholds _ => Option ThresholdConfig
  | activeAlarm _ _ => Option (Nat × Alarm)
  | notify _ => Unit
  | flush _ | commit _ _ => Bool

inductive IngestStatus where
  | inserted | duplicate
  deriving DecidableEq, Repr

inductive IngestError where
  | sequenceCollision (sequence : Nat)
  | siteMismatch
  | eventTooLarge
  | integrityError
  deriving DecidableEq, Repr

/-- The result of `persist_telemetry`, or the exception it raises. -/
abbrev IngestOutcome : Type := Except IngestError (IngestStatus × String)

abbrev Statement (α : Type) : Type := Program SessionOp SessionOp.Answer α

namespace Session

def findMessage (messageId : String) : Statement (Option Telemetry) :=
  .perform (SessionOp.findMessage messageId)

def findSequence (deviceId : String) (sequence : Nat) : Statement (Option Telemetry) :=
  .perform (SessionOp.findSequence deviceId sequence)

def getDevice (id : String) : Statement (Option Device) := .perform (SessionOp.getDevice id)

def getThresholds (deviceId : String) : Statement (Option ThresholdConfig) :=
  .perform (SessionOp.getThresholds deviceId)

def activeAlarm (deviceId : String) (code : AlarmCode) : Statement (Option (Nat × Alarm)) :=
  .perform (SessionOp.activeAlarm deviceId code)

def flush (rows : RowWrites) : Statement Bool := .perform (SessionOp.flush rows)

/-- `SELECT pg_notify`, which the transaction's commit sends. -/
def notify (payload : Text) : Statement Unit := .perform (SessionOp.notify payload)

def commit (rows : Option RowWrites) (alarms : List (Option AlarmWrite)) : Statement Bool :=
  .perform (SessionOp.commit rows alarms)

def findAfterRollback (messageId : String) : Statement (Option Telemetry) :=
  .perform (SessionOp.findAfterRollback messageId)

end Session

/-! ### `apply_threshold_alarms` -/

/-- What Python's floats add to rational arithmetic: rounding, the format `.3g`, and the JSON value of a
measurement that `model_dump` and `json.dumps` make. -/
structure FloatFormat where
  round : ℚ → ℚ
  threeDigits : FloatNumber ℚ → String
  json : FloatNumber ℚ → Json

/-- A call of `_apply_metric_alarm`, without the session. -/
structure MetricRule where
  code : AlarmCode
  label : String
  unit : String
  value : Option (FloatNumber ℚ)
  warning : ℚ
  critical : ℚ
  hysteresisPercent : ℚ
  now : Int

variable (format : FloatFormat)

def thresholdSummary (label : String) (value : FloatNumber ℚ) (severity : Severity) (unit : String) : String :=
  label ++ " is " ++ format.threeDigits value ++ " " ++ unit ++ "; " ++ severity.text ++
    " threshold is active."

/-- The severity a value calls for. -/
def MetricRule.desired (rule : MetricRule) (value : FloatNumber ℚ) : Option Severity :=
  if value.atLeast rule.critical then some .critical
  else if value.atLeast rule.warning then some .warning
  else none

def MetricRule.clearBelow (rule : MetricRule) : ℚ :=
  format.round (rule.warning * format.round (1 - format.round (rule.hysteresisPercent / 100)))

/-- What `_apply_metric_alarm` does to the active alarm it found. -/
def MetricRule.decide (rule : MetricRule) (deviceId : String) (value : FloatNumber ℚ)
    (active : Option (Nat × Alarm)) : Option AlarmWrite :=
  match rule.desired value with
  | some severity =>
      let summary := thresholdSummary format rule.label value severity rule.unit
      match active with
      | none =>
          some (.insert {
            deviceId := deviceId
            code := rule.code
            severity := severity
            source := "threshold"
            state := .active
            summary := summary
            openedAt := rule.now
            clearedAt := none
            acknowledgedAt := none
            acknowledgedBy := none })
      | some (key, alarm) =>
          some (.update key alarm { alarm with severity := severity, summary := summary })
  | none =>
      match active with
      | none => none
      | some (key, alarm) =>
          if value.below (rule.clearBelow format) then
            some (.update key alarm { alarm with state := .cleared, clearedAt := some rule.now })
          else
            none

/-- A call of `persist_telemetry`: the envelope, and the readings of `utc_now` it takes. -/
structure Ingest where
  envelope : TelemetryEnvelope
  now : Int
  temperatureNow : Int
  vibrationNow : Int
  currentNow : Int

namespace Ingest

variable (ingest : Ingest)

/-- The three calls of `_apply_metric_alarm`. The label is the metric's name after `capitalize`. -/
def metricRules (config : ThresholdConfig) : List MetricRule :=
  [{ code := .temperatureThreshold
     label := "Temperature"
     unit := "deg C"
     value := ingest.envelope.measurements.temperatureC
     warning := config.temperatureWarningC
     critical := config.temperatureCriticalC
     hysteresisPercent := config.hysteresisPercent
     now := ingest.temperatureNow },
   { code := .vibrationThreshold
     label := "Vibration rms"
     unit := "m/s^2"
     value := ingest.envelope.measurements.vibrationRmsMps2
     warning := config.vibrationWarningMps2
     critical := config.vibrationCriticalMps2
     hysteresisPercent := config.hysteresisPercent
     now := ingest.vibrationNow },
   { code := .currentThreshold
     label := "Current"
     unit := "A"
     value := ingest.envelope.measurements.currentA
     warning := config.currentWarningA
     critical := config.currentCriticalA
     hysteresisPercent := config.hysteresisPercent
     now := ingest.currentNow }]

/-! ### `persist_telemetry` -/

def duplicate : IngestOutcome := .ok (.duplicate, ingest.envelope.messageId)

def inserted : IngestOutcome := .ok (.inserted, ingest.envelope.messageId)

/-- The device row after its columns are set. -/
def touch (device : Device) : Device :=
  { device with
    lastSeenAt := some ingest.now
    firmwareVersion := some ingest.envelope.firmwareVersion
    reportedStatus := if ingest.envelope.quality ≠ .good then .degraded else .online
    activeFaults := ingest.envelope.faultFlags }

/-- A new device row, with the defaults of its columns. -/
def newDevice : Device where
  id := ingest.envelope.deviceId
  siteId := ingest.envelope.siteId
  displayName := ingest.envelope.deviceId
  assetClass := "dc-motor"
  simulated := true
  firmwareVersion := none
  reportedStatus := .offline
  lastSeenAt := none
  rssiDbm := none
  resetReason := none
  resetCount := 0
  queueDepth := 0
  queueCapacity := 512
  droppedMessageCount := 0
  modbusStatus := "disabled"
  activeFaults := []

def telemetryRow : Telemetry where
  messageId := ingest.envelope.messageId
  deviceId := ingest.envelope.deviceId
  siteId := ingest.envelope.siteId
  sequence := ingest.envelope.sequence
  deviceTime := ingest.envelope.deviceTime
  receivedAt := ingest.now
  clockSynchronized := ingest.envelope.clockSynchronized
  uptimeMs := ingest.envelope.uptimeMs
  firmwareVersion := ingest.envelope.firmwareVersion
  quality := ingest.envelope.quality
  replayed := ingest.envelope.replayed
  measurements := ingest.envelope.measurements
  sampleQuality := ingest.envelope.sampleQuality
  faultFlags := ingest.envelope.faultFlags

/-- The device and telemetry rows to write, unless the device is registered at another site. -/
def rows (loaded : Option Device) : Option RowWrites :=
  match loaded with
  | none =>
      some {
        loaded := none
        held := ingest.touch ingest.newDevice
        telemetry := ingest.telemetryRow
        thresholds := none }
  | some device =>
      if device.siteId ≠ ingest.envelope.siteId then none
      else
        some {
          loaded := some device
          held := ingest.touch device
          telemetry := ingest.telemetryRow
          thresholds := none }

/-- The handler of an `IntegrityError` of the commit. -/
def afterRollback : Statement IngestOutcome := do
  let existing ← Session.findAfterRollback ingest.envelope.messageId
  if existing.isSome then
    return ingest.duplicate
  return .error .integrityError

/-- The event of `notify_after_commit`. -/
def liveEvent : Json :=
  let values := ingest.envelope.measurements
  let measurement (value : Option (FloatNumber ℚ)) : Json := value.elim .null format.json
  .object
    [(codes "type", .string (codes "telemetry")),
      (codes "device_id", .string (codes ingest.envelope.deviceId)),
      (codes "message_id", .string (codes ingest.envelope.messageId)),
      (codes "sequence", .number (.ofNat ingest.envelope.sequence)),
      (codes "quality", .string (codes ingest.envelope.quality.text)),
      (codes "measurements", .object
        [(codes "temperature_c", measurement values.temperatureC),
          (codes "vibration_rms_mps2", measurement values.vibrationRmsMps2),
          (codes "vibration_peak_mps2", measurement values.vibrationPeakMps2),
          (codes "vibration_crest_factor", measurement values.vibrationCrestFactor),
          (codes "current_a", measurement values.currentA)]),
      (codes "fault_flags",
        .array (ingest.envelope.faultFlags.map fun flag => .string (codes flag)))]

/-- The commit. `rows` are those not flushed yet. -/
def commitSession (rows : Option RowWrites) (alarms : List (Option AlarmWrite)) :
    Statement IngestOutcome := do
  if ← Session.commit rows alarms then
    return ingest.inserted
  ingest.afterRollback

/-- The notification, whose payload is ASCII, then the commit. -/
def commitTelemetry (rows : Option RowWrites) (alarms : List (Option AlarmWrite)) :
    Statement IngestOutcome := do
  let payload := (ingest.liveEvent format).print
  if payload.length > 7000 then
    return .error .eventTooLarge
  Session.notify payload
  ingest.commitSession rows alarms

/-- The remaining calls of `_apply_metric_alarm`, then the commit. -/
def applyMetricAlarms (rows : Option RowWrites) :
    List MetricRule → List (Option AlarmWrite) → Statement IngestOutcome
  | [], alarms => ingest.commitTelemetry format rows alarms
  | rule :: rules, alarms =>
      match rule.value with
      | none => applyMetricAlarms rows rules (alarms ++ [none])
      | some value => do
          let active ← Session.activeAlarm ingest.envelope.deviceId rule.code
          applyMetricAlarms rows rules
            (alarms ++ [rule.decide format ingest.envelope.deviceId value active])

/-- The new threshold row and its flush, whose `IntegrityError` nothing handles. -/
def flushThresholds (rows : RowWrites) : Statement IngestOutcome := do
  let config := ThresholdConfig.default ingest.envelope.deviceId
  if ← Session.flush { rows with thresholds := some config } then
    ingest.applyMetricAlarms format none (ingest.metricRules config) []
  else
    return .error .integrityError

/-- `apply_threshold_alarms`, then the commit. -/
def applyThresholdAlarms (rows : RowWrites) : Statement IngestOutcome := do
  let config ← Session.getThresholds ingest.envelope.deviceId
  match config with
  | some config => ingest.applyMetricAlarms format (some rows) (ingest.metricRules config) []
  | none => ingest.flushThresholds format rows

def loadDevice : Statement IngestOutcome := do
  let loaded ← Session.getDevice ingest.envelope.deviceId
  match ingest.rows loaded with
  | none => return .error .siteMismatch
  | some rows => ingest.applyThresholdAlarms format rows

def checkSequence : Statement IngestOutcome := do
  let owner ← Session.findSequence ingest.envelope.deviceId ingest.envelope.sequence
  if owner.isSome then
    return .error (.sequenceCollision ingest.envelope.sequence)
  ingest.loadDevice format

def persistTelemetry : Statement IngestOutcome := do
  let existing ← Session.findMessage ingest.envelope.messageId
  if existing.isSome then
    return ingest.duplicate
  ingest.checkSequence format

end Ingest

end IiotMonitoring
