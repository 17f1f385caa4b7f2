import IiotMonitoring.Server.IngestRace

/-!
# Calls on the alarm table

Besides `persist_telemetry`, the anomaly worker's `score_device_once` opens and clears alarms, and the
API routes `update_thresholds` and `acknowledge_alarm` change thresholds and acknowledge. Each call is
one transaction. What the model and the sensor rules found is given; the columns that scoring writes on
telemetry rows and on the model registry are left out.
-/

namespace IiotMonitoring

def AlarmCode.text : AlarmCode → String
  | .temperatureThreshold => "TEMPERATURE_THRESHOLD"
  | .vibrationThreshold => "VIBRATION_THRESHOLD"
  | .currentThreshold => "CURRENT_THRESHOLD"
  | .sensorDiagnostic => "SENSOR_DIAGNOSTIC"
  | .anomalyDetected => "ANOMALY_DETECTED"

/-- `summary[:count]`. -/
def sliceTo (count : Nat) (text : String) : String := String.ofList (text.toList.take count)

/-- `notify_after_commit` raises `ValueError` above this size; the payload is ASCII. -/
def fitsNotification (event : Json) : Bool := event.print.length ≤ 7000

/-! ### `score_device_once` -/

structure SensorDiagnostic where
  code : String
  metric : String
  reason : String
  deriving DecidableEq

structure ScoreResult where
  sampleId : Nat
  anomalous : Bool
  reason : String
  deriving DecidableEq

/-- A telemetry row to handle, with what the sensor rules and the model say of it. -/
structure ScoringTarget where
  id : Nat
  diagnostics : List SensorDiagnostic
  result : Option ScoreResult
  deriving DecidableEq

/-- A call of `score_device_once`. `modelReady` is `bundle is not None`; `openedAt` is the reading of
`utc_now` at the flush, the other two are those of `_set_alarm`. -/
structure Scoring where
  deviceId : String
  modelReady : Bool
  modelVersion : Option String
  modelStatus : String
  targets : List ScoringTarget
  openedAt : Int
  sensorNow : Int
  anomalyNow : Int

def diagnosticReason (diagnostics : List SensorDiagnostic) : String :=
  sliceTo 300 ("; ".intercalate (diagnostics.map fun item => item.code ++ ": " ++ item.reason))

/-- The first active alarm of a device, code and source, with its key. -/
def Database.activeAlarmFrom (db : Database) (deviceId : String) (code : AlarmCode) (source : String) :
    Option (Nat × Alarm) :=
  match db.alarms.findIdx? fun alarm => Database.isActive deviceId code alarm && alarm.source = source
  with
  | none => none
  | some key => db.alarms[key]?.map fun alarm => (key, alarm)

/-- `_set_alarm`, on the active alarm it found. -/
def setAlarm (deviceId : String) (code : AlarmCode) (source : String) (active : Bool)
    (summary : String) (openedAt now : Int) (found : Option (Nat × Alarm)) : Option AlarmWrite :=
  match active, found with
  | true, none =>
      some (.insert {
        deviceId := deviceId
        code := code
        severity := .warning
        source := source
        state := .active
        summary := sliceTo 240 summary
        openedAt := openedAt
        clearedAt := none
        acknowledgedAt := none
        acknowledgedBy := none })
  | true, some (key, alarm) => some (.update key alarm { alarm with summary := sliceTo 240 summary })
  | false, some (key, alarm) =>
      some (.update key alarm { alarm with state := .cleared, clearedAt := some now })
  | false, none => none

namespace Scoring

variable (scoring : Scoring)

/-- `anomaly_active` and `latest_reason` after the loop over the targets. -/
def latestResult : Bool × String :=
  scoring.targets.foldl
    (fun latest row =>
      match row.result with
      | none => latest
      | some result =>
          if some row.id = scoring.targets.getLast?.map (·.id) then (result.anomalous, result.reason)
          else latest)
    (false, "No model anomaly in the latest scored batch")

/-- The rows given a reason that is not a wait for context. -/
def processed : Nat :=
  if scoring.modelReady then (scoring.targets.filter (·.result.isSome)).length
  else scoring.targets.length

def event : Json :=
  .object
    [(codes "type", .string (codes "anomaly_scoring")),
      (codes "device_id", .string (codes scoring.deviceId)),
      (codes "processed", .number (.ofNat scoring.processed)),
      (codes "model_version", scoring.modelVersion.elim .null fun version => .string (codes version)),
      (codes "model_status", .string (codes scoring.modelStatus))]

def sensorWrite (db : Database) (latest : ScoringTarget) : Option AlarmWrite :=
  setAlarm scoring.deviceId .sensorDiagnostic "sensor_rule" (!latest.diagnostics.isEmpty)
    (if latest.diagnostics.isEmpty then "Sensor diagnostics cleared"
      else diagnosticReason latest.diagnostics)
    scoring.openedAt scoring.sensorNow
    (db.activeAlarmFrom scoring.deviceId .sensorDiagnostic "sensor_rule")

def anomalyWrite (db : Database) : Option AlarmWrite :=
  if scoring.modelReady then
    setAlarm scoring.deviceId .anomalyDetected "anomaly" scoring.latestResult.1
      ("Isolation Forest: " ++ scoring.latestResult.2) scoring.openedAt scoring.anomalyNow
      (db.activeAlarmFrom scoring.deviceId .anomalyDetected "anomaly")
  else
    none

/-- What the unit of work holds at the commit. -/
def alarmWrites (db : Database) : List (Option AlarmWrite) :=
  match scoring.targets.getLast? with
  | none => []
  | some latest => [scoring.sensorWrite db latest, scoring.anomalyWrite db]

end Scoring

/-- The number of rows processed, or `none` where the notification raises. -/
def scoreDeviceOnce (db : Database) (scoring : Scoring) : Option Nat × Database :=
  if scoring.targets.isEmpty then (some 0, db)
  else if !fitsNotification scoring.event then (none, db)
  else
    (some scoring.processed,
      { db with alarms := (scoring.alarmWrites db).foldl Database.writeAlarms db.alarms })

/-! ### API routes -/

structure User where
  username : String
  role : String
  deriving DecidableEq

/-- A row of `audit_events` with its JSON column. -/
structure RouteAuditEvent where
  actor : String
  action : String
  targetType : String
  targetId : String
  details : Json

inductive ApiError where
  | invalid
  | forbidden
  | notFound (detail : String)
  | dataError
  | eventTooLarge
  deriving DecidableEq, Repr

/-- What a route answers, the tables it leaves, and the audit events it writes. -/
structure ApiResult (α : Type) where
  answer : Except ApiError α
  database : Database
  audit : List RouteAuditEvent

/-- The request changes nothing. -/
def ApiResult.refused {α : Type} (error : ApiError) (db : Database) : ApiResult α :=
  ⟨.error error, db, []⟩

structure ThresholdConfigUpdate where
  temperatureWarningC : FloatNumber ℚ
  temperatureCriticalC : FloatNumber ℚ
  vibrationWarningMps2 : FloatNumber ℚ
  vibrationCriticalMps2 : FloatNumber ℚ
  currentWarningA : FloatNumber ℚ
  currentCriticalA : FloatNumber ℚ
  hysteresisPercent : FloatNumber ℚ
  deriving DecidableEq

namespace ThresholdConfigUpdate

variable (request : ThresholdConfigUpdate)

/-- `warning >= critical` of a pair whose members are within bounds, so that they are numbers. -/
def notBelow (warning critical : FloatNumber ℚ) : Bool :=
  critical.toNumber?.any fun critical => warning.atLeast critical

def isValid : Bool :=
  request.temperatureWarningC.within 0 150 && request.temperatureCriticalC.within 0 180 &&
    request.vibrationWarningMps2.within 0 200 && request.vibrationCriticalMps2.within 0 400 &&
    request.currentWarningA.within 0 8 && request.currentCriticalA.within 0 10 &&
    request.hysteresisPercent.within 1 25 &&
    !(notBelow request.temperatureWarningC request.temperatureCriticalC ||
      notBelow request.vibrationWarningMps2 request.vibrationCriticalMps2 ||
      notBelow request.currentWarningA request.currentCriticalA)

/-- The row with the request's columns set. The values of a valid request are numbers. -/
def columns (deviceId : String) (user : User) : Option ThresholdConfig := do
  return {
    deviceId := deviceId
    temperatureWarningC := ← request.temperatureWarningC.toNumber?
    temperatureCriticalC := ← request.temperatureCriticalC.toNumber?
    vibrationWarningMps2 := ← request.vibrationWarningMps2.toNumber?
    vibrationCriticalMps2 := ← request.vibrationCriticalMps2.toNumber?
    currentWarningA := ← request.currentWarningA.toNumber?
    currentCriticalA := ← request.currentCriticalA.toNumber?
    hysteresisPercent := ← request.hysteresisPercent.toNumber?
    updatedBy := user.username }

/-- `request.model_dump()`. -/
def dump (format : FloatFormat) : Json :=
  .object
    [(codes "temperature_warning_c", format.json request.temperatureWarningC),
      (codes "temperature_critical_c", format.json request.temperatureCriticalC),
      (codes "vibration_warning_mps2", format.json request.vibrationWarningMps2),
      (codes "vibration_critical_mps2", format.json request.vibrationCriticalMps2),
      (codes "current_warning_a", format.json request.currentWarningA),
      (codes "current_critical_a", format.json request.currentCriticalA),
      (codes "hysteresis_percent", format.json request.hysteresisPercent)]

end ThresholdConfigUpdate

/-- The request is validated before the route runs. -/
def updateThresholds (format : FloatFormat) (db : Database) (deviceId : String)
    (request : ThresholdConfigUpdate) (user : User) : ApiResult ThresholdConfig :=
  if !request.isValid then .refused .invalid db
  else if user.role ≠ "admin" then .refused .forbidden db
  else if (db.devices deviceId).isNone then .refused (.notFound "Device not found") db
  else
    match request.columns deviceId user with
    | none => .refused .dataError db
    | some config =>
        { answer := .ok config
          database := { db with thresholds := Function.update db.thresholds deviceId (some config) }
          audit := [{
            actor := user.username
            action := "thresholds_updated"
            targetType := "device"
            targetId := deviceId
            details := request.dump format }] }

/-- The event of an acknowledgement. -/
def acknowledgedEvent (alarm : Alarm) (alarmId : Nat) (user : User) : Json :=
  .object
    [(codes "type", .string (codes "alarm_acknowledged")),
      (codes "device_id", .string (codes alarm.deviceId)),
      (codes "alarm_id", .number (.ofNat alarmId)),
      (codes "acknowledged_by", .string (codes user.username))]

/-- The row after its columns are set. -/
def Alarm.acknowledge (alarm : Alarm) (user : User) (now : Int) : Alarm :=
  { alarm with acknowledgedAt := some now, acknowledgedBy := some user.username }

def acknowledgeAlarm (db : Database) (alarmId : Nat) (user : User) (now : Int) : ApiResult Alarm :=
  match db.alarms[alarmId]? with
  | none => .refused (.notFound "Alarm not found") db
  | some alarm =>
      if alarm.acknowledgedAt.isSome then ⟨.ok alarm, db, []⟩
      else if !fitsNotification (acknowledgedEvent alarm alarmId user) then .refused .eventTooLarge db
      else
        { answer := .ok (alarm.acknowledge user now)
          database := { db with alarms := db.alarms.set alarmId (alarm.acknowledge user now) }
          audit := [{
            actor := user.username
            action := "alarm_acknowledged"
            targetType := "alarm"
            targetId := toString alarmId
            details := .object
              [(codes "device_id", .string (codes alarm.deviceId)),
                (codes "code", .string (codes alarm.code.text))] }] }

/-! ### Runs of calls -/

inductive AlarmCall where
  | persist (ingest : Ingest)
  | score (scoring : Scoring)
  | update (deviceId : String) (request : ThresholdConfigUpdate) (user : User)
  | acknowledge (alarmId : Nat) (user : User) (now : Int)

/-- The tables after a call that runs alone. -/
def alarmStep (format : FloatFormat) (db : Database) : AlarmCall → Database
  | .persist ingest => (runAlone format db ingest).2
  | .score scoring => (scoreDeviceOnce db scoring).2
  | .update deviceId request user => (updateThresholds format db deviceId request user).database
  | .acknowledge alarmId user now => (acknowledgeAlarm db alarmId user now).database

section Steps

variable (format : FloatFormat) (db : Database)

@[simp]
theorem alarmStep_persist (ingest : Ingest) :
    alarmStep format db (.persist ingest) = (runAlone format db ingest).2 := rfl

@[simp]
theorem alarmStep_score (scoring : Scoring) :
    alarmStep format db (.score scoring) = (scoreDeviceOnce db scoring).2 := rfl

@[simp]
theorem alarmStep_update (deviceId : String) (request : ThresholdConfigUpdate) (user : User) :
    alarmStep format db (.update deviceId request user) =
      (updateThresholds format db deviceId request user).database := rfl

@[simp]
theorem alarmStep_acknowledge (alarmId : Nat) (user : User) (now : Int) :
    alarmStep format db (.acknowledge alarmId user now) =
      (acknowledgeAlarm db alarmId user now).database := rfl

end Steps

end IiotMonitoring
