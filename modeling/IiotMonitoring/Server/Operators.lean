import IiotMonitoring.Lib.Interleaving
import IiotMonitoring.Server.Alarms

/-!
# The operators' routes

The routes of `main.py` through which signed-in users record calibrations and maintenance, read and
change thresholds and acknowledge alarms, each a program over the statements of its session. Requests
run side by side, and with them the ingestor and the workers. A flush is taken together with the commit
that follows it: until then its row has a key and nobody sees it. `updated_at` of thresholds is left out.
-/

namespace IiotMonitoring

/-! ### Users and tokens -/

structure Account extends User where
  active : Bool
  deriving DecidableEq

/-- What `jwt.decode` returns: `sub` where it is a string. -/
structure TokenPayload where
  sub : Option String

/-- `jwt.decode` at a time, `none` where it raises `InvalidTokenError`. -/
abbrev JwtDecode : Type := Int → String → Option TokenPayload

/-- How a request fails: `HTTPException`, the validation of its body, or an exception nobody catches. -/
inductive RouteError where
  | unauthorized (detail : String)
  | forbidden (detail : String)
  | notFound (detail : String)
  | invalid
  | unprocessable (detail : String)
  | serverError
  deriving DecidableEq, Repr

def decodeAccessToken (decode : JwtDecode) (now : Int) (token : String) : Except RouteError String :=
  match decode now token with
  | none => .error (.unauthorized "Invalid or expired access token")
  | some payload =>
      match payload.sub with
      | none => .error (.unauthorized "Invalid token subject")
      | some username =>
          if username = "" then .error (.unauthorized "Invalid token subject") else .ok username

/-! ### Bodies -/

/-- A `datetime`, in microseconds, without or with an offset. -/
inductive DateTime where
  | naive (value : Int)
  | aware (instant : Int)
  deriving DecidableEq, Repr

/-- `self <= other`, which raises `TypeError` for a naive and an aware value. -/
def DateTime.le? : DateTime → DateTime → Option Bool
  | naive left, naive right => some (left ≤ right)
  | aware left, aware right => some (left ≤ right)
  | naive _, aware _ | aware _, naive _ => none

/-- What a column with a time zone stores. The database reads a value without offset in the zone of its
session. -/
def DateTime.instantIn (zone : Int → Int) : DateTime → Int
  | naive value => zone value
  | aware instant => instant

/-- A zone whose clock is never set back. -/
def ZoneOrdered (zone : Int → Int) : Prop :=
  ∀ earlier later : Int, earlier < later → zone earlier < zone later

inductive CalibratedSensor where
  | temperature | vibration | current
  deriving DecidableEq, Repr

def CalibratedSensor.text : CalibratedSensor → String
  | temperature => "temperature"
  | vibration => "vibration"
  | current => "current"

/-- A `dict[str, float]`. -/
structure Coefficients where
  entries : List (String × FloatNumber ℚ)
  distinct : (entries.map Prod.fst).Nodup
  deriving DecidableEq

namespace Coefficients

/-- `{"scale": 1.0, "offset": 0.0}`. -/
def identity : Coefficients where
  entries := [("scale", .finite 1), ("offset", .finite 0)]
  distinct := by decide

/-- `0.1` as a binary64. -/
def minimumScale : ℚ := 3602879701896397 / 36028797018963968

/-- `coefficients_are_bounded` with the bounds on the number of entries. -/
def isValid (coefficients : Coefficients) : Bool :=
  1 ≤ coefficients.entries.length && coefficients.entries.length ≤ 8 &&
    coefficients.entries.all fun (name, value) =>
      (name = "scale" && value.atLeast minimumScale && value.atMost 10) ||
        (name = "offset" && value.atLeast (-100) && value.atMost 100)

end Coefficients

structure CalibrationCreate where
  sensor : CalibratedSensor
  newCoefficients : Coefficients
  reason : String
  deriving DecidableEq

def CalibrationCreate.isValid (request : CalibrationCreate) : Bool :=
  4 ≤ request.reason.length && request.reason.length ≤ 240 && request.newCoefficients.isValid

inductive MaintenanceStatus where
  | scheduled | completed | deferred
  deriving DecidableEq, Repr

def MaintenanceStatus.text : MaintenanceStatus → String
  | scheduled => "scheduled"
  | completed => "completed"
  | deferred => "deferred"

def notesFit (notes : String) : Bool := 3 ≤ notes.length && notes.length ≤ 4000

structure MaintenanceCreate where
  status : MaintenanceStatus
  notes : String
  performedAt : DateTime
  nextDueAt : Option DateTime
  deriving DecidableEq

/-- The field bounds, then `due_date_is_after_work`, whose `TypeError` nobody catches. -/
def MaintenanceCreate.check (request : MaintenanceCreate) : Option RouteError :=
  if !notesFit request.notes then some .invalid
  else
    match request.nextDueAt.map fun due => due.le? request.performedAt with
    | none => none
    | some none => some .serverError
    | some (some true) => some .invalid
    | some (some false) => none

/-- `nextDueAt` is `none` where the field is not set. -/
structure MaintenanceUpdate where
  status : Option MaintenanceStatus
  notes : Option String
  nextDueAt : Option (Option DateTime)
  deriving DecidableEq

def MaintenanceUpdate.isValid (request : MaintenanceUpdate) : Bool := request.notes.all notesFit

/-! ### Tables -/

structure Calibration where
  deviceId : String
  sensor : CalibratedSensor
  previousCoefficients : Coefficients
  newCoefficients : Coefficients
  reason : String
  operator : String
  performedAt : Int
  deriving DecidableEq

structure MaintenanceRecord where
  deviceId : String
  status : MaintenanceStatus
  notes : String
  performedAt : Int
  nextDueAt : Option Int
  createdBy : String
  updatedAt : Int
  deriving DecidableEq

/-- The rows of a table stand with their keys, in the order of the commits; users and thresholds stand
under theirs. -/
structure OperatorTables where
  accounts : String → Option Account
  named : ∀ username account, accounts username = some account → account.username = username
  devices : String → Option Device
  thresholds : String → Option ThresholdConfig
  keyed : ∀ deviceId config, thresholds deviceId = some config → config.deviceId = deviceId
  alarms : List Alarm
  calibrations : List (Nat × Calibration)
  maintenance : List (Nat × MaintenanceRecord)
  audit : List RouteAuditEvent

/-- A row that a unit of work adds, or one that it changes: its key, what was loaded and what is held. -/
inductive OperatorWrite where
  | newCalibration (row : Calibration)
  | newMaintenance (row : MaintenanceRecord)
  | maintenance (recordId : Nat) (loaded held : MaintenanceRecord)
  | newThresholds (config : ThresholdConfig)
  | thresholds (loaded held : ThresholdConfig)
  | alarm (alarmId : Nat) (loaded held : Alarm)

/-- The row after the write of a session, which sends the columns that differ from what it loaded. -/
def writeMaintenance (loaded held stored : MaintenanceRecord) : MaintenanceRecord :=
  { stored with
    status := if held.status = loaded.status then stored.status else held.status
    notes := if held.notes = loaded.notes then stored.notes else held.notes
    nextDueAt := if held.nextDueAt = loaded.nextDueAt then stored.nextDueAt else held.nextDueAt
    updatedAt := if held.updatedAt = loaded.updatedAt then stored.updatedAt else held.updatedAt }

/-- One column of such a write. -/
def writeColumn {α : Type} [DecidableEq α] (column : ThresholdConfig → α)
    (loaded held stored : ThresholdConfig) : α :=
  if column held = column loaded then column stored else column held

def writeThresholds (loaded held stored : ThresholdConfig) : ThresholdConfig where
  deviceId := stored.deviceId
  temperatureWarningC := writeColumn (·.temperatureWarningC) loaded held stored
  temperatureCriticalC := writeColumn (·.temperatureCriticalC) loaded held stored
  vibrationWarningMps2 := writeColumn (·.vibrationWarningMps2) loaded held stored
  vibrationCriticalMps2 := writeColumn (·.vibrationCriticalMps2) loaded held stored
  currentWarningA := writeColumn (·.currentWarningA) loaded held stored
  currentCriticalA := writeColumn (·.currentCriticalA) loaded held stored
  hysteresisPercent := writeColumn (·.hysteresisPercent) loaded held stored
  updatedBy := writeColumn (·.updatedBy) loaded held stored

def writeAcknowledgement (loaded held stored : Alarm) : Alarm :=
  { stored with
    acknowledgedAt :=
      if held.acknowledgedAt = loaded.acknowledgedAt then stored.acknowledgedAt
      else held.acknowledgedAt
    acknowledgedBy :=
      if held.acknowledgedBy = loaded.acknowledgedBy then stored.acknowledgedBy
      else held.acknowledgedBy }

theorem keyed_update {thresholds : String → Option ThresholdConfig}
    (hkeyed : ∀ deviceId config, thresholds deviceId = some config → config.deviceId = deviceId)
    {deviceId : String} {row : Option ThresholdConfig}
    (hrow : ∀ config ∈ row, config.deviceId = deviceId) (other : String) (config : ThresholdConfig)
    (hconfig : Function.update thresholds deviceId row other = some config) :
    config.deviceId = other := by
  by_cases hother : other = deviceId
  · subst hother
    rw [Function.update_self] at hconfig
    exact hrow config hconfig
  · rw [Function.update_of_ne hother] at hconfig
    exact hkeyed other config hconfig

theorem keyed_writeThresholds {stored : Option ThresholdConfig} {deviceId : String}
    (hstored : ∀ config, stored = some config → config.deviceId = deviceId)
    (loaded held : ThresholdConfig) :
    ∀ config ∈ stored.map (writeThresholds loaded held), config.deviceId = deviceId := by
  intro config hconfig
  obtain ⟨before, hbefore, rfl⟩ := Option.map_eq_some_iff.mp hconfig
  exact hstored before hbefore

namespace OperatorTables

variable (tables : OperatorTables)

/-- `get_current_user` asks for an active user. -/
def activeUser (username : String) : Option Account := (tables.accounts username).filter (·.active)

def calibrationsOf (deviceId : String) (sensor : CalibratedSensor) : List (Nat × Calibration) :=
  tables.calibrations.filter fun entry => entry.2.deviceId = deviceId && entry.2.sensor = sensor

/-- `ORDER BY performed_at DESC LIMIT 1`: any of the rows where several are the latest. -/
def IsLatest (deviceId : String) (sensor : CalibratedSensor) : Option Calibration → Prop
  | none => tables.calibrationsOf deviceId sensor = []
  | some row => row ∈ (tables.calibrationsOf deviceId sensor).map (·.2) ∧
      ∀ other ∈ tables.calibrationsOf deviceId sensor, other.2.performedAt ≤ row.performedAt

def getMaintenance (recordId : Nat) : Option MaintenanceRecord :=
  (tables.maintenance.find? (·.1 = recordId)).map (·.2)

/-- Whether the database takes a write under this key: a new row's is free, and a changed row is there. -/
def Takes (key : Nat) : OperatorWrite → Prop
  | .newCalibration _ => ∀ entry ∈ tables.calibrations, entry.1 ≠ key
  | .newMaintenance _ => ∀ entry ∈ tables.maintenance, entry.1 ≠ key
  | .maintenance recordId _ _ => key = recordId ∧ (tables.getMaintenance recordId).isSome
  | .newThresholds config => tables.thresholds config.deviceId = none
  | .thresholds loaded _ => (tables.thresholds loaded.deviceId).isSome
  | .alarm alarmId _ _ => key = alarmId ∧ alarmId < tables.alarms.length

def write (key : Nat) : OperatorWrite → OperatorTables
  | .newCalibration row => { tables with calibrations := tables.calibrations ++ [(key, row)] }
  | .newMaintenance row => { tables with maintenance := tables.maintenance ++ [(key, row)] }
  | .maintenance recordId loaded held =>
      { tables with
        maintenance := tables.maintenance.map fun entry =>
          if entry.1 = recordId then (entry.1, writeMaintenance loaded held entry.2) else entry }
  | .newThresholds config =>
      { tables with
        thresholds := Function.update tables.thresholds config.deviceId (some config)
        keyed := keyed_update tables.keyed fun _ hsame => Option.some.inj hsame ▸ rfl }
  | .thresholds loaded held =>
      { tables with
        thresholds := Function.update tables.thresholds loaded.deviceId
          ((tables.thresholds loaded.deviceId).map (writeThresholds loaded held))
        keyed := keyed_update tables.keyed (keyed_writeThresholds (tables.keyed _) loaded held) }
  | .alarm alarmId loaded held =>
      { tables with alarms := tables.alarms.modify alarmId (writeAcknowledgement loaded held) }

def record (event : Option RouteAuditEvent) : OperatorTables :=
  { tables with audit := tables.audit ++ event.toList }

end OperatorTables

/-! ### Statements -/

/-- `event` is the audit event of the unit of work, given the key of its row. -/
inductive OperatorOp where
  | utcNow
  | findUser (username : String)
  | getDevice (id : String)
  | latestCalibration (deviceId : String) (sensor : CalibratedSensor)
  | getMaintenance (recordId : Nat)
  | getThresholds (deviceId : String)
  | getAlarm (alarmId : Nat)
  | commit (write : OperatorWrite) (event : Option (Nat → RouteAuditEvent))
  | outside

/-- A flush and commit answers the key of its row, or `none` where it raised. -/
abbrev OperatorOp.Answer : OperatorOp → Type
  | utcNow => Int
  | findUser _ => Option Account
  | getDevice _ => Option Device
  | latestCalibration _ _ => Option Calibration
  | getMaintenance _ => Option MaintenanceRecord
  | getThresholds _ => Option ThresholdConfig
  | getAlarm _ => Option Alarm
  | commit _ _ => Option Nat
  | outside => Unit

/-- The actions of the events that the routes below write. -/
def operatorActions : List String :=
  ["calibration_created", "maintenance_created", "maintenance_updated", "thresholds_updated",
    "alarm_acknowledged"]

/-- What the ingestor, the workers and the command routes leave of an alarm. -/
structure SameAcknowledgement (alarm alarm' : Alarm) : Prop where
  deviceId : alarm'.deviceId = alarm.deviceId
  code : alarm'.code = alarm.code
  acknowledgedAt : alarm'.acknowledgedAt = alarm.acknowledgedAt
  acknowledgedBy : alarm'.acknowledgedBy = alarm.acknowledgedBy

/-- A commit of another process: the ingestor, a worker, a command or the seed. Devices, users and alarms
are never deleted. -/
structure OutsideChange (before after : OperatorTables) : Prop where
  accounts : ∀ username account, before.accounts username = some account →
    after.accounts username = some account
  devices : ∀ id, (before.devices id).isSome → (after.devices id).isSome
  thresholds : ∀ deviceId, after.thresholds deviceId = before.thresholds deviceId ∨
    before.thresholds deviceId = none ∧
      after.thresholds deviceId = some (ThresholdConfig.default deviceId)
  alarms : ∀ (key : Nat) (alarm : Alarm), before.alarms[key]? = some alarm →
    ∃ alarm', after.alarms[key]? = some alarm' ∧ SameAcknowledgement alarm alarm'
  opened : ∀ (key : Nat) (alarm : Alarm), before.alarms[key]? = none →
    after.alarms[key]? = some alarm → alarm.acknowledgedAt = none ∧ alarm.acknowledgedBy = none
  calibrations : after.calibrations = before.calibrations
  maintenance : after.maintenance = before.maintenance
  audit : ∃ events, after.audit = before.audit ++ events ∧
    ∀ event ∈ events, event.action ∉ operatorActions

/-- What a statement may answer and leave. -/
def operatorAnswers : (op : OperatorOp) → OperatorTables → op.Answer → OperatorTables → Prop
  | .utcNow, tables, _, after => after = tables
  | .findUser username, tables, answer, after => answer = tables.activeUser username ∧ after = tables
  | .getDevice id, tables, answer, after => answer = tables.devices id ∧ after = tables
  | .latestCalibration deviceId sensor, tables, answer, after =>
      tables.IsLatest deviceId sensor answer ∧ after = tables
  | .getMaintenance recordId, tables, answer, after =>
      answer = tables.getMaintenance recordId ∧ after = tables
  | .getThresholds deviceId, tables, answer, after =>
      answer = tables.thresholds deviceId ∧ after = tables
  | .getAlarm alarmId, tables, answer, after => answer = tables.alarms[alarmId]? ∧ after = tables
  | .commit _ _, tables, none, after => after = tables
  | .commit write event, tables, some key, after =>
      tables.Takes key write ∧ after = (tables.write key write).record (event.map fun made => made key)
  | .outside, tables, _, after => OutsideChange tables after

/-! ### Routes -/

structure CalibrationView where
  id : Nat
  row : Calibration
  deriving DecidableEq

/-- A row as the session holds it, which keeps the `datetime` values of a request. -/
structure MaintenanceView where
  id : Nat
  deviceId : String
  status : MaintenanceStatus
  notes : String
  performedAt : DateTime
  nextDueAt : Option DateTime
  createdBy : String
  updatedAt : Int
  deriving DecidableEq

inductive OperatorView where
  | calibration (view : CalibrationView)
  | maintenance (view : MaintenanceView)
  | thresholds (config : ThresholdConfig)
  | alarm (alarmId : Nat) (alarm : Alarm)
  | nothing

abbrev OperatorReply : Type := Except RouteError OperatorView

abbrev Route : Type := Program OperatorOp OperatorOp.Answer OperatorReply

namespace Route

def fail (error : RouteError) : Route := .done (.error error)

def answer (view : OperatorView) : Route := .done (.ok view)

/-- `get_current_user`. -/
def withUser (decode : JwtDecode) (token : String) (route : Account → Route) : Route :=
  .call .utcNow fun now =>
    match decodeAccessToken decode now token with
    | .error error => fail error
    | .ok username =>
        .call (.findUser username) fun found =>
          match found with
          | none => fail (.unauthorized "User is inactive")
          | some user => route user

def withAdmin (user : Account) (route : Route) : Route :=
  if user.role ≠ "admin" then fail (.forbidden "Admin role required") else route

/-- `db.get(Device, device_id)`. -/
def withDevice (deviceId : String) (route : Route) : Route :=
  .call (.getDevice deviceId) fun found =>
    match found with
    | none => fail (.notFound "Device not found")
    | some _ => route

/-- A flush and commit, with what the route returns for the key of the row. -/
def commit (write : OperatorWrite) (event : Option (Nat → RouteAuditEvent))
    (view : Nat → OperatorReply) : Route :=
  .call (.commit write event) fun key =>
    match key with
    | none => fail .serverError
    | some key => .done (view key)

end Route

/-- The audit event of a new calibration. -/
def calibrationCreated (row : Calibration) (key : Nat) : RouteAuditEvent where
  actor := row.operator
  action := "calibration_created"
  targetType := "calibration"
  targetId := toString key
  details := .object
    [(codes "device_id", .string (codes row.deviceId)),
      (codes "sensor", .string (codes row.sensor.text))]

def createCalibration (deviceId : String) (request : CalibrationCreate) (user : Account) : Route :=
  Route.withAdmin user <| Route.withDevice deviceId <|
    .call (.latestCalibration deviceId request.sensor) fun latest =>
      .call .utcNow fun performedAt =>
        let row : Calibration := {
          deviceId := deviceId
          sensor := request.sensor
          previousCoefficients := latest.elim Coefficients.identity (·.newCoefficients)
          newCoefficients := request.newCoefficients
          reason := request.reason
          operator := user.username
          performedAt := performedAt }
        Route.commit (.newCalibration row) (some (calibrationCreated row))
          fun key => .ok (.calibration ⟨key, row⟩)

/-- The audit event of a new maintenance record. -/
def maintenanceCreated (row : MaintenanceRecord) (key : Nat) : RouteAuditEvent where
  actor := row.createdBy
  action := "maintenance_created"
  targetType := "maintenance"
  targetId := toString key
  details := .object
    [(codes "device_id", .string (codes row.deviceId)),
      (codes "status", .string (codes row.status.text))]

def createMaintenance (zone : Int → Int) (deviceId : String) (request : MaintenanceCreate)
    (user : Account) : Route :=
  Route.withDevice deviceId <|
    .call .utcNow fun updatedAt =>
      let row : MaintenanceRecord := {
        deviceId := deviceId
        status := request.status
        notes := request.notes
        performedAt := request.performedAt.instantIn zone
        nextDueAt := request.nextDueAt.map (DateTime.instantIn zone)
        createdBy := user.username
        updatedAt := updatedAt }
      Route.commit (.newMaintenance row) (some (maintenanceCreated row)) fun key =>
        .ok (.maintenance {
          id := key
          deviceId := deviceId
          status := request.status
          notes := request.notes
          performedAt := request.performedAt
          nextDueAt := request.nextDueAt
          createdBy := user.username
          updatedAt := updatedAt })

/-- The audit event of a changed maintenance record. -/
def maintenanceUpdated (row : MaintenanceRecord) (recordId : Nat) (user : Account) : RouteAuditEvent where
  actor := user.username
  action := "maintenance_updated"
  targetType := "maintenance"
  targetId := toString recordId
  details := .object [(codes "device_id", .string (codes row.deviceId))]

/-- `next_due_at` of the held row, which is as loaded where the field is not set. -/
def MaintenanceUpdate.due (request : MaintenanceUpdate) (row : MaintenanceRecord) : Option DateTime :=
  request.nextDueAt.getD (row.nextDueAt.map DateTime.aware)

/-- The comparison with `performed_at`, which was loaded and has an offset. -/
def MaintenanceUpdate.refusal (request : MaintenanceUpdate) (row : MaintenanceRecord) :
    Option RouteError :=
  match (request.due row).map fun due => due.le? (.aware row.performedAt) with
  | none => none
  | some none => some .serverError
  | some (some true) => some (.unprocessable "next_due_at must be after performed_at")
  | some (some false) => none

def updateMaintenance (zone : Int → Int) (recordId : Nat) (request : MaintenanceUpdate)
    (user : Account) : Route :=
  .call (.getMaintenance recordId) fun found =>
    match found with
    | none => Route.fail (.notFound "Maintenance record not found")
    | some loaded =>
        match request.refusal loaded with
        | some error => Route.fail error
        | none =>
            .call .utcNow fun updatedAt =>
              let held : MaintenanceRecord := {
                loaded with
                status := request.status.getD loaded.status
                notes := request.notes.getD loaded.notes
                nextDueAt := (request.due loaded).map (DateTime.instantIn zone)
                updatedAt := updatedAt }
              Route.commit (.maintenance recordId loaded held)
                (some fun _ => maintenanceUpdated loaded recordId user) fun _ =>
                .ok (.maintenance {
                  id := recordId
                  deviceId := held.deviceId
                  status := held.status
                  notes := held.notes
                  performedAt := .aware held.performedAt
                  nextDueAt := request.due loaded
                  createdBy := held.createdBy
                  updatedAt := updatedAt })

/-- `ThresholdConfigView` validates what it shows as a request is validated. -/
def ThresholdConfig.shown (config : ThresholdConfig) : OperatorReply :=
  if ({
      temperatureWarningC := .finite config.temperatureWarningC
      temperatureCriticalC := .finite config.temperatureCriticalC
      vibrationWarningMps2 := .finite config.vibrationWarningMps2
      vibrationCriticalMps2 := .finite config.vibrationCriticalMps2
      currentWarningA := .finite config.currentWarningA
      currentCriticalA := .finite config.currentCriticalA
      hysteresisPercent := .finite config.hysteresisPercent } : ThresholdConfigUpdate).isValid then
    .ok (.thresholds config)
  else .error .serverError

/-- The default row is stored at the first request. -/
def getThresholds (deviceId : String) : Route :=
  Route.withDevice deviceId <|
    .call (.getThresholds deviceId) fun found =>
      match found with
      | none =>
          Route.commit (.newThresholds (ThresholdConfig.default deviceId)) none
            fun _ => (ThresholdConfig.default deviceId).shown
      | some config => .done config.shown

def thresholdsUpdated (format : FloatFormat) (deviceId : String) (request : ThresholdConfigUpdate)
    (user : Account) : RouteAuditEvent where
  actor := user.username
  action := "thresholds_updated"
  targetType := "device"
  targetId := deviceId
  details := request.dump format

/-- The body has been validated, so that its values are numbers. -/
def changeThresholds (format : FloatFormat) (deviceId : String) (request : ThresholdConfigUpdate)
    (user : Account) : Route :=
  Route.withAdmin user <| Route.withDevice deviceId <|
    .call (.getThresholds deviceId) fun found =>
      match request.columns deviceId user.toUser with
      | none => Route.fail .serverError
      | some held =>
          Route.commit (found.elim (.newThresholds held) fun loaded => .thresholds loaded held)
            (some fun _ => thresholdsUpdated format deviceId request user) fun _ => held.shown

def alarmAcknowledged (alarm : Alarm) (alarmId : Nat) (user : Account) : RouteAuditEvent where
  actor := user.username
  action := "alarm_acknowledged"
  targetType := "alarm"
  targetId := toString alarmId
  details := .object
    [(codes "device_id", .string (codes alarm.deviceId)),
      (codes "code", .string (codes alarm.code.text))]

/-- `acknowledge_alarm`, which answers an alarm acknowledged before as it is. -/
def acknowledge (alarmId : Nat) (user : Account) : Route :=
  .call (.getAlarm alarmId) fun found =>
    match found with
    | none => Route.fail (.notFound "Alarm not found")
    | some loaded =>
        if loaded.acknowledgedAt.isSome then Route.answer (.alarm alarmId loaded)
        else
          .call .utcNow fun now =>
            if !fitsNotification (acknowledgedEvent loaded alarmId user.toUser) then
              Route.fail .serverError
            else
              Route.commit (.alarm alarmId loaded (loaded.acknowledge user.toUser now))
                (some fun _ => alarmAcknowledged loaded alarmId user)
                fun _ => .ok (.alarm alarmId (loaded.acknowledge user.toUser now))

/-! ### Requests -/

inductive OperatorRequest where
  | createCalibration (deviceId : String) (request : CalibrationCreate)
  | createMaintenance (deviceId : String) (request : MaintenanceCreate)
  | updateMaintenance (recordId : Nat) (request : MaintenanceUpdate)
  | getThresholds (deviceId : String)
  | updateThresholds (deviceId : String) (request : ThresholdConfigUpdate)
  | acknowledgeAlarm (alarmId : Nat)

/-- How the body of a request is refused. -/
def OperatorRequest.bodyError : OperatorRequest → Option RouteError
  | createCalibration _ request => if request.isValid then none else some .invalid
  | createMaintenance _ request => request.check
  | updateMaintenance _ request => if request.isValid then none else some .invalid
  | updateThresholds _ request => if request.isValid then none else some .invalid
  | getThresholds _ | acknowledgeAlarm _ => none

section Requests

variable (format : FloatFormat) (zone : Int → Int)

def OperatorRequest.route (user : Account) : OperatorRequest → Route
  | createCalibration deviceId request => IiotMonitoring.createCalibration deviceId request user
  | createMaintenance deviceId request => IiotMonitoring.createMaintenance zone deviceId request user
  | updateMaintenance recordId request => IiotMonitoring.updateMaintenance zone recordId request user
  | getThresholds deviceId => IiotMonitoring.getThresholds deviceId
  | updateThresholds deviceId request => changeThresholds format deviceId request user
  | acknowledgeAlarm alarmId => acknowledge alarmId user

/-- What a session of the server's processes is: a request with its token, or a commit of another
process. -/
inductive OperatorCall where
  | request (token : String) (body : OperatorRequest)
  | outside

/-- The user is found before the body is validated, and both before the route runs. -/
def OperatorCall.program (decode : JwtDecode) : OperatorCall → Route
  | request token body =>
      Route.withUser decode token fun user =>
        match body.bodyError with
        | some error => Route.fail error
        | none => body.route format zone user
  | outside => .call .outside fun _ => Route.answer .nothing

/-- The sessions before any statement. -/
def operatorSessions (decode : JwtDecode) (calls : Nat → OperatorCall) (tables : OperatorTables) :
    Sessions Nat OperatorTables OperatorOp OperatorReply OperatorOp.Answer where
  programs call := (calls call).program format zone decode
  store := tables

/-- A run of the sessions side by side, with its statements in order. -/
def OperatorRun (decode : JwtDecode) (calls : Nat → OperatorCall) (tables : OperatorTables)
    (labels : List (Nat × Program.Answered OperatorOp.Answer))
    (state : Sessions Nat OperatorTables OperatorOp OperatorReply OperatorOp.Answer) : Prop :=
  Trail (SessionStep operatorAnswers) (operatorSessions format zone decode calls tables) labels state

end Requests

end IiotMonitoring
