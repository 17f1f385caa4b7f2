import IiotMonitoring.Server.Contract
import IiotMonitoring.Server.IngestRace

/-!
# The MQTT ingestor

`handle_message`, `persist_health` and `record_error`, one message with no other session in between. A
row with a value that its column does not hold raises `DataError` when it is written, at a flush or a
commit, and the transaction is rolled back. What text a column holds is a parameter; `JSON` columns
hold every text.
-/

namespace IiotMonitoring

/-! ### Tables -/

structure HealthSnapshot where
  messageId : String
  deviceId : String
  payload : HealthEnvelope
  deriving DecidableEq

structure ErrorLog where
  component : String
  errorCode : String
  severity : String
  deviceId : Option String
  detail : String
  deriving DecidableEq

/-- The telemetry, health, device, command and alarm tables. -/
structure DataTables where
  db : Database
  health : List HealthSnapshot
  commands : CommandTables

structure ServerTables extends DataTables where
  errors : List ErrorLog

/-! ### Columns -/

/-- `BigInteger` holds signed 64-bit integers. -/
def fitsBigInteger (value : Nat) : Bool := value < 2 ^ 63

/-- `Integer` holds signed 32-bit integers. -/
def fitsInteger (value : Nat) : Bool := value < 2 ^ 31

section Columns

variable (storesText : String → Bool)

def Telemetry.fits (row : Telemetry) : Bool :=
  fitsBigInteger row.sequence && fitsBigInteger row.uptimeMs && storesText row.firmwareVersion

/-- The columns of a device row that messages set. -/
def Device.fits (device : Device) : Bool :=
  device.firmwareVersion.all storesText && device.resetReason.all storesText &&
    fitsInteger device.resetCount && fitsInteger device.queueDepth &&
    fitsInteger device.queueCapacity && fitsInteger device.droppedMessageCount

def DeviceCommand.fits (command : DeviceCommand) : Bool := command.detail.all storesText

/-- A flush or a commit that raises `DataError`. `persist_telemetry` writes a device's firmware version
and none of its other bounded columns. -/
def SessionOp.raises : SessionOp → Bool
  | .flush rows => !rows.telemetry.fits storesText
  | .commit (some rows) _ => !rows.telemetry.fits storesText
  | _ => false

end Columns

/-! ### `persist_telemetry` -/

/-- How persisting ends with an exception: a `ValueError` with its text, or one that is none. -/
inductive PersistError where
  | sequenceCollision (sequence : Nat)
  | value (message : String)
  | dataError
  | integrityError
  deriving DecidableEq, Repr

def IngestError.raised : IngestError → PersistError
  | sequenceCollision sequence => .sequenceCollision sequence
  | siteMismatch => .value "topic site does not match registered device site"
  | eventTooLarge => .value "live event exceeds bounded PostgreSQL notification size"
  | integrityError => .integrityError

def IngestStatus.persisted : IngestStatus → PersistStatus
  | inserted => .inserted
  | duplicate => .duplicate

/-- The readings of `utc_now` that a message takes. -/
structure MessageClock where
  now : Int
  temperatureNow : Int
  vibrationNow : Int
  currentNow : Int

def MessageClock.ingest (clock : MessageClock) (envelope : TelemetryEnvelope) : Ingest where
  envelope := envelope
  now := clock.now
  temperatureNow := clock.temperatureNow
  vibrationNow := clock.vibrationNow
  currentNow := clock.currentNow

section Persist

variable (format : FloatFormat) (storesText : String → Bool)

/-- Some statement of the call raises `DataError`. -/
def Ingest.hitsColumn (db : Database) (ingest : Ingest) : Bool :=
  ((ingest.persistTelemetry format).trace sessionDevice (db, none)).any fun answered =>
    answered.1.raises storesText

def persistTelemetry (db : Database) (ingest : Ingest) : Except PersistError PersistResult × Database :=
  if ingest.hitsColumn format storesText db then (.error .dataError, db)
  else
    match runAlone format db ingest with
    | (.ok (status, messageId), after) => (.ok ⟨status.persisted, messageId⟩, after)
    | (.error error, after) => (.error error.raised, after)

/-! ### `persist_health` -/

/-- A new device row, with the defaults of its columns. -/
def Device.new (id siteId : String) : Device where
  id := id
  siteId := siteId
  displayName := id
  assetClass := "dc-motor"
  simulated := true
  firmwareVersion := none
  reportedStatus := .offline
  lastSeenAt := none
  rssiDbm := none
  resetReason := none
  resetCount := 0
  queueDepth := 0
  queueCapacity := 512
  droppedMessageCount := 0
  modbusStatus := "disabled"
  activeFaults := []

namespace HealthEnvelope

variable (envelope : HealthEnvelope)

/-- The device row to change, unless it is registered at another site. -/
def device (stored : Option Device) : Option Device :=
  match stored with
  | none => some (Device.new envelope.deviceId envelope.siteId)
  | some device => if device.siteId = envelope.siteId then some device else none

def touch (now : Int) (device : Device) : Device :=
  { device with
    firmwareVersion := some envelope.firmwareVersion
    reportedStatus := envelope.status
    lastSeenAt := some now
    rssiDbm := envelope.rssiDbm
    resetReason := some envelope.resetReason
    resetCount := envelope.resetCount
    queueDepth := envelope.queueDepth
    queueCapacity := envelope.queueCapacity
    droppedMessageCount := envelope.droppedMessageCount
    modbusStatus := envelope.modbusStatus
    activeFaults := envelope.activeFaults }

def liveEvent : Json :=
  .object
    [(codes "type", .string (codes "health")),
      (codes "device_id", .string (codes envelope.deviceId)),
      (codes "status", .string (codes envelope.status.text)),
      (codes "queue_depth", .number (.ofNat envelope.queueDepth)),
      (codes "modbus_status", .string (codes envelope.modbusStatus)),
      (codes "active_faults", .array (envelope.activeFaults.map fun fault => .string (codes fault)))]

def snapshot : HealthSnapshot where
  messageId := envelope.messageId
  deviceId := envelope.deviceId
  payload := envelope

end HealthEnvelope

def DataTables.findHealth (tables : DataTables) (messageId : String) : Option HealthSnapshot :=
  tables.health.find? (·.messageId = messageId)

def DataTables.writeHealth (tables : DataTables) (envelope : HealthEnvelope) (device : Device) :
    DataTables :=
  { tables with
    db := { tables.db with
      devices := Function.update tables.db.devices envelope.deviceId (some device) }
    health := tables.health ++ [envelope.snapshot] }

def persistHealth (tables : DataTables) (envelope : HealthEnvelope) (now : Int) :
    Except PersistError PersistResult × DataTables :=
  if (tables.findHealth envelope.messageId).isSome then
    (.ok ⟨.duplicate, envelope.messageId⟩, tables)
  else
    match envelope.device (tables.db.devices envelope.deviceId) with
    | none => (.error (.value "topic site does not match registered device site"), tables)
    | some device =>
        let held := envelope.touch now device
        if 7000 < envelope.liveEvent.print.length then
          (.error (.value "live event exceeds bounded PostgreSQL notification size"), tables)
        else if held.fits storesText then
          (.ok ⟨.inserted, envelope.messageId⟩, tables.writeHealth envelope held)
        else
          (.error .dataError, tables)

/-! ### `persist_command_ack` -/

/-- The commit raises `DataError`. -/
def AckRead.hitsColumn : AckRead → Bool
  | update _ held => !held.fits storesText
  | _ => false

def persistAck (tables : CommandTables) (envelope : CommandAckEnvelope) (now : Int) :
    Except PersistError PersistResult × CommandTables :=
  if (readCommandAck tables envelope now).hitsColumn storesText then (.error .dataError, tables)
  else
    match persistCommandAck tables envelope now with
    | (.ok result, after) => (.ok result, after)
    | (.error error, after) => (.error (.value error.message), after)

end Persist

/-! ### `handle_message` -/

inductive HandledStatus where
  | inserted | duplicate | rejected
  deriving DecidableEq, Repr

def PersistStatus.handled : PersistStatus → HandledStatus
  | inserted => .inserted
  | duplicate => .duplicate

/-- The exceptions that `handle_message` does not catch. -/
inductive Escaped where
  | recursionError | dataError | integrityError
  deriving DecidableEq, Repr

/-- `record_error`. -/
def ServerTables.recordError (tables : ServerTables) (code detail : String) : ServerTables :=
  { tables with
    errors := tables.errors ++ [{
      component := "mqtt-ingestor"
      errorCode := code
      severity := "warning"
      deviceId := none
      detail := String.ofList (detail.toList.take 300) }] }

abbrev Handled : Type := Except Escaped HandledStatus × ServerTables

/-- The handlers of an exception of a decoder. -/
def ServerTables.refuse (tables : ServerTables) (errorCount : Nat) : MessageError → Handled
  | .validation =>
      (.ok .rejected, tables.recordError "CONTRACT_VALIDATION"
        s!"validation failed with {errorCount} errors")
  | .value message => (.ok .rejected, tables.recordError "INVALID_MESSAGE" message)
  | .recursion => (.error .recursionError, tables)

/-- The handlers of an exception of persisting. -/
def ServerTables.fail (tables : ServerTables) : PersistError → Handled
  | .sequenceCollision sequence =>
      (.ok .rejected, tables.recordError "SEQUENCE_COLLISION"
        s!"sequence {sequence} already belongs to another message")
  | .value message => (.ok .rejected, tables.recordError "INVALID_MESSAGE" message)
  | .dataError => (.error .dataError, tables)
  | .integrityError => (.error .integrityError, tables)

/-- The end of a message that was persisted, or was not. -/
def ServerTables.finish (tables : ServerTables) :
    Except PersistError PersistResult × DataTables → Handled
  | (.ok result, data) => (.ok result.status.handled, { tables with toDataTables := data })
  | (.error error, data) => { tables with toDataTables := data }.fail error

section Handle

variable (limits : JsonLimits) (pydantic : Pydantic) (format : FloatFormat) (storesText : String → Bool)

def handleMessage (clock : MessageClock) (tables : ServerTables) (topic : Text) (payload : List UInt8) :
    Handled :=
  let refuse := tables.refuse (pydantic.errorCount payload)
  match parseTopic topic with
  | .error error => refuse error
  | .ok parsed =>
      match parsed.kind with
      | .telemetry =>
          match decodePayload limits pydantic topic payload with
          | .error error => refuse error
          | .ok envelope =>
              let (result, db) := persistTelemetry format storesText tables.db (clock.ingest envelope)
              tables.finish (result, { tables.toDataTables with db := db })
      | .health =>
          match decodeHealth pydantic topic payload with
          | .error error => refuse error
          | .ok envelope => tables.finish (persistHealth storesText tables.toDataTables envelope clock.now)
      | .commandAcks =>
          match decodeCommandAck pydantic topic payload with
          | .error error => refuse error
          | .ok envelope =>
              let (result, commands) := persistAck storesText tables.commands envelope clock.now
              tables.finish (result, { tables.toDataTables with commands := commands })
      | _ => refuse (.value "worker does not consume this topic kind")

end Handle

end IiotMonitoring
