import IiotMonitoring.Lib.Run
import Mathlib.Logic.Function.Basic

/-!
# Relay commands on the server

`issue_relay_command` of `command_service.py` and `persist_command_ack` of `ingestion.py`, on the rows
of `device_commands` and `audit_events`. Sessions keep what they loaded over a commit
(`expire_on_commit=False`) and write only the columns that differ from it. Times are in microseconds.
-/

namespace IiotMonitoring

/-! ### Rows and messages -/

/-- The values of `DeviceCommand.status`. -/
inductive CommandStatus where
  | queued | published | accepted | completed | rejected | expired | failed
  deriving DecidableEq, Repr

/-- The values of `CommandAckEnvelope.status`. -/
inductive AckStatus where
  | accepted | completed | rejected | expired | failed
  deriving DecidableEq, Repr

def AckStatus.toCommandStatus : AckStatus → CommandStatus
  | accepted => .accepted
  | completed => .completed
  | rejected => .rejected
  | expired => .expired
  | failed => .failed

def AckStatus.Terminal (status : AckStatus) : Prop := status ≠ .accepted

instance : DecidablePred AckStatus.Terminal := fun status => inferInstanceAs (Decidable (status ≠ _))

structure RelayCommandCreate where
  relayOn : Bool
  timeoutS : Nat
  deriving DecidableEq, Repr

structure DeviceCommand where
  commandId : String
  deviceId : String
  kind : String
  parameters : RelayCommandCreate
  status : CommandStatus
  resultCode : Option String
  detail : Option String
  issuedBy : String
  issuedAt : Int
  expiresAt : Int
  acknowledgedAt : Option Int
  deriving DecidableEq, Repr

/-- `details` of an audit event. -/
inductive AuditDetails where
  | issued (deviceId : String) (parameters : RelayCommandCreate)
  | acknowledged (status : AckStatus) (resultCode : String) (relayOn : Bool)
  deriving DecidableEq, Repr

structure AuditEvent where
  actor : String
  action : String
  targetType : String
  targetId : String
  details : AuditDetails
  deriving DecidableEq, Repr

structure CommandAckEnvelope where
  messageId : String
  commandId : String
  siteId : String
  deviceId : String
  deviceTime : Option Int
  status : AckStatus
  resultCode : String
  detail : Option String
  relayOn : Bool
  deriving DecidableEq, Repr

/-- What an acknowledgement sends to the live dashboards. -/
structure CommandAckNotice where
  deviceId : String
  commandId : String
  status : AckStatus
  resultCode : String
  relayOn : Bool
  deriving DecidableEq, Repr

structure CommandTables where
  commands : String → Option DeviceCommand
  audit : List AuditEvent
  notices : List CommandAckNotice

/-- The row after the write of a session that loaded one row and holds another: the columns that
differ are written. -/
def writeChanged (loaded held stored : DeviceCommand) : DeviceCommand :=
  { stored with
    status := if held.status = loaded.status then stored.status else held.status
    resultCode := if held.resultCode = loaded.resultCode then stored.resultCode else held.resultCode
    detail := if held.detail = loaded.detail then stored.detail else held.detail
    acknowledgedAt :=
      if held.acknowledgedAt = loaded.acknowledgedAt then stored.acknowledgedAt
      else held.acknowledgedAt }

def CommandTables.write (tables : CommandTables) (loaded held : DeviceCommand) : CommandTables :=
  { tables with
    commands := Function.update tables.commands loaded.commandId
      ((tables.commands loaded.commandId).map (writeChanged loaded held)) }

/-! ### `persist_command_ack` -/

inductive CommandAckError where
  | unknownCommand
  | deviceMismatch
  deriving DecidableEq, Repr

def CommandAckError.message : CommandAckError → String
  | unknownCommand => "acknowledgement references an unknown command"
  | deviceMismatch => "acknowledgement device does not match command"

inductive PersistStatus where
  | inserted | duplicate
  deriving DecidableEq, Repr

structure PersistResult where
  status : PersistStatus
  messageId : String
  deriving DecidableEq, Repr

/-- How the part of `persist_command_ack` before its commit ends. -/
inductive AckRead where
  | refused (error : CommandAckError)
  | duplicate
  | update (loaded held : DeviceCommand)
  deriving DecidableEq, Repr

/-- The row `persist_command_ack` holds at its commit. -/
def DeviceCommand.acknowledge (command : DeviceCommand) (envelope : CommandAckEnvelope)
    (utcNow : Int) : DeviceCommand :=
  { command with
    status := envelope.status.toCommandStatus
    resultCode := some envelope.resultCode
    detail := envelope.detail
    acknowledgedAt := some utcNow }

def readCommandAck (tables : CommandTables) (envelope : CommandAckEnvelope) (utcNow : Int) : AckRead :=
  match tables.commands envelope.commandId with
  | none => .refused .unknownCommand
  | some command =>
    if command.deviceId ≠ envelope.deviceId then .refused .deviceMismatch
    else if command.acknowledgedAt.isSome ∧ command.status = envelope.status.toCommandStatus then
      .duplicate
    else
      .update command (command.acknowledge envelope utcNow)

def ackAuditEvent (envelope : CommandAckEnvelope) : AuditEvent where
  actor := envelope.deviceId
  action := "command_acknowledged"
  targetType := "device_command"
  targetId := envelope.commandId
  details := .acknowledged envelope.status envelope.resultCode envelope.relayOn

def ackNotice (envelope : CommandAckEnvelope) : CommandAckNotice where
  deviceId := envelope.deviceId
  commandId := envelope.commandId
  status := envelope.status
  resultCode := envelope.resultCode
  relayOn := envelope.relayOn

/-- The commit of `persist_command_ack`. -/
def commitCommandAck (tables : CommandTables) (envelope : CommandAckEnvelope)
    (loaded held : DeviceCommand) : CommandTables :=
  { tables.write loaded held with
    audit := tables.audit ++ [ackAuditEvent envelope]
    notices := tables.notices ++ [ackNotice envelope] }

/-- `persist_command_ack` with no other session in between. -/
def persistCommandAck (tables : CommandTables) (envelope : CommandAckEnvelope) (utcNow : Int) :
    Except CommandAckError PersistResult × CommandTables :=
  match readCommandAck tables envelope utcNow with
  | .refused error => (.error error, tables)
  | .duplicate => (.ok ⟨.duplicate, envelope.messageId⟩, tables)
  | .update loaded held =>
      (.ok ⟨.inserted, envelope.messageId⟩, commitCommandAck tables envelope loaded held)

/-! ### `issue_relay_command` and the acknowledgements of its command -/

/-- What the caller of `issue_relay_command` gives it, and the id it makes. -/
structure CommandIssue where
  commandId : String
  deviceId : String
  actor : String
  request : RelayCommandCreate
  now : Int

/-- The row of the first commit. -/
def CommandIssue.command (issue : CommandIssue) : DeviceCommand where
  commandId := issue.commandId
  deviceId := issue.deviceId
  kind := "set_demo_relay"
  parameters := issue.request
  status := .queued
  resultCode := none
  detail := none
  issuedBy := issue.actor
  issuedAt := issue.now
  expiresAt := issue.now + min issue.request.timeoutS 10 * 1000000
  acknowledgedAt := none

def CommandIssue.auditEvent (issue : CommandIssue) : AuditEvent where
  actor := issue.actor
  action := "relay_command_issued"
  targetType := "device_command"
  targetId := issue.commandId
  details := .issued issue.deviceId issue.request

/-- The row `issue_relay_command` holds after the publish, which may raise an exception. -/
def CommandIssue.outcome (issue : CommandIssue) (raised : Option String) : DeviceCommand :=
  match raised with
  | none => { issue.command with status := .published }
  | some exception =>
      { issue.command with
        status := .failed
        resultCode := some "BROKER_PUBLISH_FAILED"
        detail := some exception }

/-- Where `issue_relay_command` is: before its first commit, at the publish, before its second commit,
or done. -/
inductive IssuePoint where
  | inserting
  | publishing
  | saving (held : DeviceCommand)
  | done

/-- A `persist_command_ack` before its commit. -/
structure AckSession where
  envelope : CommandAckEnvelope
  loaded : DeviceCommand
  held : DeviceCommand

/-- `sessions` are the acknowledgements between read and commit. `acknowledged` records the status
each committed acknowledgement left in the row; nothing reads it. -/
structure CommandRace where
  tables : CommandTables
  issue : CommandIssue
  point : IssuePoint
  sessions : Nat → Option AckSession
  envelopes : List CommandAckEnvelope
  acknowledged : List CommandStatus

inductive CommandRaceEvent where
  | insert
  | publish (raised : Option String)
  | save
  | readAck (session : Nat) (envelope : CommandAckEnvelope) (utcNow : Int)
  | commitAck (session : Nat)

def CommandRace.start (tables : CommandTables) (issue : CommandIssue) : CommandRace where
  tables := tables
  issue := issue
  point := .inserting
  sessions _ := none
  envelopes := []
  acknowledged := []

/-- The stored row of the command. -/
def CommandRace.stored (race : CommandRace) : Option DeviceCommand :=
  race.tables.commands race.issue.commandId

/-- One commit, publish or read. An id that exists already fails the first commit. Acknowledgements of
other commands are none of this race. -/
def commandRaceStep (race : CommandRace) : CommandRaceEvent → CommandRace
  | .insert =>
      match race.point, race.stored with
      | .inserting, some _ => { race with point := .done }
      | .inserting, none =>
          { race with
            point := .publishing
            tables := { race.tables with
              commands := Function.update race.tables.commands race.issue.commandId
                (some race.issue.command)
              audit := race.tables.audit ++ [race.issue.auditEvent] } }
      | _, _ => race
  | .publish raised =>
      match race.point with
      | .publishing => { race with point := .saving (race.issue.outcome raised) }
      | _ => race
  | .save =>
      match race.point with
      | .saving held =>
          { race with
            point := .done
            tables := race.tables.write race.issue.command held }
      | _ => race
  | .readAck session envelope utcNow =>
      if envelope.commandId = race.issue.commandId ∧ (race.sessions session).isNone then
        match readCommandAck race.tables envelope utcNow with
        | .update loaded held =>
            { race with
              sessions := Function.update race.sessions session (some ⟨envelope, loaded, held⟩) }
        | _ => race
      else
        race
  | .commitAck session =>
      match race.sessions session with
      | some ⟨envelope, loaded, held⟩ =>
          let tables := commitCommandAck race.tables envelope loaded held
          { race with
            tables := tables
            sessions := Function.update race.sessions session none
            envelopes := race.envelopes ++ [envelope]
            acknowledged := race.acknowledged ++
              ((tables.commands race.issue.commandId).map (·.status)).toList }
      | none => race

/-! ### Properties -/

/-- The status of an acknowledged command is the one its last committed acknowledgement left, and that
of an acknowledgement. -/
def AcknowledgementKept (race : CommandRace) : Prop :=
  ∀ command, race.stored = some command → command.acknowledgedAt.isSome →
    race.acknowledged.getLast? = some command.status ∧
      ∃ envelope ∈ race.envelopes, command.status = envelope.status.toCommandStatus

/-- The second commit of `issue_relay_command` finds no acknowledgement, or the status it writes. -/
def SavesBeforeAck (race : CommandRace) (event : CommandRaceEvent) : Prop :=
  match event, race.point with
  | .save, .saving held => ∀ command, race.stored = some command →
      command.acknowledgedAt = none ∨ command.status = held.status
  | _, _ => True

/-- A delivered acknowledgement and the time it is processed at. -/
structure AckDelivery where
  envelope : CommandAckEnvelope
  utcNow : Int

/-- The tables, and the envelopes processed so far without an error. -/
structure AckRun where
  tables : CommandTables
  processed : List CommandAckEnvelope

def ackStep (run : AckRun) (delivery : AckDelivery) : AckRun :=
  let (result, tables) := persistCommandAck run.tables delivery.envelope delivery.utcNow
  match result with
  | .ok _ => { tables := tables, processed := run.processed ++ [delivery.envelope] }
  | .error _ => { run with tables := tables }

/-- An acknowledgement with a terminal status set the row. -/
def DeviceCommand.Settled (command : DeviceCommand) : Prop :=
  command.acknowledgedAt.isSome ∧
    ∃ status : AckStatus, status.Terminal ∧ command.status = status.toCommandStatus

/-- A settled command keeps its status, result, detail and time, and an envelope processed before is a
duplicate without an audit event. -/
def AckIdempotent (commandId : String) (run : AckRun) (delivery : AckDelivery) : Prop :=
  let after := persistCommandAck run.tables delivery.envelope delivery.utcNow
  (∀ command, run.tables.commands commandId = some command → command.Settled →
    ∃ command', after.2.commands commandId = some command' ∧ command'.status = command.status ∧
      command'.resultCode = command.resultCode ∧ command'.detail = command.detail ∧
      command'.acknowledgedAt = command.acknowledgedAt) ∧
  (delivery.envelope ∈ run.processed →
    after.1 = .ok ⟨.duplicate, delivery.envelope.messageId⟩ ∧ after.2.audit = run.tables.audit)

/-- After a delivery with a terminal status, every delivery of the command's device has that status. -/
def TerminalRepeats (deviceId : String) (deliveries : List AckDelivery) : Prop :=
  deliveries.Pairwise fun earlier later =>
    earlier.envelope.deviceId = deviceId → later.envelope.deviceId = deviceId →
      earlier.envelope.status.Terminal → later.envelope.status = earlier.envelope.status

end IiotMonitoring
