import IiotMonitoring.Server.Ingestion
import IiotMonitoring.Lib.Run

/-!
# Concurrent ingestion

Calls of `persist_telemetry` in sessions of their own, one statement at a time, in any order. A flush
is seen by its own session only, and until that session's commit the keys it wrote hold up every flush
and commit that writes one of them. The order the calls are compared with runs them one by one.
-/

namespace IiotMonitoring

/-! ### Statements -/

/-- A statement on the committed tables and what its session has flushed. -/
def sessionDevice : (op : SessionOp) → Database × Option RowWrites →
    op.Answer × (Database × Option RowWrites)
  | .findMessage messageId, (db, flushed) => (db.findMessage messageId, db, flushed)
  | .findSequence deviceId sequence, (db, flushed) =>
      (db.findSequence deviceId sequence, db, flushed)
  | .getDevice id, (db, flushed) => (db.devices id, db, flushed)
  | .getThresholds deviceId, (db, flushed) => (db.thresholds deviceId, db, flushed)
  | .activeAlarm deviceId code, (db, flushed) => (db.activeAlarm deviceId code, db, flushed)
  | .flush rows, (db, _) => if db.violates rows then (false, db, none) else (true, db, some rows)
  | .notify _, (db, flushed) => ((), db, flushed)
  | .commit rows alarms, (db, flushed) =>
      if rows.any db.violates then (false, db, none)
      else (true, db.commit (rows <|> flushed) alarms, none)
  | .findAfterRollback messageId, (db, flushed) => (db.findMessage messageId, db, flushed)

/-- A call with no other session in between. -/
def runAlone (format : FloatFormat) (db : Database) (ingest : Ingest) : IngestOutcome × Database :=
  let (outcome, db, _) := (ingest.persistTelemetry format).run sessionDevice (db, none)
  (outcome, db)

/-! ### The race -/

/-- Writes with a key in common: the message id, or the device, which is in the keys of the other
rows. -/
def RowWrites.sharesKey (left right : RowWrites) : Bool :=
  left.telemetry.messageId = right.telemetry.messageId ||
    left.telemetry.deviceId = right.telemetry.deviceId

/-- `sessions` is what each call has still to do. `history` records the committed tables so far;
nothing reads it. -/
structure IngestRace where
  db : Database
  flushed : List (Nat × RowWrites)
  sessions : Nat → Statement IngestOutcome
  history : List Database

def IngestRace.start (format : FloatFormat) (calls : Nat → Ingest) (db : Database) : IngestRace where
  db := db
  flushed := []
  sessions call := (calls call).persistTelemetry format
  history := [db]

def IngestRace.flushedBy (race : IngestRace) (call : Nat) : Option RowWrites :=
  (race.flushed.find? (·.1 = call)).map (·.2)

/-- Whether another session has flushed a key of these rows. -/
def IngestRace.blocked (race : IngestRace) (call : Nat) (rows : RowWrites) : Bool :=
  race.flushed.any fun flushed => flushed.1 ≠ call && flushed.2.sharesKey rows

def IngestRace.waits (race : IngestRace) (call : Nat) : SessionOp → Bool
  | .flush rows => race.blocked call rows
  | .commit (some rows) _ => race.blocked call rows
  | _ => false

/-- The race after a statement that left these tables, flushed rows and rest of the call. -/
def IngestRace.after (race : IngestRace) (call : Nat) (db : Database) (flushed : Option RowWrites)
    (rest : Statement IngestOutcome) : IngestRace where
  db := db
  flushed := race.flushed.filter (·.1 ≠ call) ++ flushed.toList.map fun rows => (call, rows)
  sessions := Function.update race.sessions call rest
  history := race.history ++ [db]

/-- What a session keeps flushed. A call that returns closes its session, which rolls it back. -/
def keptFlushed (rest : Statement IngestOutcome) (flushed : Option RowWrites) : Option RowWrites :=
  match rest with
  | .done _ => none
  | .call _ _ => flushed

/-- The next statement of a call, unless it waits or the call has returned. -/
def ingestStep (race : IngestRace) (call : Nat) : IngestRace :=
  match race.sessions call with
  | .done _ => race
  | .call op next =>
      if race.waits call op then race
      else
        let (answer, db, flushed) := sessionDevice op (race.db, race.flushedBy call)
        let rest := next answer
        race.after call db (keptFlushed rest flushed) rest

/-! ### Properties -/

section Properties

variable (format : FloatFormat) (calls : Nat → Ingest)

/-- Calls run one by one, each returning what its session has returned. -/
inductive SerialRun (sessions : Nat → Statement IngestOutcome) :
    Database → List Nat → Database → Prop where
  | nil (db : Database) : SerialRun sessions db [] db
  | cons {db final : Database} {call : Nat} {order : List Nat}
      (returned : sessions call = .done (runAlone format db (calls call)).1)
      (rest : SerialRun sessions (runAlone format db (calls call)).2 order final) :
      SerialRun sessions db (call :: order) final

/-- The calls that have returned, in an order that gives the same results and tables one by one. -/
structure SerialOrder (start : Database) (race : IngestRace) (order : List Nat) : Prop where
  nodup : order.Nodup
  returned : ∀ call, call ∈ order ↔ ∃ outcome, race.sessions call = .done outcome
  run : SerialRun format calls race.sessions start order race.db

/-- At most one active alarm for each device and code. -/
def OneActive (alarms : List Alarm) : Prop :=
  ∀ (left right : Nat) (alarm alarm' : Alarm), alarms[left]? = some alarm →
    alarms[right]? = some alarm' → alarm.state = .active → alarm'.state = .active →
    alarm.deviceId = alarm'.deviceId → alarm.code = alarm'.code → left = right

/-- The calls that have returned are those of a sequential run. None raised an `IntegrityError`, every
message reported as stored is, and no second alarm is active. -/
structure Serializable (start : Database) (race : IngestRace) : Prop where
  order : ∃ order, SerialOrder format calls start race order
  handled : ∀ call, race.sessions call ≠ .done (.error .integrityError)
  stored : ∀ call result, race.sessions call = .done (.ok result) →
    (race.db.findMessage (calls call).envelope.messageId).isSome
  oneActive : OneActive start.alarms → OneActive race.db.alarms

/-- The device row is left as the call leaves the row that is stored now. -/
def RowWrites.Stands (ingest : Ingest) (rows : RowWrites) (db : Database) : Prop :=
  ∀ loaded stored, rows.loaded = some loaded → db.devices rows.telemetry.deviceId = some stored →
    writeDevice loaded rows.held stored = ingest.touch stored

/-- The write that a call of `_apply_metric_alarm` makes on these tables. -/
def Ingest.alarmWrite (ingest : Ingest) (db : Database) (rule : MetricRule) : Option AlarmWrite :=
  rule.value.bind fun value =>
    rule.decide format ingest.envelope.deviceId value
      (db.activeAlarm ingest.envelope.deviceId rule.code)

/-- The threshold row on these tables, or the new one. -/
def Ingest.config (ingest : Ingest) (db : Database) : ThresholdConfig :=
  (db.thresholds ingest.envelope.deviceId).getD (ThresholdConfig.default ingest.envelope.deviceId)

def Ingest.alarmWrites (ingest : Ingest) (db : Database) : List (Option AlarmWrite) :=
  (ingest.metricRules (ingest.config db)).map (ingest.alarmWrite format db)

/-- An alarm write from an earlier read that has the effect of the one called for now. -/
def AlarmStands : Option AlarmWrite → Option AlarmWrite → Prop
  | none, none => True
  | some (.insert alarm), some (.insert alarm') => alarm = alarm'
  | some (.update key loaded held), some (.update key' stored held') =>
      key = key' ∧ writeAlarm loaded held stored = held'
  | _, _ => False

/-- What a statement needs for the calls to be serializable. A refusal was right at a moment when the
message was not stored. A flush or a commit that goes through leaves the rows as on the tables of that
moment, and a flush does go through. A commit that fails has lost to the same message. -/
def StatementCurrent (race : IngestRace) (call : Nat) : Prop :=
  let ingest := calls call
  match race.sessions call with
  | .call (.findSequence deviceId sequence) _ =>
      (race.db.findSequence deviceId sequence).isSome → ∃ past ∈ race.history,
        past.findMessage ingest.envelope.messageId = none ∧
          (past.findSequence deviceId sequence).isSome
  | .call (.getDevice id) _ =>
      ingest.rows (race.db.devices id) = none → ∃ past ∈ race.history,
        past.findMessage ingest.envelope.messageId = none ∧
          past.findSequence ingest.envelope.deviceId ingest.envelope.sequence = none ∧
          ingest.rows (past.devices id) = none
  | .call (.flush rows) _ =>
      race.blocked call rows = false →
        race.db.violates rows = false ∧ rows.Stands ingest race.db
  | .call (.commit (some rows) alarms) _ =>
      race.blocked call rows = false → race.db.violates rows = false →
        rows.Stands ingest race.db ∧
          List.Forall₂ AlarmStands alarms (ingest.alarmWrites format race.db)
  | .call (.commit none alarms) _ =>
      List.Forall₂ AlarmStands alarms (ingest.alarmWrites format race.db)
  | .call (.findAfterRollback messageId) _ => (race.db.findMessage messageId).isSome
  | _ => True

end Properties

end IiotMonitoring
