import IiotMonitoring.Proof.ContractAgree
import IiotMonitoring.Proof.IngestAlone
import IiotMonitoring.Server.Ingestor

/-!
# What becomes of a message

`handle_message` leaves the tables as they are where it rejects. It raises on exactly two kinds of
messages: a telemetry payload nested deeper than `json.loads` goes, and a valid message that is written
with a value its column does not hold.
-/

namespace IiotMonitoring

variable {format : FloatFormat} {storesText : String → Bool}

/-! ### Statements that raise -/

section Columns

variable {ingest : Ingest} {db : Database}

/-- A run from here has a statement that raises. -/
def Statement.hits (storesText : String → Bool) (program : Statement IngestOutcome)
    (state : Database × Option RowWrites) : Bool :=
  (program.trace sessionDevice state).any fun answered => answered.1.raises storesText

theorem hits_done (outcome : IngestOutcome) (state : Database × Option RowWrites) :
    Statement.hits storesText (.done outcome) state = false := rfl

theorem hits_call (op : SessionOp) (next : op.Answer → Statement IngestOutcome)
    (state : Database × Option RowWrites) :
    Statement.hits storesText (.call op next) state =
      (op.raises storesText ||
        Statement.hits storesText (next (sessionDevice op state).1) (sessionDevice op state).2) := rfl

theorem hits_commitTelemetry (rows flushed : Option RowWrites) (alarms : List (Option AlarmWrite))
    (hsize : ¬ ingest.TooLarge format) :
    Statement.hits storesText (ingest.commitTelemetry format rows alarms) (db, flushed) =
      rows.any fun rows => !rows.telemetry.fits storesText := by
  rw [commitTelemetry_eq hsize, hits_call, commitSession_eq, hits_call]
  have hrest : ∀ (committed : Bool) (state : Database × Option RowWrites),
      Statement.hits storesText (if committed then .done ingest.inserted else ingest.afterRollback)
        state = false := by
    intro committed state
    cases committed with
    | true => rfl
    | false =>
        rw [if_neg (by simp), afterRollback_eq, hits_call]
        split
        · rfl
        · rfl
  rw [hrest]
  cases rows with
  | none => rfl
  | some rows => simp [SessionOp.raises]

theorem hits_tooLarge (rows flushed : Option RowWrites) (alarms : List (Option AlarmWrite))
    (hsize : ingest.TooLarge format) :
    Statement.hits storesText (ingest.commitTelemetry format rows alarms) (db, flushed) = false := by
  rw [commitTelemetry_tooLarge hsize, hits_done]

/-- Looking for active alarms raises nothing. -/
theorem hits_applyMetricAlarms (rows flushed : Option RowWrites) (rules : List MetricRule)
    (alarms : List (Option AlarmWrite)) :
    ∃ alarms', Statement.hits storesText (ingest.applyMetricAlarms format rows rules alarms) (db, flushed) =
      Statement.hits storesText (ingest.commitTelemetry format rows alarms') (db, flushed) := by
  induction rules generalizing alarms with
  | nil => exact ⟨alarms, rfl⟩
  | cons rule rules ih =>
      cases hvalue : rule.value with
      | none =>
          rw [applyMetricAlarms_none hvalue]
          exact ih _
      | some value =>
          rw [applyMetricAlarms_some hvalue, hits_call]
          exact ih _

/-- A call reaches a statement that writes its rows. -/
structure Ingest.Writes (ingest : Ingest) (format : FloatFormat) (db : Database) : Prop where
  message : db.findMessage ingest.envelope.messageId = none
  sequence : db.findSequence ingest.envelope.deviceId ingest.envelope.sequence = none
  site : (ingest.rows (db.devices ingest.envelope.deviceId)).isSome = true
  event : db.thresholds ingest.envelope.deviceId = none ∨ ¬ ingest.TooLarge format

/-- What was flushed is not written again. -/
theorem hits_flushed (flushed : Option RowWrites) (rules : List MetricRule)
    (alarms : List (Option AlarmWrite)) :
    Statement.hits storesText (ingest.applyMetricAlarms format none rules alarms) (db, flushed) = false := by
  obtain ⟨alarms', hhits⟩ :=
    @hits_applyMetricAlarms format storesText ingest db none flushed rules alarms
  rw [hhits]
  by_cases hsize : ingest.TooLarge format
  · exact hits_tooLarge none flushed alarms' hsize
  · rw [hits_commitTelemetry none flushed alarms' hsize, Option.any_none]

theorem hits_flushThresholds (rows : RowWrites) :
    Statement.hits storesText (ingest.flushThresholds format rows) (db, none) =
      !rows.telemetry.fits storesText := by
  rw [flushThresholds_eq, hits_call]
  have hrest : ∀ (flushed : Bool) (state : Database × Option RowWrites),
      Statement.hits storesText
        (if flushed then
          ingest.applyMetricAlarms format none
            (ingest.metricRules (ThresholdConfig.default ingest.envelope.deviceId)) []
        else .done (.error .integrityError)) state = false := by
    intro flushed state
    cases flushed with
    | true => exact hits_flushed state.2 _ []
    | false => rfl
  rw [hrest, Bool.or_false]
  rfl

theorem hits_applyThresholdAlarms (rows : RowWrites) :
    Statement.hits storesText (ingest.applyThresholdAlarms format rows) (db, none) = true ↔
      (db.thresholds ingest.envelope.deviceId = none ∨ ¬ ingest.TooLarge format) ∧
        rows.telemetry.fits storesText = false := by
  rw [applyThresholdAlarms_eq, hits_call]
  simp only [sessionDevice, SessionOp.raises, Bool.false_or]
  cases db.thresholds ingest.envelope.deviceId with
  | none =>
      rw [hits_flushThresholds, Bool.not_eq_true']
      simp
  | some config =>
      obtain ⟨alarms', hhits⟩ := @hits_applyMetricAlarms format storesText ingest db (some rows) none
        (ingest.metricRules config) []
      rw [hhits]
      by_cases hsize : ingest.TooLarge format
      · rw [hits_tooLarge _ _ _ hsize]
        simp [hsize]
      · rw [hits_commitTelemetry _ _ _ hsize, Option.any_some, Bool.not_eq_true']
        simp [hsize]

theorem hits_persistTelemetry (hmessage : db.findMessage ingest.envelope.messageId = none)
    (hsequence : db.findSequence ingest.envelope.deviceId ingest.envelope.sequence = none) :
    ingest.hitsColumn format storesText db =
      Statement.hits storesText (ingest.loadDevice format) (db, none) := by
  have hhits : ingest.hitsColumn format storesText db =
      Statement.hits storesText (ingest.persistTelemetry format) (db, none) := rfl
  rw [hhits, persistTelemetry_eq, hits_call]
  simp only [sessionDevice, SessionOp.raises, hmessage, Option.isSome_none, Bool.false_or,
    Bool.false_eq_true, if_false]
  rw [checkSequence_eq, hits_call]
  simp only [sessionDevice, SessionOp.raises, hsequence, Option.isSome_none, Bool.false_or,
    Bool.false_eq_true, if_false]

/-- A message that is stored, or whose sequence is, writes nothing. -/
theorem hits_stored (hstored : (db.findMessage ingest.envelope.messageId).isSome = true ∨
      (db.findSequence ingest.envelope.deviceId ingest.envelope.sequence).isSome = true) :
    ingest.hitsColumn format storesText db = false := by
  have hhits : ingest.hitsColumn format storesText db =
      Statement.hits storesText (ingest.persistTelemetry format) (db, none) := rfl
  rw [hhits, persistTelemetry_eq, hits_call]
  by_cases hmessage : (db.findMessage ingest.envelope.messageId).isSome = true
  · simp only [sessionDevice, SessionOp.raises, hmessage, if_true, hits_done, Bool.or_false]
  · simp only [sessionDevice, SessionOp.raises, hmessage, Bool.false_eq_true, if_false, Bool.false_or]
    have hsequence := hstored.resolve_left hmessage
    rw [checkSequence_eq, hits_call]
    simp only [sessionDevice, SessionOp.raises, hsequence, if_true, hits_done, Bool.or_false]

theorem hitsColumn_iff :
    ingest.hitsColumn format storesText db = true ↔
      ingest.Writes format db ∧ ingest.telemetryRow.fits storesText = false := by
  cases hmessage : db.findMessage ingest.envelope.messageId with
  | some row =>
      rw [hits_stored (.inl (by rw [hmessage]; rfl))]
      refine iff_of_false Bool.false_ne_true ?_
      rintro ⟨hwrites, -⟩
      rw [hwrites.message] at hmessage
      cases hmessage
  | none =>
      cases hsequence : db.findSequence ingest.envelope.deviceId ingest.envelope.sequence with
      | some row =>
          rw [hits_stored (.inr (by rw [hsequence]; rfl))]
          refine iff_of_false Bool.false_ne_true ?_
          rintro ⟨hwrites, -⟩
          rw [hwrites.sequence] at hsequence
          cases hsequence
      | none =>
          rw [hits_persistTelemetry hmessage hsequence, loadDevice_eq, hits_call]
          cases hrows : ingest.rows (db.devices ingest.envelope.deviceId) with
          | none =>
              simp only [sessionDevice, SessionOp.raises, hrows, hits_done, Bool.or_false]
              refine iff_of_false Bool.false_ne_true ?_
              rintro ⟨hwrites, -⟩
              have hsite := hwrites.site
              rw [hrows] at hsite
              cases hsite
          | some rows =>
              simp only [sessionDevice, SessionOp.raises, hrows, Bool.false_or]
              rw [hits_applyThresholdAlarms, rows_telemetry hrows]
              constructor
              · rintro ⟨hevent, hfits⟩
                exact ⟨⟨hmessage, hsequence, by rw [hrows, Option.isSome_some], hevent⟩, hfits⟩
              · rintro ⟨hwrites, hfits⟩
                exact ⟨hwrites.event, hfits⟩

end Columns

/-! ### Persisting -/

/-- The values of a health message that its columns hold. -/
def HealthEnvelope.fits (storesText : String → Bool) (envelope : HealthEnvelope) : Bool :=
  storesText envelope.firmwareVersion && storesText envelope.resetReason &&
    fitsInteger envelope.resetCount && fitsInteger envelope.queueDepth &&
    fitsInteger envelope.queueCapacity && fitsInteger envelope.droppedMessageCount

/-- A health message is written. -/
structure HealthEnvelope.Writes (envelope : HealthEnvelope) (tables : DataTables) : Prop where
  message : tables.findHealth envelope.messageId = none
  site : (envelope.device (tables.db.devices envelope.deviceId)).isSome = true
  event : envelope.liveEvent.print.length ≤ 7000

/-- An acknowledgement changes the row of its command. -/
def CommandAckEnvelope.Writes (envelope : CommandAckEnvelope) (tables : CommandTables) (now : Int) : Prop :=
  ∃ loaded held, readCommandAck tables envelope now = .update loaded held

section Handle

variable {limits : JsonLimits} {pydantic : Pydantic} {clock : MessageClock} {tables : ServerTables}
  {topic : Text} {payload : List UInt8}

/-- A decoded telemetry message has a telemetry topic. -/
theorem decodePayload_topic {envelope : TelemetryEnvelope}
    (h : decodePayload limits pydantic topic payload = .ok envelope) :
    ∃ parsed, parseTopic topic = .ok parsed ∧ parsed.kind = .telemetry := by
  unfold decodePayload at h
  split_ifs at h
  cases htopic : parseTopic topic with
  | error error =>
      rw [htopic] at h
      cases h
  | ok parsed =>
      rw [htopic] at h
      dsimp only at h
      split_ifs at h with hkind
      exact ⟨parsed, rfl, hkind⟩

theorem decodeJson_topic {α : Type} {kind : TopicKind} {wrongKind : String} {validate : Json → Option α}
    {siteId deviceId : α → String} {envelope : α}
    (h : decodeJson pydantic kind wrongKind validate siteId deviceId topic payload = .ok envelope) :
    ∃ parsed, parseTopic topic = .ok parsed ∧ parsed.kind = kind := by
  unfold decodeJson at h
  cases htopic : parseTopic topic with
  | error error =>
      rw [htopic] at h
      cases h
  | ok parsed =>
      rw [htopic] at h
      dsimp only at h
      split_ifs at h with hkind
      exact ⟨parsed, rfl, hkind⟩

theorem telemetryRow_fits (clock : MessageClock) (envelope : TelemetryEnvelope) :
    (clock.ingest envelope).telemetryRow.fits storesText = true ↔
      envelope.sequence < 2 ^ 63 ∧ envelope.uptimeMs < 2 ^ 63 ∧
        storesText envelope.firmwareVersion = true := by
  unfold Telemetry.fits fitsBigInteger
  rw [Bool.and_eq_true, Bool.and_eq_true, decide_eq_true_eq, decide_eq_true_eq, and_assoc]
  rfl

end Handle

/-! ### A sequence beyond its column -/

def emptyServer : ServerTables where
  db := ⟨[], fun _ => none, fun _ => none, []⟩
  health := []
  commands := ⟨fun _ => none, [], []⟩
  errors := []

def sampleClock : MessageClock := ⟨0, 0, 0, 0⟩

def silentFormat : FloatFormat := ⟨id, fun _ => "", fun _ => .null⟩

end IiotMonitoring
