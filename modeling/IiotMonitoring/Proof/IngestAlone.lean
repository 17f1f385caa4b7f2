import IiotMonitoring.Proof.IngestAlarms

/-!
# One call of `persist_telemetry`

What a call does on its own: a duplicate, a refusal, or one commit whose writes are given by the tables
it started from. A commit that was put together from older reads stores the same, where its rows and
alarms stand.
-/

namespace IiotMonitoring

variable {format : FloatFormat} {ingest : Ingest} {db : Database}

/-! ### Statements in sequence -/

theorem persistTelemetry_eq :
    ingest.persistTelemetry format =
      .call (.findMessage ingest.envelope.messageId) fun existing =>
        if existing.isSome then .done ingest.duplicate else ingest.checkSequence format := rfl

theorem checkSequence_eq :
    ingest.checkSequence format =
      .call (.findSequence ingest.envelope.deviceId ingest.envelope.sequence) fun owner =>
        if owner.isSome then .done (.error (.sequenceCollision ingest.envelope.sequence))
        else ingest.loadDevice format := rfl

theorem loadDevice_eq :
    ingest.loadDevice format =
      .call (.getDevice ingest.envelope.deviceId) fun loaded =>
        match ingest.rows loaded with
        | none => .done (.error .siteMismatch)
        | some rows => ingest.applyThresholdAlarms format rows := rfl

theorem applyThresholdAlarms_eq (rows : RowWrites) :
    ingest.applyThresholdAlarms format rows =
      .call (.getThresholds ingest.envelope.deviceId) fun config =>
        match config with
        | some config => ingest.applyMetricAlarms format (some rows) (ingest.metricRules config) []
        | none => ingest.flushThresholds format rows := by
  refine congrArg (Program.call _) (funext fun config => ?_)
  cases config with
  | none => rfl
  | some config => rfl

theorem flushThresholds_eq (rows : RowWrites) :
    ingest.flushThresholds format rows =
      .call (.flush { rows with
          thresholds := some (ThresholdConfig.default ingest.envelope.deviceId) }) fun flushed =>
        if flushed then
          ingest.applyMetricAlarms format none
            (ingest.metricRules (ThresholdConfig.default ingest.envelope.deviceId)) []
        else .done (.error .integrityError) := rfl

theorem applyMetricAlarms_none {rule : MetricRule} (hvalue : rule.value = none)
    (rows : Option RowWrites) (rules : List MetricRule) (alarms : List (Option AlarmWrite)) :
    ingest.applyMetricAlarms format rows (rule :: rules) alarms =
      ingest.applyMetricAlarms format rows rules (alarms ++ [none]) := by
  conv_lhs => unfold Ingest.applyMetricAlarms
  rw [hvalue]

theorem applyMetricAlarms_some {rule : MetricRule} {value : FloatNumber ℚ} (hvalue : rule.value = some value)
    (rows : Option RowWrites) (rules : List MetricRule) (alarms : List (Option AlarmWrite)) :
    ingest.applyMetricAlarms format rows (rule :: rules) alarms =
      .call (.activeAlarm ingest.envelope.deviceId rule.code) fun active =>
        ingest.applyMetricAlarms format rows rules
          (alarms ++ [rule.decide format ingest.envelope.deviceId value active]) := by
  conv_lhs => unfold Ingest.applyMetricAlarms
  rw [hvalue]
  rfl

theorem commitSession_eq (rows : Option RowWrites) (alarms : List (Option AlarmWrite)) :
    ingest.commitSession rows alarms =
      .call (.commit rows alarms) fun committed =>
        if committed then .done ingest.inserted else ingest.afterRollback := rfl

/-- The event of a call does not fit a notification. -/
def Ingest.TooLarge (ingest : Ingest) (format : FloatFormat) : Prop :=
  7000 < (ingest.liveEvent format).print.length

theorem commitTelemetry_tooLarge (hsize : ingest.TooLarge format) (rows : Option RowWrites)
    (alarms : List (Option AlarmWrite)) :
    ingest.commitTelemetry format rows alarms = .done (.error .eventTooLarge) := by
  unfold Ingest.commitTelemetry
  exact if_pos hsize

theorem commitTelemetry_eq (hsize : ¬ ingest.TooLarge format) (rows : Option RowWrites)
    (alarms : List (Option AlarmWrite)) :
    ingest.commitTelemetry format rows alarms =
      .call (.notify (ingest.liveEvent format).print) fun _ => ingest.commitSession rows alarms := by
  unfold Ingest.commitTelemetry
  exact if_neg hsize

theorem afterRollback_eq :
    ingest.afterRollback =
      .call (.findAfterRollback ingest.envelope.messageId) fun existing =>
        if existing.isSome then .done ingest.duplicate else .done (.error .integrityError) := rfl

/-! ### Runs -/

theorem run_commitTelemetry (rows flushed : Option RowWrites) (alarms : List (Option AlarmWrite))
    (hsize : ¬ ingest.TooLarge format) (hviolates : rows.any db.violates = false) :
    (ingest.commitTelemetry format rows alarms).run sessionDevice (db, flushed) =
      (ingest.inserted, db.commit (rows <|> flushed) alarms, none) := by
  rw [commitTelemetry_eq hsize, Program.run_call, commitSession_eq, Program.run_call]
  simp only [sessionDevice, hviolates, Bool.false_eq_true, if_false, if_true, Program.run_done]

theorem run_applyMetricAlarms (rows flushed : Option RowWrites) (rules : List MetricRule)
    (alarms : List (Option AlarmWrite)) :
    (ingest.applyMetricAlarms format rows rules alarms).run sessionDevice (db, flushed) =
      (ingest.commitTelemetry format rows
        (alarms ++ rules.map (ingest.alarmWrite format db))).run sessionDevice (db, flushed) := by
  induction rules generalizing alarms with
  | nil => simp [Ingest.applyMetricAlarms]
  | cons rule rules ih =>
      rw [List.map_cons, List.append_cons]
      unfold Ingest.alarmWrite at ih ⊢
      cases hvalue : rule.value with
      | none =>
          rw [applyMetricAlarms_none hvalue]
          exact ih _
      | some value =>
          rw [applyMetricAlarms_some hvalue, Program.run_call]
          exact ih _

/-- The rows a call writes on these tables, its device being registered at its site or new. -/
def Ingest.rowsOn (ingest : Ingest) (db : Database) (rows : RowWrites) : RowWrites :=
  { rows with
    thresholds :=
      if (db.thresholds ingest.envelope.deviceId).isSome then none
      else some (ThresholdConfig.default ingest.envelope.deviceId) }

theorem rows_telemetry {loaded : Option Device} {rows : RowWrites}
    (hrows : ingest.rows loaded = some rows) : rows.telemetry = ingest.telemetryRow := by
  unfold Ingest.rows at hrows
  split at hrows
  · rw [← Option.some.inj hrows]
  · split at hrows
    · cases hrows
    · rw [← Option.some.inj hrows]

theorem rows_loaded {loaded : Option Device} {rows : RowWrites}
    (hrows : ingest.rows loaded = some rows) : rows.loaded = loaded ∧ rows.thresholds = none := by
  unfold Ingest.rows at hrows
  split at hrows
  · rw [← Option.some.inj hrows]
    exact ⟨rfl, rfl⟩
  · split at hrows
    · cases hrows
    · rw [← Option.some.inj hrows]
      exact ⟨rfl, rfl⟩

theorem runAlone_duplicate (hmessage : (db.findMessage ingest.envelope.messageId).isSome) :
    runAlone format db ingest = (ingest.duplicate, db) := by
  unfold runAlone
  rw [persistTelemetry_eq, Program.run_call]
  simp only [sessionDevice, hmessage, if_true, Program.run_done]

/-- A message that is not stored goes on to the check of its sequence. -/
theorem runAlone_checkSequence (hmessage : db.findMessage ingest.envelope.messageId = none) :
    (ingest.persistTelemetry format).run sessionDevice (db, none) =
      (ingest.checkSequence format).run sessionDevice (db, none) := by
  rw [persistTelemetry_eq, Program.run_call]
  simp only [sessionDevice, hmessage, Option.isSome_none, Bool.false_eq_true, if_false]

theorem runAlone_collision (hmessage : db.findMessage ingest.envelope.messageId = none)
    (howner : (db.findSequence ingest.envelope.deviceId ingest.envelope.sequence).isSome) :
    runAlone format db ingest =
      (.error (.sequenceCollision ingest.envelope.sequence), db) := by
  unfold runAlone
  rw [runAlone_checkSequence hmessage, checkSequence_eq, Program.run_call]
  simp only [sessionDevice, howner, if_true, Program.run_done]

theorem runAlone_loadDevice (hmessage : db.findMessage ingest.envelope.messageId = none)
    (howner : db.findSequence ingest.envelope.deviceId ingest.envelope.sequence = none) :
    (ingest.persistTelemetry format).run sessionDevice (db, none) =
      (ingest.loadDevice format).run sessionDevice (db, none) := by
  rw [runAlone_checkSequence hmessage, checkSequence_eq, Program.run_call]
  simp only [sessionDevice, howner, Option.isSome_none, Bool.false_eq_true, if_false]

theorem runAlone_mismatch (hmessage : db.findMessage ingest.envelope.messageId = none)
    (howner : db.findSequence ingest.envelope.deviceId ingest.envelope.sequence = none)
    (hsite : ingest.rows (db.devices ingest.envelope.deviceId) = none) :
    runAlone format db ingest = (.error .siteMismatch, db) := by
  unfold runAlone
  rw [runAlone_loadDevice hmessage howner, loadDevice_eq, Program.run_call]
  simp only [sessionDevice, hsite, Program.run_done]

theorem violates_eq_false_iff {rows : RowWrites} :
    db.violates rows = false ↔
      db.findMessage rows.telemetry.messageId = none ∧
        db.findSequence rows.telemetry.deviceId rows.telemetry.sequence = none ∧
        (rows.loaded = none → db.devices rows.telemetry.deviceId = none) ∧
        ∀ config ∈ rows.thresholds, db.thresholds config.deviceId = none := by
  unfold Database.violates
  simp only [Bool.or_eq_false_iff, Bool.and_eq_false_imp, Option.isSome_eq_false_iff,
    Option.isNone_iff_eq_none, Option.mem_def, and_assoc]
  cases rows.thresholds with
  | none => simp
  | some config => simp

/-- The rows that a call writes on the tables it reads violate no key. -/
theorem violates_rowsOn {rows : RowWrites}
    (hmessage : db.findMessage ingest.envelope.messageId = none)
    (howner : db.findSequence ingest.envelope.deviceId ingest.envelope.sequence = none)
    (hrows : ingest.rows (db.devices ingest.envelope.deviceId) = some rows) :
    db.violates (ingest.rowsOn db rows) = false := by
  have htelemetry := rows_telemetry hrows
  obtain ⟨hloaded, -⟩ := rows_loaded hrows
  unfold Database.violates Ingest.rowsOn
  dsimp only
  rw [htelemetry, hloaded]
  simp only [Ingest.telemetryRow, hmessage, howner, Option.isSome_none, Bool.false_or]
  cases db.devices ingest.envelope.deviceId with
  | none =>
      cases hthresholds : db.thresholds ingest.envelope.deviceId with
      | none => simp [ThresholdConfig.default, hthresholds]
      | some config => simp
  | some device =>
      cases hthresholds : db.thresholds ingest.envelope.deviceId with
      | none => simp [ThresholdConfig.default, hthresholds]
      | some config => simp

/-- A call that gets past its checks puts its rows and alarms together, as they are called for on the
tables, and commits. Rows flushed before the commit are not in it. -/
theorem run_loadDevice {rows : RowWrites}
    (hmessage : db.findMessage ingest.envelope.messageId = none)
    (howner : db.findSequence ingest.envelope.deviceId ingest.envelope.sequence = none)
    (hrows : ingest.rows (db.devices ingest.envelope.deviceId) = some rows) :
    ∃ flushed unflushed, (unflushed <|> flushed) = some (ingest.rowsOn db rows) ∧
      unflushed.any db.violates = false ∧
      (ingest.persistTelemetry format).run sessionDevice (db, none) =
        (ingest.commitTelemetry format unflushed (ingest.alarmWrites format db)).run sessionDevice
          (db, flushed) := by
  have hviolates := violates_rowsOn hmessage howner hrows
  rw [runAlone_loadDevice hmessage howner, loadDevice_eq, Program.run_call]
  simp only [sessionDevice, hrows]
  rw [applyThresholdAlarms_eq, Program.run_call]
  unfold Ingest.alarmWrites Ingest.config
  unfold Ingest.rowsOn at hviolates ⊢
  cases hthresholds : db.thresholds ingest.envelope.deviceId with
  | none =>
      simp only [hthresholds, Option.isSome_none, Bool.false_eq_true, if_false] at hviolates
      simp only [sessionDevice, hthresholds]
      rw [flushThresholds_eq, Program.run_call]
      simp only [sessionDevice, hviolates, Bool.false_eq_true, if_false, if_true]
      rw [run_applyMetricAlarms]
      exact ⟨_, none, rfl, rfl, rfl⟩
  | some config =>
      simp only [hthresholds, Option.isSome_some, if_true] at hviolates
      have hnone : rows.thresholds = none := (rows_loaded hrows).2
      have hsame : { rows with thresholds := none } = rows := by
        rw [← hnone]
      rw [hsame] at hviolates
      simp only [sessionDevice, hthresholds]
      rw [run_applyMetricAlarms]
      exact ⟨none, some rows, by simp [hsame], by simpa using hviolates, rfl⟩

theorem runAlone_inserted {rows : RowWrites} (hsize : ¬ ingest.TooLarge format)
    (hmessage : db.findMessage ingest.envelope.messageId = none)
    (howner : db.findSequence ingest.envelope.deviceId ingest.envelope.sequence = none)
    (hrows : ingest.rows (db.devices ingest.envelope.deviceId) = some rows) :
    runAlone format db ingest =
      (ingest.inserted, db.commit (some (ingest.rowsOn db rows)) (ingest.alarmWrites format db)) := by
  obtain ⟨flushed, unflushed, hall, hviolates, hrun⟩ :=
    @run_loadDevice format _ _ _ hmessage howner hrows
  unfold runAlone
  rw [hrun, run_commitTelemetry _ _ _ hsize hviolates, hall]

theorem runAlone_tooLarge (hsize : ingest.TooLarge format)
    (hmessage : db.findMessage ingest.envelope.messageId = none)
    (howner : db.findSequence ingest.envelope.deviceId ingest.envelope.sequence = none)
    (hrows : (ingest.rows (db.devices ingest.envelope.deviceId)).isSome) :
    runAlone format db ingest = (.error .eventTooLarge, db) := by
  obtain ⟨rows, hrows⟩ := Option.isSome_iff_exists.mp hrows
  obtain ⟨flushed, unflushed, -, -, hrun⟩ :=
    @run_loadDevice format _ _ _ hmessage howner hrows
  unfold runAlone
  rw [hrun, commitTelemetry_tooLarge hsize, Program.run_done]

/-- A call alone reports a duplicate, refuses, or stores its message; no `IntegrityError` escapes. -/
theorem runAlone_cases (format : FloatFormat) (ingest : Ingest) (db : Database) :
    (runAlone format db ingest = (ingest.duplicate, db) ∧
        (db.findMessage ingest.envelope.messageId).isSome) ∨
      (∃ error, error ≠ .integrityError ∧ runAlone format db ingest = (.error error, db)) ∨
      ∃ rows, rows.telemetry = ingest.telemetryRow ∧
        (∀ config ∈ rows.thresholds, config = ThresholdConfig.default ingest.envelope.deviceId) ∧
        runAlone format db ingest =
          (ingest.inserted, db.commit (some rows) (ingest.alarmWrites format db)) := by
  cases hmessage : db.findMessage ingest.envelope.messageId with
  | some row => exact .inl ⟨runAlone_duplicate (by rw [hmessage]; rfl), rfl⟩
  | none =>
      cases howner : db.findSequence ingest.envelope.deviceId ingest.envelope.sequence with
      | some row =>
          exact .inr (.inl ⟨_, by simp, runAlone_collision hmessage (by rw [howner]; rfl)⟩)
      | none =>
          cases hrows : ingest.rows (db.devices ingest.envelope.deviceId) with
          | none => exact .inr (.inl ⟨_, by simp, runAlone_mismatch hmessage howner hrows⟩)
          | some rows =>
              have htelemetry := rows_telemetry hrows
              by_cases hsize : ingest.TooLarge format
              · exact .inr (.inl ⟨_, by simp, runAlone_tooLarge hsize hmessage howner
                  (by rw [hrows]; rfl)⟩)
              · refine .inr (.inr ⟨ingest.rowsOn db rows, htelemetry, ?_,
                  runAlone_inserted hsize hmessage howner hrows⟩)
                intro config hconfig
                unfold Ingest.rowsOn at hconfig
                dsimp only at hconfig
                split at hconfig
                · cases hconfig
                · exact (Option.some.inj hconfig).symm

/-! ### Commits -/

section Commits

variable {rows : RowWrites} {alarms : List (Option AlarmWrite)}

theorem findMessage_commit (messageId : String) :
    (db.commit (some rows) alarms).findMessage messageId =
      (db.findMessage messageId).or
        (if rows.telemetry.messageId = messageId then some rows.telemetry else none) := by
  unfold Database.findMessage Database.commit Database.writeRows
  rw [Option.elim_some, List.find?_append, List.find?_singleton]
  simp only [decide_eq_true_eq]

theorem findSequence_commit (deviceId : String) (sequence : Nat)
    (hdevice : rows.telemetry.deviceId ≠ deviceId) :
    (db.commit (some rows) alarms).findSequence deviceId sequence =
      db.findSequence deviceId sequence := by
  unfold Database.findSequence Database.commit Database.writeRows
  rw [Option.elim_some, List.find?_append, List.find?_singleton]
  simp [hdevice]

theorem devices_commit_of_ne {id : String} (hdevice : id ≠ rows.telemetry.deviceId) :
    (db.commit (some rows) alarms).devices id = db.devices id := by
  unfold Database.commit Database.writeRows
  exact Function.update_of_ne hdevice _ _

theorem findMessage_commit_isSome {messageId : String}
    (hmessage : (db.findMessage messageId).isSome) :
    ((db.commit (some rows) alarms).findMessage messageId).isSome := by
  rw [findMessage_commit, Option.isSome_or, hmessage, Bool.true_or]

end Commits

/-- A message that is stored stays stored. -/
theorem findMessage_runAlone {messageId : String} (hmessage : (db.findMessage messageId).isSome) :
    ((runAlone format db ingest).2.findMessage messageId).isSome := by
  rcases runAlone_cases format ingest db with
    ⟨halone, -⟩ | ⟨error, -, halone⟩ | ⟨rows, -, -, halone⟩
  · rw [halone]
    exact hmessage
  · rw [halone]
    exact hmessage
  · rw [halone]
    exact findMessage_commit_isSome hmessage

/-- A call that reports its message as inserted or as a duplicate leaves it stored. -/
theorem runAlone_stored {result : IngestStatus × String}
    (hresult : (runAlone format db ingest).1 = .ok result) :
    ((runAlone format db ingest).2.findMessage ingest.envelope.messageId).isSome := by
  rcases runAlone_cases format ingest db with
    ⟨halone, hmessage⟩ | ⟨error, -, halone⟩ | ⟨rows, htelemetry, -, halone⟩
  · rw [halone]
    exact hmessage
  · rw [halone] at hresult
    cases hresult
  · rw [halone, findMessage_commit, htelemetry]
    unfold Ingest.telemetryRow
    rw [if_pos rfl, Option.isSome_or, Option.isSome_some, Bool.or_true]

theorem runAlone_handled : (runAlone format db ingest).1 ≠ .error .integrityError := by
  rcases runAlone_cases format ingest db with
    ⟨halone, -⟩ | ⟨error, herror, halone⟩ | ⟨rows, -, -, halone⟩
  · rw [halone]
    simp [Ingest.duplicate]
  · rw [halone]
    simpa using herror
  · rw [halone]
    simp [Ingest.inserted]

theorem runAlone_oneActive (hone : OneActive db.alarms) :
    OneActive (runAlone format db ingest).2.alarms := by
  rcases runAlone_cases format ingest db with
    ⟨halone, -⟩ | ⟨error, -, halone⟩ | ⟨rows, -, -, halone⟩
  · rw [halone]
    exact hone
  · rw [halone]
    exact hone
  · rw [halone]
    exact hone.foldl_writeAlarms alarmWrites_fit alarmWrites_apart

/-! ### A commit from earlier reads -/

/-- Rows made from a device row read earlier. Device rows are not deleted, and keep their site. -/
structure RowsMade (ingest : Ingest) (db : Database) (rows : RowWrites) : Prop where
  made : ingest.rows rows.loaded = some { rows with thresholds := none }
  registered : rows.loaded.isSome → ∃ stored, db.devices ingest.envelope.deviceId = some stored ∧
    stored.siteId = ingest.envelope.siteId
  config : ∀ config ∈ rows.thresholds, config = ThresholdConfig.default ingest.envelope.deviceId

theorem RowsMade.telemetry {rows : RowWrites} (hmade : RowsMade ingest db rows) :
    rows.telemetry = ingest.telemetryRow := by
  have htelemetry := rows_telemetry hmade.made
  exact htelemetry

theorem RowsMade.config_deviceId {rows : RowWrites} (hmade : RowsMade ingest db rows)
    {config : ThresholdConfig} (hconfig : config ∈ rows.thresholds) :
    config.deviceId = rows.telemetry.deviceId := by
  rw [hmade.config config hconfig, hmade.telemetry]
  rfl

theorem rows_loaded_some {loaded : Device} {rows : RowWrites}
    (hrows : ingest.rows (some loaded) = some rows) :
    loaded.siteId = ingest.envelope.siteId ∧ rows.held = ingest.touch loaded := by
  unfold Ingest.rows at hrows
  dsimp only at hrows
  split at hrows
  · cases hrows
  · rename_i hsite
    rw [← Option.some.inj hrows]
    exact ⟨not_not.mp hsite, rfl⟩

theorem rowsMade_of_rows {rows : RowWrites}
    (hrows : ingest.rows (db.devices ingest.envelope.deviceId) = some rows) :
    RowsMade ingest db rows := by
  obtain ⟨hloaded, hnone⟩ := rows_loaded hrows
  constructor
  · have hsame : { rows with thresholds := none } = rows := by
      rw [← hnone]
    rw [hsame, hloaded, hrows]
  · intro hsome
    obtain ⟨stored, hstored⟩ := Option.isSome_iff_exists.mp hsome
    rw [hloaded] at hstored
    rw [hstored] at hrows
    exact ⟨stored, hstored, (rows_loaded_some hrows).1⟩
  · intro config hconfig
    rw [hnone] at hconfig
    cases hconfig

theorem RowsMade.flushed {rows : RowWrites} (hmade : RowsMade ingest db rows) :
    RowsMade ingest db
      { rows with thresholds := some (ThresholdConfig.default ingest.envelope.deviceId) } where
  made := hmade.made
  registered := hmade.registered
  config := by
    intro config hconfig
    exact (Option.some.inj hconfig).symm

theorem rows_of_site {stored : Device} (hsite : stored.siteId = ingest.envelope.siteId) :
    ingest.rows (some stored) =
      some {
        loaded := some stored
        held := ingest.touch stored
        telemetry := ingest.telemetryRow
        thresholds := none } := by
  unfold Ingest.rows
  dsimp only
  rw [if_neg (not_not.mpr hsite)]

theorem writeDevice_touch (stored : Device) :
    writeDevice stored (ingest.touch stored) stored = ingest.touch stored := by
  unfold writeDevice Ingest.touch
  simp only [ite_held]

theorem commit_eq {rows rows' : RowWrites} {alarms alarms' : List (Option AlarmWrite)}
    (htelemetry : rows.telemetry = rows'.telemetry) (hthresholds : rows.thresholds = rows'.thresholds)
    (hdevice : rows.device (db.devices rows'.telemetry.deviceId) =
      rows'.device (db.devices rows'.telemetry.deviceId))
    (halarms : alarms.foldl Database.writeAlarms db.alarms =
      alarms'.foldl Database.writeAlarms db.alarms) :
    db.commit (some rows) alarms = db.commit (some rows') alarms' := by
  unfold Database.commit Database.writeRows
  simp only [Option.elim_some]
  rw [htelemetry, hthresholds, hdevice, halarms]

/-- A threshold row is written exactly where none is stored. -/
theorem rowsOn_thresholds {rows made : RowWrites} (hmade : RowsMade ingest db rows)
    (hviolates : db.violates rows = false)
    (hthresholds : rows.thresholds = none → (db.thresholds ingest.envelope.deviceId).isSome) :
    (ingest.rowsOn db made).thresholds = rows.thresholds := by
  obtain ⟨-, -, -, hconfig⟩ := violates_eq_false_iff.mp hviolates
  unfold Ingest.rowsOn
  dsimp only
  cases hrows : rows.thresholds with
  | none => rw [if_pos (hthresholds hrows)]
  | some config =>
      have hnew := hmade.config config hrows
      have hfree : db.thresholds ingest.envelope.deviceId = none := by
        have hfree := hconfig config hrows
        rw [hnew] at hfree
        exact hfree
      rw [hfree, hnew]
      rfl

/-- **Validated commit.** Where the keys of its rows are free and what it writes from earlier reads
stands, a commit leaves the tables as the call alone would. -/
theorem runAlone_commit {rows : RowWrites} {alarms : List (Option AlarmWrite)}
    (hsize : ¬ ingest.TooLarge format) (hmade : RowsMade ingest db rows) (hviolates : db.violates rows = false)
    (hthresholds : rows.thresholds = none → (db.thresholds ingest.envelope.deviceId).isSome)
    (hstands : rows.Stands ingest db)
    (halarms : List.Forall₂ AlarmStands alarms (ingest.alarmWrites format db)) :
    runAlone format db ingest = (ingest.inserted, db.commit (some rows) alarms) := by
  obtain ⟨hmessage, howner, hnew, -⟩ := violates_eq_false_iff.mp hviolates
  have htelemetry := hmade.telemetry
  have hwrites := foldl_writeAlarms_eq halarms alarmWrites_fit alarmWrites_apart
  rw [htelemetry] at hmessage howner hnew
  have hdeviceId : ingest.telemetryRow.deviceId = ingest.envelope.deviceId := rfl
  cases hloaded : rows.loaded with
  | none =>
      have hrows : ingest.rows (db.devices ingest.envelope.deviceId) =
          some { rows with thresholds := none } := by
        rw [← hdeviceId, hnew hloaded, ← hloaded]
        exact hmade.made
      rw [runAlone_inserted hsize hmessage howner hrows]
      exact congrArg _
        (commit_eq rfl (rowsOn_thresholds hmade hviolates hthresholds) rfl hwrites.symm)
  | some loaded =>
      obtain ⟨stored, hstored, hsite⟩ := hmade.registered (by rw [hloaded]; rfl)
      have hrows : ingest.rows (db.devices ingest.envelope.deviceId) = _ :=
        hstored ▸ rows_of_site hsite
      have hdevice : writeDevice loaded rows.held stored = ingest.touch stored :=
        hstands loaded stored hloaded (by rw [htelemetry]; exact hstored)
      rw [runAlone_inserted hsize hmessage howner hrows]
      refine congrArg _ (commit_eq htelemetry.symm (rowsOn_thresholds hmade hviolates hthresholds) ?_
        hwrites.symm)
      rw [htelemetry, hdeviceId, hstored]
      unfold RowWrites.device Ingest.rowsOn
      rw [hloaded]
      simp only [Option.map_some, hdevice, writeDevice_touch]

/-! ### Sample calls -/

/-- A message without measurements. -/
def sampleMessage (messageId : String) (sequence : Nat) : Ingest where
  envelope := {
    messageId := messageId
    siteId := "site-1"
    deviceId := "motor-1"
    sequence := sequence
    deviceTime := none
    clockSynchronized := false
    uptimeMs := 0
    firmwareVersion := "1.0.0"
    quality := .bad
    replayed := false
    measurements := ⟨none, none, none, none, none⟩
    sampleQuality := ⟨⟨"missing", 0, 1, none⟩, ⟨"missing", 0, 1, none⟩, ⟨"missing", 0, 1, none⟩⟩
    faultFlags := [] }
  now := 0
  temperatureNow := 0
  vibrationNow := 0
  currentNow := 0

/-- The first two messages of a device. -/
def firstMessages : Nat → Ingest
  | 0 => sampleMessage "00000000-0000-4000-8000-000000000000" 0
  | _ => sampleMessage "00000000-0000-4000-8000-000000000001" 1

def emptyDatabase : Database := ⟨[], fun _ => none, fun _ => none, []⟩

def sampleFormat : FloatFormat := ⟨id, fun _ => "", fun _ => .null⟩

end IiotMonitoring
