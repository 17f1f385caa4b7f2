import IiotMonitoring.Proof.ThresholdRace

/-!
# The operators' routes among the other calls

`persist_telemetry` and `score_device_once` change the operators' tables as the other processes may. An
operator's route whose statements nobody interrupts does what the call on the alarm table does that it
stands for.
-/

namespace IiotMonitoring

/-- The operators' tables with those that the other processes write. -/
def OperatorTables.on (tables : OperatorTables) (db : Database)
    (hkeyed : ∀ deviceId config, db.thresholds deviceId = some config → config.deviceId = deviceId) :
    OperatorTables where
  __ := tables
  devices := db.devices
  thresholds := db.thresholds
  keyed := hkeyed
  alarms := db.alarms

/-! ### Alarms -/

theorem SameAcknowledgement.refl (alarm : Alarm) : SameAcknowledgement alarm alarm :=
  ⟨rfl, rfl, rfl, rfl⟩

theorem SameAcknowledgement.trans {first second third : Alarm} (h : SameAcknowledgement first second)
    (h' : SameAcknowledgement second third) : SameAcknowledgement first third :=
  ⟨h'.deviceId.trans h.deviceId, h'.code.trans h.code, h'.acknowledgedAt.trans h.acknowledgedAt,
    h'.acknowledgedBy.trans h.acknowledgedBy⟩

/-- Alarms that other processes may leave of these. -/
structure AlarmsOutside (before after : List Alarm) : Prop where
  kept : ∀ (key : Nat) (alarm : Alarm), before[key]? = some alarm →
    ∃ alarm', after[key]? = some alarm' ∧ SameAcknowledgement alarm alarm'
  opened : ∀ (key : Nat) (alarm : Alarm), before[key]? = none → after[key]? = some alarm →
    alarm.acknowledgedAt = none ∧ alarm.acknowledgedBy = none

theorem AlarmsOutside.refl (alarms : List Alarm) : AlarmsOutside alarms alarms where
  kept _ alarm h := ⟨alarm, h, .refl alarm⟩
  opened key alarm hnone h := by
    rw [hnone] at h
    cases h

theorem AlarmsOutside.trans {first second third : List Alarm} (h : AlarmsOutside first second)
    (h' : AlarmsOutside second third) : AlarmsOutside first third where
  kept key alarm halarm := by
    obtain ⟨alarm', halarm', hsame⟩ := h.kept key alarm halarm
    obtain ⟨alarm'', halarm'', hsame'⟩ := h'.kept key alarm' halarm'
    exact ⟨alarm'', halarm'', hsame.trans hsame'⟩
  opened key alarm hnone halarm := by
    cases hsecond : second[key]? with
    | none => exact h'.opened key alarm hsecond halarm
    | some alarm' =>
        obtain ⟨hat, hby⟩ := h.opened key alarm' hnone hsecond
        obtain ⟨alarm'', halarm'', hsame⟩ := h'.kept key alarm' hsecond
        obtain rfl := Option.some.inj (halarm.symm.trans halarm'')
        exact ⟨hsame.acknowledgedAt.trans hat, hsame.acknowledgedBy.trans hby⟩

/-- An alarm that a write opens is not acknowledged. -/
def AlarmWrite.OpensUnacknowledged : AlarmWrite → Prop
  | .insert alarm => alarm.acknowledgedAt = none ∧ alarm.acknowledgedBy = none
  | .update _ _ _ => True

theorem writeAlarm_same (loaded held stored : Alarm) :
    SameAcknowledgement stored (writeAlarm loaded held stored) := ⟨rfl, rfl, rfl, rfl⟩

theorem alarmsOutside_write (alarms : List Alarm) {write : Option AlarmWrite}
    (hwrite : ∀ made ∈ write, made.OpensUnacknowledged) :
    AlarmsOutside alarms (Database.writeAlarms alarms write) := by
  cases write with
  | none => exact .refl alarms
  | some write =>
      cases write with
      | insert new =>
          rw [writeAlarms_insert]
          refine ⟨fun key alarm halarm => ⟨alarm, ?_, .refl alarm⟩, fun key alarm hnone halarm => ?_⟩
          · rw [List.getElem?_append_left (List.getElem?_eq_some_iff.mp halarm).1]
            exact halarm
          · rw [List.getElem?_append_right (List.getElem?_eq_none_iff.mp hnone)] at halarm
            have hmem := List.mem_of_getElem? halarm
            rw [List.mem_singleton.mp hmem]
            exact hwrite _ rfl
      | update place loaded held =>
          rw [writeAlarms_update]
          refine ⟨fun key alarm halarm => ?_, fun key alarm hnone halarm => ?_⟩
          · by_cases hplace : place = key
            · subst hplace
              exact ⟨_, by rw [List.getElem?_modify_eq, halarm]; rfl, writeAlarm_same ..⟩
            · exact ⟨alarm, by rw [List.getElem?_modify_ne _ _ hplace, halarm], .refl alarm⟩
          · rw [List.getElem?_eq_none_iff] at hnone
            have hlength := (List.getElem?_eq_some_iff.mp halarm).1
            rw [List.length_modify] at hlength
            omega

theorem alarmsOutside_writes {writes : List (Option AlarmWrite)} (alarms : List Alarm)
    (hwrites : ∀ write ∈ writes, ∀ made ∈ write, AlarmWrite.OpensUnacknowledged made) :
    AlarmsOutside alarms (writes.foldl Database.writeAlarms alarms) := by
  induction writes generalizing alarms with
  | nil => exact .refl alarms
  | cons write writes ih =>
      apply (alarmsOutside_write alarms (hwrites write (List.mem_cons_self ..))).trans
      exact ih _ fun write hwrite => hwrites write (List.mem_cons_of_mem _ hwrite)

theorem decide_unacknowledged (format : FloatFormat) (rule : MetricRule) (deviceId : String)
    (value : FloatNumber ℚ) (active : Option (Nat × Alarm)) :
    ∀ made ∈ rule.decide format deviceId value active, made.OpensUnacknowledged := by
  intro made hmade
  unfold MetricRule.decide at hmade
  repeat' split at hmade
  all_goals cases hmade
  all_goals trivial

theorem setAlarm_unacknowledged {deviceId : String} {code : AlarmCode} {source summary : String}
    {active : Bool} {openedAt now : Int} {found : Option (Nat × Alarm)} :
    ∀ made ∈ setAlarm deviceId code source active summary openedAt now found,
      made.OpensUnacknowledged := by
  intro made hmade
  unfold setAlarm at hmade
  split at hmade
  all_goals cases hmade
  all_goals trivial

/-! ### Ingestion and scoring -/

section Calls

variable {format : FloatFormat} {tables : OperatorTables} {db db' : Database}
  {hkeyed : ∀ deviceId config, db.thresholds deviceId = some config → config.deviceId = deviceId}
  {hkeyed' : ∀ deviceId config, db'.thresholds deviceId = some config → config.deviceId = deviceId}

/-- A change of the shared tables as other processes make it. -/
theorem outside_on (hdevices : ∀ id, (db.devices id).isSome → (db'.devices id).isSome)
    (hthresholds : ∀ deviceId, db'.thresholds deviceId = db.thresholds deviceId ∨
      db.thresholds deviceId = none ∧
        db'.thresholds deviceId = some (ThresholdConfig.default deviceId))
    (halarms : AlarmsOutside db.alarms db'.alarms) :
    OutsideChange (tables.on db hkeyed) (tables.on db' hkeyed') where
  accounts _ _ h := h
  devices := hdevices
  thresholds := hthresholds
  alarms := halarms.kept
  opened := halarms.opened
  calibrations := rfl
  maintenance := rfl
  audit := ⟨[], (List.append_nil _).symm, fun _ h => (by cases h)⟩

theorem devices_commit (rows : RowWrites) (alarms : List (Option AlarmWrite)) (id : String)
    (h : (db.devices id).isSome) : ((db.commit (some rows) alarms).devices id).isSome := by
  change (Function.update db.devices rows.telemetry.deviceId _ id).isSome
  by_cases hid : id = rows.telemetry.deviceId
  · subst hid
    rw [Function.update_self, RowWrites.device]
    cases rows.loaded with
    | none => rfl
    | some loaded =>
        rw [Option.isSome_map]
        exact h
  · rw [Function.update_of_ne hid]
    exact h

theorem commit_thresholds {rows : RowWrites} (alarms : List (Option AlarmWrite)) {deviceId : String}
    (hdefault : ∀ config ∈ rows.thresholds, config = ThresholdConfig.default deviceId)
    (hviolates : db.violates rows = false) (other : String) :
    (db.commit (some rows) alarms).thresholds other = db.thresholds other ∨
      db.thresholds other = none ∧
        (db.commit (some rows) alarms).thresholds other = some (ThresholdConfig.default other) := by
  obtain ⟨-, -, -, hfree⟩ := violates_eq_false_iff.mp hviolates
  unfold Database.commit Database.writeRows
  rw [Option.elim_some]
  dsimp only
  cases hrows : rows.thresholds with
  | none => exact .inl rfl
  | some config =>
      obtain rfl := hdefault config hrows
      have hnone := hfree _ hrows
      by_cases hother : other = deviceId
      · subst hother
        exact .inr ⟨hnone, Function.update_self ..⟩
      · exact .inl (Function.update_of_ne hother ..)

/-- **`persist_telemetry` is a call of another process.** -/
theorem outside_persist (ingest : Ingest)
    (hafter : ∀ deviceId config, (runAlone format db ingest).2.thresholds deviceId = some config →
      config.deviceId = deviceId) :
    OutsideChange (tables.on db hkeyed) (tables.on (runAlone format db ingest).2 hafter) := by
  have hsame : (runAlone format db ingest).2 = db →
      OutsideChange (tables.on db hkeyed) (tables.on (runAlone format db ingest).2 hafter) := by
    intro h
    refine outside_on (fun id hid => ?_) (fun deviceId => .inl ?_) ?_
    · rw [h]
      exact hid
    · rw [h]
    · rw [h]
      exact .refl _
  cases hmessage : db.findMessage ingest.envelope.messageId with
  | some row => exact hsame (by rw [runAlone_duplicate (by rw [hmessage]; rfl)])
  | none =>
      cases howner : db.findSequence ingest.envelope.deviceId ingest.envelope.sequence with
      | some row => exact hsame (by rw [runAlone_collision hmessage (by rw [howner]; rfl)])
      | none =>
          cases hrows : ingest.rows (db.devices ingest.envelope.deviceId) with
          | none => exact hsame (by rw [runAlone_mismatch hmessage howner hrows])
          | some rows =>
              by_cases hsize : ingest.TooLarge format
              · exact hsame (by rw [runAlone_tooLarge hsize hmessage howner (by rw [hrows]; rfl)])
              · have halone : (runAlone format db ingest).2 =
                    db.commit (some (ingest.rowsOn db rows)) (ingest.alarmWrites format db) := by
                  rw [runAlone_inserted hsize hmessage howner hrows]
                have hdefault : ∀ config ∈ (ingest.rowsOn db rows).thresholds,
                    config = ThresholdConfig.default ingest.envelope.deviceId := by
                  intro config hconfig
                  unfold Ingest.rowsOn at hconfig
                  dsimp only at hconfig
                  split at hconfig
                  · cases hconfig
                  · exact (Option.some.inj hconfig).symm
                refine outside_on (fun id hid => ?_) (fun deviceId => ?_) ?_
                · rw [halone]
                  exact devices_commit _ _ id hid
                · rw [halone]
                  exact commit_thresholds _ hdefault (violates_rowsOn hmessage howner hrows) deviceId
                · rw [halone]
                  apply alarmsOutside_writes
                  intro write hwrite made hmade
                  obtain ⟨rule, -, rfl⟩ := List.mem_map.mp hwrite
                  obtain ⟨value, -, hdecided⟩ := Option.bind_eq_some_iff.mp hmade
                  exact decide_unacknowledged format rule _ value _ made hdecided

/-- **`score_device_once` is a call of another process.** -/
theorem outside_score (scoring : Scoring)
    (hafter : ∀ deviceId config, (scoreDeviceOnce db scoring).2.thresholds deviceId = some config →
      config.deviceId = deviceId) :
    OutsideChange (tables.on db hkeyed) (tables.on (scoreDeviceOnce db scoring).2 hafter) := by
  apply outside_on
  · intro id hid
    unfold scoreDeviceOnce
    split
    · exact hid
    · split <;> exact hid
  · intro deviceId
    apply Or.inl
    unfold scoreDeviceOnce
    split
    · rfl
    · split <;> rfl
  · unfold scoreDeviceOnce
    split
    · exact .refl _
    · split
      · exact .refl _
      · apply alarmsOutside_writes
        intro write hwrite made hmade
        unfold Scoring.alarmWrites at hwrite
        split at hwrite
        · cases hwrite
        · simp only [List.mem_cons, List.not_mem_nil, or_false] at hwrite
          rcases hwrite with rfl | rfl
          · exact setAlarm_unacknowledged made hmade
          · unfold Scoring.anomalyWrite at hmade
            split at hmade
            · exact setAlarm_unacknowledged made hmade
            · cases hmade

end Calls

/-! ### Routes that nobody interrupts -/

section Alone

variable {tables after : OperatorTables} {trace : List (Program.Answered OperatorOp.Answer)}
  {reply : OperatorReply}

/-- The tables of the other calls, with these messages. -/
def OperatorTables.database (tables : OperatorTables) (telemetry : List Telemetry) : Database where
  telemetry := telemetry
  devices := tables.devices
  thresholds := tables.thresholds
  alarms := tables.alarms

theorem exec_answer {op : OperatorOp} {next : op.Answer → Route}
    (hrun : (Program.call op next).Exec operatorAnswers tables trace (some reply) after) :
    ∃ answer middle later, operatorAnswers op tables answer middle ∧
      (next answer).Exec operatorAnswers middle later (some reply) after := by
  rcases Program.exec_call_iff.mp hrun with ⟨-, hnone, -⟩ | ⟨answer, middle, later, -, hanswer, hrest⟩
  · cases hnone
  · exact ⟨answer, middle, later, hanswer, hrest⟩

theorem exec_reply {reply' : OperatorReply}
    (hrun : (Program.done reply' : Route).Exec operatorAnswers tables trace (some reply) after) :
    reply = reply' ∧ after = tables := by
  obtain ⟨-, hafter, hreply⟩ := Program.exec_done_iff.mp hrun
  exact ⟨by simpa using hreply, hafter⟩

/-- A commit raises, and nothing is changed, or it is taken. -/
theorem exec_routeCommit {write : OperatorWrite} {event : Option (Nat → RouteAuditEvent)}
    {view : Nat → OperatorReply}
    (hrun : (Route.commit write event view).Exec operatorAnswers tables trace (some reply) after) :
    (reply = .error .serverError ∧ after = tables) ∨
      ∃ key, tables.Takes key write ∧ reply = view key ∧
        after = (tables.write key write).record (event.map fun made => made key) := by
  obtain ⟨answer, middle, later, hanswer, hrest⟩ := exec_answer hrun
  cases answer with
  | none =>
      obtain rfl : middle = tables := hanswer
      exact .inl (exec_reply hrest)
  | some key =>
      obtain ⟨htakes, rfl⟩ := hanswer
      obtain ⟨hreply, hafter⟩ := exec_reply hrest
      exact .inr ⟨key, htakes, hreply, hafter⟩

theorem acknowledgement_alone {alarmId : Nat} {alarm : Alarm} {user : User} {now : Int}
    (halarm : tables.alarms[alarmId]? = some alarm) :
    tables.alarms.modify alarmId (writeAcknowledgement alarm (alarm.acknowledge user now)) =
      tables.alarms.set alarmId
        (writeAcknowledgement alarm (alarm.acknowledge user now) alarm) := by
  apply List.ext_getElem?
  intro other
  by_cases hother : alarmId = other
  · subst hother
    rw [List.getElem?_modify_eq, List.getElem?_set_self (List.getElem?_eq_some_iff.mp halarm).1, halarm]
    rfl
  · rw [List.getElem?_modify_ne _ _ hother, List.getElem?_set_ne hother]

/-- **The route of an acknowledgement refines the call**: run alone it fails and changes nothing, or
answers and leaves what `acknowledgeAlarm` does. -/
theorem acknowledge_alone (telemetry : List Telemetry) (alarmId : Nat) (user : Account)
    (hby : ∀ alarm, tables.alarms[alarmId]? = some alarm → alarm.acknowledgedAt = none →
      alarm.acknowledgedBy = none)
    (hrun : (acknowledge alarmId user).Exec operatorAnswers tables trace (some reply) after) :
    (∃ error, reply = .error error ∧ after = tables) ∨
      ∃ now alarm, (acknowledgeAlarm (tables.database telemetry) alarmId user.toUser now).answer =
          .ok alarm ∧
        reply = .ok (.alarm alarmId alarm) ∧
        after = { tables with
          alarms :=
            (acknowledgeAlarm (tables.database telemetry) alarmId user.toUser now).database.alarms
          audit := tables.audit ++
            (acknowledgeAlarm (tables.database telemetry) alarmId user.toUser now).audit } := by
  obtain ⟨found, middle, later, ⟨rfl, rfl⟩, hrest⟩ := exec_answer hrun
  cases halarm : middle.alarms[alarmId]? with
  | none =>
      rw [halarm] at hrest
      obtain ⟨hreply, hafter⟩ := exec_reply hrest
      exact .inl ⟨_, hreply, hafter⟩
  | some alarm =>
      rw [halarm] at hrest
      dsimp only at hrest
      have hfound : (middle.database telemetry).alarms[alarmId]? = some alarm := halarm
      by_cases hdone : alarm.acknowledgedAt.isSome = true
      · rw [if_pos hdone] at hrest
        obtain ⟨hreply, hafter⟩ := exec_reply hrest
        have hresult : acknowledgeAlarm (middle.database telemetry) alarmId user.toUser 0 =
            ⟨.ok alarm, middle.database telemetry, []⟩ := by
          unfold acknowledgeAlarm
          simp only [hfound, hdone, if_true]
        refine .inr ⟨0, alarm, ?_⟩
        rw [hresult]
        refine ⟨rfl, hreply, ?_⟩
        rw [hafter, List.append_nil]
        rfl
      · rw [if_neg hdone] at hrest
        have hat : alarm.acknowledgedAt = none := by simpa using hdone
        obtain ⟨now, middle', later', hsame, hcommit⟩ := exec_answer hrest
        obtain rfl : middle' = middle := hsame
        by_cases hsize : (!fitsNotification (acknowledgedEvent alarm alarmId user.toUser)) = true
        · rw [if_pos hsize] at hcommit
          obtain ⟨hreply, hafter⟩ := exec_reply hcommit
          exact .inl ⟨_, hreply, hafter⟩
        · rw [if_neg hsize] at hcommit
          rcases exec_routeCommit hcommit with ⟨hreply, hafter⟩ | ⟨key, -, hreply, hafter⟩
          · exact .inl ⟨_, hreply, hafter⟩
          · refine .inr ⟨now, alarm.acknowledge user.toUser now, ?_⟩
            have hwritten : writeAcknowledgement alarm (alarm.acknowledge user.toUser now) alarm =
                alarm.acknowledge user.toUser now := by
              unfold writeAcknowledgement Alarm.acknowledge
              simp [hat, hby alarm halarm hat]
            have hresult : acknowledgeAlarm (middle'.database telemetry) alarmId user.toUser now =
                ⟨.ok (alarm.acknowledge user.toUser now),
                  { middle'.database telemetry with
                    alarms := middle'.alarms.set alarmId (alarm.acknowledge user.toUser now) },
                  [alarmAcknowledged alarm alarmId user]⟩ := by
              unfold acknowledgeAlarm
              simp only [hfound, hdone, hsize]
              rfl
            rw [hresult]
            refine ⟨rfl, hreply, ?_⟩
            rw [hafter, OperatorTables.write, acknowledgement_alone halarm, hwritten]
            rfl

theorem updateThresholds_ok {format : FloatFormat} {db : Database} {deviceId : String}
    {request : ThresholdConfigUpdate} {user : User} {held : ThresholdConfig}
    (hvalid : request.isValid = true) (hadmin : user.role = "admin")
    (hdevice : (db.devices deviceId).isSome) (hheld : request.columns deviceId user = some held) :
    updateThresholds format db deviceId request user =
      { answer := .ok held
        database := { db with thresholds := Function.update db.thresholds deviceId (some held) }
        audit := [{
          actor := user.username
          action := "thresholds_updated"
          targetType := "device"
          targetId := deviceId
          details := request.dump format }] } := by
  unfold updateThresholds
  rw [if_neg (by simp [hvalid]), if_neg (by simp [hadmin]),
    if_neg (by simp [Option.isNone_iff_eq_none, ← Option.isSome_iff_ne_none, hdevice]), hheld]

/-- **The route of an update refines the call**: run alone it fails and changes nothing, or stores the
row and the event that `updateThresholds` does. -/
theorem changeThresholds_alone (format : FloatFormat) (telemetry : List Telemetry) (deviceId : String)
    {request : ThresholdConfigUpdate} (hvalid : request.isValid = true) (user : Account)
    (hrun : (changeThresholds format deviceId request user).Exec operatorAnswers tables trace
      (some reply) after) :
    (∃ error, reply = .error error ∧ after = tables) ∨
      ∃ held, (updateThresholds format (tables.database telemetry) deviceId request user.toUser).answer =
          .ok held ∧
        reply = .ok (.thresholds held) ∧ after.thresholds =
          (updateThresholds format (tables.database telemetry) deviceId request
            user.toUser).database.thresholds ∧
        after.alarms = tables.alarms ∧ after.audit = tables.audit ++
          (updateThresholds format (tables.database telemetry) deviceId request user.toUser).audit := by
  unfold changeThresholds Route.withAdmin at hrun
  by_cases hadmin : user.role = "admin"
  · rw [if_neg (not_not.mpr hadmin)] at hrun
    obtain ⟨device, middle, later, ⟨hdevice, rfl⟩, hrest⟩ := exec_answer hrun
    cases device with
    | none =>
        obtain ⟨hreply, hafter⟩ := exec_reply hrest
        exact .inl ⟨_, hreply, hafter⟩
    | some device =>
        obtain ⟨found, middle', later', ⟨rfl, rfl⟩, hupdate⟩ := exec_answer hrest
        cases hheld : request.columns deviceId user.toUser with
        | none =>
            rw [hheld] at hupdate
            obtain ⟨hreply, hafter⟩ := exec_reply hupdate
            exact .inl ⟨_, hreply, hafter⟩
        | some held =>
            rw [hheld] at hupdate
            have hresult := @updateThresholds_ok format (middle'.database telemetry) deviceId request
              user.toUser held hvalid hadmin (Option.isSome_of_mem hdevice.symm) hheld
            have hname := columns_deviceId hheld
            rcases exec_routeCommit hupdate with ⟨hreply, hafter⟩ | ⟨key, -, hreply, hafter⟩
            · exact .inl ⟨_, hreply, hafter⟩
            · refine .inr ⟨held, ?_⟩
              rw [hresult]
              refine ⟨rfl, hreply.trans (shown_columns hvalid hheld), ?_, ?_, ?_⟩
              · rw [hafter]
                cases hfound : middle'.thresholds deviceId with
                | none =>
                    change Function.update middle'.thresholds held.deviceId (some held) = _
                    rw [hname]
                    rfl
                | some loaded =>
                    have hloaded := middle'.keyed deviceId loaded hfound
                    change Function.update middle'.thresholds loaded.deviceId
                      ((middle'.thresholds loaded.deviceId).map (writeThresholds loaded held)) = _
                    rw [hloaded, hfound, Option.map_some,
                      writeThresholds_same (hname.trans hloaded.symm)]
                    rfl
              · rw [hafter]
                cases middle'.thresholds deviceId <;> rfl
              · rw [hafter, record_audit, write_audit]
                rfl
  · rw [if_pos hadmin] at hrun
    obtain ⟨hreply, hafter⟩ := exec_reply hrun
    exact .inl ⟨_, hreply, hafter⟩

end Alone

end IiotMonitoring
