import IiotMonitoring.Proof.AlarmLifecycle

/-!
# The worker's alarms

What a scoring call makes of the sensor alarm and of the anomaly alarm of its device. The two alarms
are different rows, so neither write touches what the other one wrote.
-/

namespace IiotMonitoring

section SetAlarm

variable {db : Database} {deviceId : String} {code : AlarmCode} {source : String}

theorem activeAlarmFrom_source {key : Nat} {alarm : Alarm}
    (hactive : db.activeAlarmFrom deviceId code source = some (key, alarm)) : alarm.source = source := by
  rw [Database.activeAlarmFrom] at hactive
  split at hactive
  · cases hactive
  · rename_i place hplace
    obtain ⟨hlength, hfirst, -⟩ := List.findIdx?_eq_some_iff_getElem.mp hplace
    rw [List.getElem?_eq_getElem hlength] at hactive
    obtain ⟨rfl, rfl⟩ := Prod.mk.inj (Option.some.inj hactive)
    exact of_decide_eq_true (Bool.and_eq_true_iff.mp hfirst).2

/-- An alarm that the call did not find stays as it is. -/
theorem setAlarm_other {alarms : List Alarm} {key : Nat} {alarm : Alarm}
    (hkey : alarms[key]? = some alarm)
    (hother : ∀ found, db.activeAlarmFrom deviceId code source = some (key, found) → False)
    (active : Bool) (summary : String) (openedAt now : Int) :
    (Database.writeAlarms alarms (setAlarm deviceId code source active summary openedAt now
      (db.activeAlarmFrom deviceId code source)))[key]? = some alarm := by
  have hlength := (List.getElem?_eq_some_iff.mp hkey).1
  cases hfound : db.activeAlarmFrom deviceId code source with
  | none =>
      cases active with
      | true => exact (List.getElem?_append_left hlength).trans hkey
      | false => exact hkey
  | some found =>
      obtain ⟨place, loaded⟩ := found
      have hplace : place ≠ key := by
        rintro rfl
        exact hother loaded hfound
      cases active <;> exact (List.getElem?_modify_ne _ _ hplace).trans hkey

/-- The alarm that `_set_alarm` raises: a new row, or the active one. -/
theorem setAlarm_raised (summary : String) (openedAt now : Int) :
    ∃ (key : Nat) (alarm : Alarm),
      (Database.writeAlarms db.alarms (setAlarm deviceId code source true summary openedAt now
        (db.activeAlarmFrom deviceId code source)))[key]? = some alarm ∧
      Database.isActive deviceId code alarm = true ∧ alarm.source = source ∧
      alarm.summary = sliceTo 240 summary ∧
      ∀ loaded : Alarm, db.alarms[key]? = some loaded → loaded.code = code := by
  cases hfound : db.activeAlarmFrom deviceId code source with
  | none =>
      refine ⟨db.alarms.length, _, List.getElem?_concat_length, ?_, rfl, rfl, ?_⟩
      · exact isActive_iff.mpr ⟨rfl, rfl, rfl⟩
      · intro loaded hloaded
        rw [List.getElem?_eq_none le_rfl] at hloaded
        cases hloaded
  | some found =>
      obtain ⟨key, loaded⟩ := found
      obtain ⟨hkey, hactive⟩ := activeAlarmFrom_some hfound
      have hheld : writeAlarm loaded { loaded with summary := sliceTo 240 summary } loaded =
          { loaded with summary := sliceTo 240 summary } := by
        rw [writeAlarm]
        simp only [ite_held, if_true]
      have hsource := activeAlarmFrom_source hfound
      refine ⟨key, { loaded with summary := sliceTo 240 summary }, ?_, hactive, hsource, rfl, ?_⟩
      · change (db.alarms.modify key _)[key]? = _
        rw [List.getElem?_modify_eq, hkey]
        exact congrArg some hheld
      · intro loaded' hloaded'
        rw [hkey] at hloaded'
        cases hloaded'
        exact (isActive_iff.mp hactive).2.1

/-- The alarm that `_set_alarm` clears. -/
theorem setAlarm_cleared {key : Nat} {alarm : Alarm}
    (hfound : db.activeAlarmFrom deviceId code source = some (key, alarm)) (summary : String)
    (openedAt now : Int) :
    (Database.writeAlarms db.alarms (setAlarm deviceId code source false summary openedAt now
      (db.activeAlarmFrom deviceId code source)))[key]? =
        some { alarm with state := .cleared, clearedAt := some now } := by
  obtain ⟨hkey, hactive⟩ := activeAlarmFrom_some hfound
  have hheld : writeAlarm alarm { alarm with state := .cleared, clearedAt := some now } alarm =
      { alarm with state := .cleared, clearedAt := some now } := by
    rw [writeAlarm]
    simp only [ite_held, if_true]
  rw [hfound]
  change (db.alarms.modify key _)[key]? = _
  rw [List.getElem?_modify_eq, hkey]
  exact congrArg some hheld

end SetAlarm

/-! ### A call -/

section Score

variable {db : Database} {scoring : Scoring} {latest : ScoringTarget}

/-- The alarms that the commit of a call leaves. -/
def Scoring.alarms (scoring : Scoring) (db : Database) : List Alarm :=
  (scoring.alarmWrites db).foldl Database.writeAlarms db.alarms

theorem Scoring.alarms_eq (hlatest : scoring.targets.getLast? = some latest) :
    scoring.alarms db = Database.writeAlarms
      (Database.writeAlarms db.alarms (scoring.sensorWrite db latest)) (scoring.anomalyWrite db) := by
  rw [alarms, alarmWrites, hlatest]
  rfl

/-- What is not the active anomaly alarm is kept by the second write. -/
theorem anomalyWrite_other {alarms : List Alarm} {key : Nat} {alarm : Alarm}
    (hkey : alarms[key]? = some alarm)
    (hcode : ∀ loaded : Alarm, db.alarms[key]? = some loaded → loaded.code ≠ .anomalyDetected) :
    (Database.writeAlarms alarms (scoring.anomalyWrite db))[key]? = some alarm := by
  rw [Scoring.anomalyWrite]
  cases scoring.modelReady with
  | false => exact hkey
  | true =>
      apply setAlarm_other hkey
      intro found hfound
      obtain ⟨hloaded, hactive⟩ := activeAlarmFrom_some hfound
      exact hcode found hloaded (isActive_iff.mp hactive).2.1

/-- **The sensor alarm is raised** where the last target has diagnostics. -/
theorem sensor_raised (hlatest : scoring.targets.getLast? = some latest)
    (hdiagnostics : latest.diagnostics ≠ []) :
    ∃ alarm ∈ scoring.alarms db,
      Database.isActive scoring.deviceId .sensorDiagnostic alarm = true ∧
      alarm.source = "sensor_rule" ∧
      alarm.summary = sliceTo 240 (diagnosticReason latest.diagnostics) := by
  have hsome : latest.diagnostics.isEmpty = false := List.isEmpty_eq_false_iff.mpr hdiagnostics
  obtain ⟨key, alarm, hkey, hactive, hsource, hsummary, hcode⟩ :=
    @setAlarm_raised db scoring.deviceId .sensorDiagnostic "sensor_rule"
      (diagnosticReason latest.diagnostics) scoring.openedAt scoring.sensorNow
  refine ⟨alarm, ?_, hactive, hsource, hsummary⟩
  rw [Scoring.alarms_eq hlatest, Scoring.sensorWrite, hsome]
  apply List.mem_of_getElem? (anomalyWrite_other hkey _)
  intro loaded hloaded hanomaly
  rw [hcode loaded hloaded] at hanomaly
  cases hanomaly

/-- **The sensor alarm is cleared** where the last target has none. -/
theorem sensor_cleared (hlatest : scoring.targets.getLast? = some latest)
    (hdiagnostics : latest.diagnostics = []) {key : Nat} {alarm : Alarm}
    (hfound : db.activeAlarmFrom scoring.deviceId .sensorDiagnostic "sensor_rule" = some (key, alarm)) :
    (scoring.alarms db)[key]? =
      some { alarm with state := .cleared, clearedAt := some scoring.sensorNow } := by
  rw [Scoring.alarms_eq hlatest, Scoring.sensorWrite, hdiagnostics]
  apply anomalyWrite_other (setAlarm_cleared hfound _ _ _)
  intro loaded hloaded hanomaly
  obtain ⟨hkey, hactive⟩ := activeAlarmFrom_some hfound
  rw [hkey] at hloaded
  cases hloaded
  rw [(isActive_iff.mp hactive).2.1] at hanomaly
  cases hanomaly

end Score

end IiotMonitoring
