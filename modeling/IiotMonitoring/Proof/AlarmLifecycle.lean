import IiotMonitoring.Proof.IngestAlone
import IiotMonitoring.Server.Alarms

/-!
# The life of an alarm

Every call leaves a row as it is, opens a row, rewrites or clears an active one, or acknowledges it.
The lifecycle follows from what each of these does to one row, and at most one alarm of a device and
code stays active because all writes of a call fit the alarms it read.
-/

namespace IiotMonitoring

/-- Opened and cleared by a metric's thresholds. -/
def AlarmCode.isThreshold : AlarmCode → Bool
  | .temperatureThreshold | .vibrationThreshold | .currentThreshold => true
  | .sensorDiagnostic | .anomalyDetected => false

/-- Who opens alarms of the code. -/
def AlarmCode.source : AlarmCode → String
  | .temperatureThreshold | .vibrationThreshold | .currentThreshold => "threshold"
  | .sensorDiagnostic => "sensor_rule"
  | .anomalyDetected => "anomaly"

/-- Each warning threshold is below its critical threshold. -/
structure ThresholdConfig.Ordered (config : ThresholdConfig) : Prop where
  temperature : config.temperatureWarningC < config.temperatureCriticalC
  vibration : config.vibrationWarningMps2 < config.vibrationCriticalMps2
  current : config.currentWarningA < config.currentCriticalA

/-- What holds of the tables between calls. -/
structure AlarmsSound (db : Database) : Prop where
  one : OneActive db.alarms
  cleared : ∀ alarm ∈ db.alarms, alarm.clearedAt.isSome ↔ alarm.state = .cleared
  sources : ∀ alarm ∈ db.alarms, alarm.source = alarm.code.source
  ordered : ∀ deviceId config, db.thresholds deviceId = some config → config.Ordered

/-- A reading that the call stores for the device and code, under the thresholds as they are now. -/
def HasReading (db : Database) (call : AlarmCall) (deviceId : String) (code : AlarmCode)
    (property : MetricRule → FloatNumber ℚ → Prop) : Prop :=
  ∃ ingest rule value, call = .persist ingest ∧ ingest.envelope.deviceId = deviceId ∧
    rule ∈ ingest.metricRules (ingest.config db) ∧ rule.code = code ∧ rule.value = some value ∧
    property rule value

/-- What a call makes of a row, where `none` is a row that does not exist yet. -/
inductive AlarmChange (format : FloatFormat) (db : Database) (call : AlarmCall) (key : Nat) :
    Option Alarm → Alarm → Prop where
  | kept (alarm : Alarm) : AlarmChange format db call key (some alarm) alarm
  | opened (alarm : Alarm) (hstate : alarm.state = .active) (hcleared : alarm.clearedAt = none)
      (hsource : alarm.source = alarm.code.source)
      (hreading : alarm.code.isThreshold = true →
        HasReading db call alarm.deviceId alarm.code fun rule value =>
          value.atLeast rule.warning = true) :
      AlarmChange format db call key none alarm
  | rewritten (alarm : Alarm) (severity : Severity) (summary : String)
      (hstate : alarm.state = .active) (hcall : ∀ alarmId user now, call ≠ .acknowledge alarmId user now) :
      AlarmChange format db call key (some alarm)
        { alarm with severity := severity, summary := summary }
  | cleared (alarm : Alarm) (now : Int) (hstate : alarm.state = .active)
      (hcall : ∀ alarmId user now, call ≠ .acknowledge alarmId user now)
      (hreading : alarm.code.isThreshold = true →
        HasReading db call alarm.deviceId alarm.code fun rule value =>
          value.below (rule.clearBelow format) = true) :
      AlarmChange format db call key (some alarm)
        { alarm with state := .cleared, clearedAt := some now }
  | acknowledged (alarm : Alarm) (user : User) (now : Int) (hcall : call = .acknowledge key user now)
      (hfirst : alarm.acknowledgedAt = none) :
      AlarmChange format db call key (some alarm) (alarm.acknowledge user now)

/-- What the writes of a call make of the rows they are for. -/
def WriteSound (format : FloatFormat) (db : Database) (call : AlarmCall) :
    Option AlarmWrite → Prop
  | none => True
  | some (.insert alarm) => ∀ key, AlarmChange format db call key none alarm
  | some (.update _ loaded held) => ∀ key, AlarmChange format db call key (some loaded) held

/-- Writes of a call that fit the tables it reads, on alarms of different codes. -/
structure CallWrites (format : FloatFormat) (db : Database) (call : AlarmCall)
    (writes : List (Option AlarmWrite)) : Prop where
  fits : ∀ write ∈ writes, AlarmFits db.alarms write
  apart : writes.Pairwise AlarmWrite.Apart
  sound : ∀ write ∈ writes, WriteSound format db call write

section Writes

variable {format : FloatFormat} {db : Database} {call : AlarmCall} {alarms : List Alarm}

theorem length_writeAlarms_le (alarms : List Alarm) (write : Option AlarmWrite) :
    alarms.length ≤ (Database.writeAlarms alarms write).length := by
  cases write with
  | none => exact le_rfl
  | some write =>
      cases write with
      | insert alarm => simp [writeAlarms_insert]
      | update key loaded held => simp [writeAlarms_update]

theorem length_foldl_writeAlarms_le (writes : List (Option AlarmWrite)) (alarms : List Alarm) :
    alarms.length ≤ (writes.foldl Database.writeAlarms alarms).length := by
  induction writes generalizing alarms with
  | nil => exact le_rfl
  | cons write writes ih =>
      exact (length_writeAlarms_le alarms write).trans (ih (Database.writeAlarms alarms write))

/-- A row after a write that fits: as before, or as the write holds it. -/
theorem row_writeAlarms {write : Option AlarmWrite} {key : Nat} {alarm' : Alarm}
    (hfits : AlarmFits alarms write)
    (hkey : (Database.writeAlarms alarms write)[key]? = some alarm') :
    alarms[key]? = some alarm' ∨
      (alarms[key]? = none ∧ write = some (.insert alarm')) ∨
      ∃ loaded, alarms[key]? = some loaded ∧ write = some (.update key loaded alarm') := by
  cases write with
  | none => exact .inl hkey
  | some write =>
      cases write with
      | insert alarm =>
          rw [writeAlarms_insert] at hkey
          rcases mem_insert hkey with hold | ⟨hlast, rfl⟩
          · exact .inl hold
          · exact .inr (.inl ⟨by simp [hlast], rfl⟩)
      | update place loaded held =>
          obtain ⟨hplace, -, hheld⟩ := hfits
          rw [writeAlarms_update] at hkey
          by_cases hsame : place = key
          · subst hsame
            rw [List.getElem?_modify_eq, hplace] at hkey
            have hnew := Option.some.inj hkey
            rw [hheld] at hnew
            exact .inr (.inr ⟨loaded, hplace, by rw [hnew]⟩)
          · rw [List.getElem?_modify_ne _ _ hsame] at hkey
            exact .inl hkey

/-- A row after all writes of a call: at most one of them is for it. -/
theorem row_foldl_writeAlarms {writes : List (Option AlarmWrite)} {key : Nat} {alarm' : Alarm}
    (hfits : ∀ write ∈ writes, AlarmFits alarms write) (hapart : writes.Pairwise AlarmWrite.Apart)
    (hkey : (writes.foldl Database.writeAlarms alarms)[key]? = some alarm') :
    alarms[key]? = some alarm' ∨
      (alarms[key]? = none ∧ some (.insert alarm') ∈ writes) ∨
      ∃ loaded, alarms[key]? = some loaded ∧ some (.update key loaded alarm') ∈ writes := by
  induction writes generalizing alarms with
  | nil => exact .inl hkey
  | cons write writes ih =>
      have hwrite := hfits write (List.mem_cons_self ..)
      rcases ih (fits_rest hfits hapart) hapart.of_cons hkey with hrow | ⟨hnone, hmem⟩ | ⟨loaded, -, hmem⟩
      · rcases row_writeAlarms hwrite hrow with hold | ⟨hnone, rfl⟩ | ⟨loaded, hloaded, rfl⟩
        · exact .inl hold
        · exact .inr (.inl ⟨hnone, List.mem_cons_self ..⟩)
        · exact .inr (.inr ⟨loaded, hloaded, List.mem_cons_self ..⟩)
      · have hlength := length_writeAlarms_le alarms write
        rw [List.getElem?_eq_none_iff] at hnone ⊢
        exact .inr (.inl ⟨hlength.trans hnone, List.mem_cons_of_mem _ hmem⟩)
      · have hloaded := (hfits _ (List.mem_cons_of_mem _ hmem)).1
        exact .inr (.inr ⟨loaded, hloaded, List.mem_cons_of_mem _ hmem⟩)

theorem CallWrites.change {writes : List (Option AlarmWrite)} {key : Nat} {alarm' : Alarm}
    (hwrites : CallWrites format db call writes)
    (hkey : (writes.foldl Database.writeAlarms db.alarms)[key]? = some alarm') :
    AlarmChange format db call key db.alarms[key]? alarm' := by
  rcases row_foldl_writeAlarms hwrites.fits hwrites.apart hkey with hrow | ⟨hnone, hmem⟩ | ⟨loaded, hloaded, hmem⟩
  · rw [hrow]
    exact .kept alarm'
  · rw [hnone]
    exact hwrites.sound _ hmem key
  · rw [hloaded]
    exact hwrites.sound _ hmem key

end Writes

/-! ### `persist_telemetry` -/

theorem ThresholdConfig.default_ordered (deviceId : String) :
    (ThresholdConfig.default deviceId).Ordered where
  temperature := by norm_num [ThresholdConfig.default]
  vibration := by norm_num [ThresholdConfig.default]
  current := by norm_num [ThresholdConfig.default]

section Persist

variable {format : FloatFormat} {db : Database} {ingest : Ingest}

theorem AlarmsSound.config_ordered (hsound : AlarmsSound db) : (ingest.config db).Ordered := by
  unfold Ingest.config
  cases hconfig : db.thresholds ingest.envelope.deviceId with
  | none => exact ThresholdConfig.default_ordered _
  | some config => exact hsound.ordered _ config hconfig

theorem metricRule_facts {config : ThresholdConfig} {rule : MetricRule} (hordered : config.Ordered)
    (hrule : rule ∈ ingest.metricRules config) :
    rule.code.source = "threshold" ∧ rule.warning < rule.critical := by
  unfold Ingest.metricRules at hrule
  simp only [List.mem_cons, List.not_mem_nil, or_false] at hrule
  obtain rfl | rfl | rfl := hrule
  · exact ⟨rfl, hordered.temperature⟩
  · exact ⟨rfl, hordered.vibration⟩
  · exact ⟨rfl, hordered.current⟩

/-- A value that calls for a severity is at or above the warning threshold. -/
theorem atLeast_warning_of_desired {rule : MetricRule} {value : FloatNumber ℚ} {severity : Severity}
    (hbelow : rule.warning < rule.critical) (hdesired : rule.desired value = some severity) :
    value.atLeast rule.warning = true := by
  unfold MetricRule.desired at hdesired
  split at hdesired
  · rename_i hcritical
    exact FloatNumber.atLeast_of_le hbelow.le hcritical
  · split at hdesired
    · assumption
    · cases hdesired

theorem alarmWrite_sound (hsound : AlarmsSound db) {rule : MetricRule}
    (hrule : rule ∈ ingest.metricRules (ingest.config db)) :
    WriteSound format db (.persist ingest) (ingest.alarmWrite format db rule) := by
  obtain ⟨hsource, hbelow⟩ := metricRule_facts hsound.config_ordered hrule
  unfold Ingest.alarmWrite
  cases hvalue : rule.value with
  | none => trivial
  | some value =>
      have hcall : ∀ alarmId user now,
          AlarmCall.persist ingest ≠ .acknowledge alarmId user now := by
        intro alarmId user now h
        cases h
      cases hactive : db.activeAlarm ingest.envelope.deviceId rule.code with
      | none =>
          rw [Option.bind_some]
          unfold MetricRule.decide
          cases hdesired : rule.desired value with
          | none => trivial
          | some severity =>
              intro key
              refine .opened _ rfl rfl hsource.symm ?_
              intro _
              exact ⟨ingest, rule, value, rfl, rfl, hrule, rfl, hvalue,
                atLeast_warning_of_desired hbelow hdesired⟩
      | some found =>
          obtain ⟨place, alarm⟩ := found
          obtain ⟨hdevice, hcode, hstate⟩ := isActive_iff.mp (activeAlarm_some hactive).2
          rw [Option.bind_some]
          unfold MetricRule.decide
          cases hdesired : rule.desired value with
          | some severity =>
              intro key
              exact .rewritten alarm severity _ hstate hcall
          | none =>
              dsimp only
              by_cases hclear : value.below (rule.clearBelow format) = true
              · rw [if_pos hclear]
                intro key
                refine .cleared alarm _ hstate hcall ?_
                intro _
                exact ⟨ingest, rule, value, rfl, hdevice.symm, hrule, hcode.symm, hvalue, hclear⟩
              · rw [if_neg hclear]
                trivial

/-- What a call of `persist_telemetry` does to the two tables. -/
theorem persist_tables (format : FloatFormat) (db : Database) (ingest : Ingest) :
    (runAlone format db ingest).2 = db ∨
      (runAlone format db ingest).2.alarms =
          (ingest.alarmWrites format db).foldl Database.writeAlarms db.alarms ∧
        ∀ deviceId config, (runAlone format db ingest).2.thresholds deviceId = some config →
          db.thresholds deviceId = some config ∨ config = ThresholdConfig.default deviceId := by
  rcases runAlone_cases format ingest db with
    ⟨halone, -⟩ | ⟨error, -, halone⟩ | ⟨rows, -, hdefault, halone⟩
  · exact .inl (by rw [halone])
  · exact .inl (by rw [halone])
  · refine .inr ⟨by rw [halone]; rfl, ?_⟩
    intro deviceId config hconfig
    rw [halone] at hconfig
    unfold Database.commit Database.writeRows at hconfig
    rw [Option.elim_some] at hconfig
    dsimp only at hconfig
    cases hnew : rows.thresholds with
    | none =>
        rw [hnew] at hconfig
        exact .inl hconfig
    | some new =>
        rw [hnew] at hconfig
        obtain rfl := hdefault new hnew
        by_cases hdevice : deviceId = ingest.envelope.deviceId
        · subst hdevice
          have hself : Function.update db.thresholds ingest.envelope.deviceId
              (some (ThresholdConfig.default ingest.envelope.deviceId)) ingest.envelope.deviceId =
                some config := hconfig
          rw [Function.update_self] at hself
          exact .inr (Option.some.inj hself).symm
        · have hother : Function.update db.thresholds ingest.envelope.deviceId
              (some (ThresholdConfig.default ingest.envelope.deviceId)) deviceId = some config :=
            hconfig
          rw [Function.update_of_ne hdevice] at hother
          exact .inl hother

end Persist

/-! ### `score_device_once` -/

section Score

variable {format : FloatFormat} {db : Database} {deviceId : String} {code : AlarmCode}

theorem activeAlarmFrom_some {source : String} {key : Nat} {alarm : Alarm}
    (hactive : db.activeAlarmFrom deviceId code source = some (key, alarm)) :
    db.alarms[key]? = some alarm ∧ Database.isActive deviceId code alarm = true := by
  unfold Database.activeAlarmFrom at hactive
  split at hactive
  · cases hactive
  · rename_i place hplace
    obtain ⟨hlength, hfirst, -⟩ := List.findIdx?_eq_some_iff_getElem.mp hplace
    rw [List.getElem?_eq_getElem hlength] at hactive
    obtain ⟨rfl, rfl⟩ := Prod.mk.inj (Option.some.inj hactive)
    exact ⟨List.getElem?_eq_getElem hlength, (Bool.and_eq_true_iff.mp hfirst).1⟩

/-- Every alarm of the code has its source, so none is active where none is found. -/
theorem AlarmsSound.activeAlarmFrom_none (hsound : AlarmsSound db)
    (hactive : db.activeAlarmFrom deviceId code code.source = none) :
    ∀ alarm ∈ db.alarms, Database.isActive deviceId code alarm = false := by
  intro alarm halarm
  apply Bool.eq_false_iff.mpr
  intro hstate
  have hsource := hsound.sources alarm halarm
  rw [(isActive_iff.mp hstate).2.1] at hsource
  unfold Database.activeAlarmFrom at hactive
  split at hactive
  · rename_i hnone
    have hno := List.findIdx?_eq_none_iff.mp hnone alarm halarm
    simp [hstate, hsource] at hno
  · rename_i place hplace
    obtain ⟨hlength, -, -⟩ := List.findIdx?_eq_some_iff_getElem.mp hplace
    rw [List.getElem?_eq_getElem hlength] at hactive
    cases hactive

/-- A write of `_set_alarm` fits, is for its device and code, and does what a call may do. -/
theorem setAlarm_sound {active : Bool} {summary : String} {openedAt now : Int} (hsound : AlarmsSound db)
    (hworker : code.isThreshold = false) {call : AlarmCall}
    (hcall : ∀ alarmId user now, call ≠ .acknowledge alarmId user now) {write : Option AlarmWrite}
    (hwrite : setAlarm deviceId code code.source active summary openedAt now
      (db.activeAlarmFrom deviceId code code.source) = write) :
    AlarmFits db.alarms write ∧ (∀ write' ∈ write, write'.target = (deviceId, code)) ∧
      WriteSound format db call write := by
  subst hwrite
  unfold setAlarm
  cases hfound : db.activeAlarmFrom deviceId code code.source with
  | none =>
      cases active with
      | true =>
          refine ⟨hsound.activeAlarmFrom_none hfound, ?_, ?_⟩
          · intro write' hmem
            obtain rfl := Option.some.inj hmem
            rfl
          · intro key
            refine .opened _ rfl rfl rfl ?_
            intro hthreshold
            rw [hworker] at hthreshold
            cases hthreshold
      | false => exact ⟨trivial, by simp, trivial⟩
  | some found =>
      obtain ⟨key, alarm⟩ := found
      obtain ⟨hkey, hsome⟩ := activeAlarmFrom_some hfound
      obtain ⟨hdevice, hcode, hstate⟩ := isActive_iff.mp hsome
      cases active with
      | true =>
          refine ⟨⟨hkey, hstate, ?_⟩, ?_, ?_⟩
          · unfold writeAlarm
            simp only [ite_held, if_true]
          · intro write' hmem
            obtain rfl := Option.some.inj hmem
            exact Prod.ext hdevice hcode
          · intro place
            exact .rewritten alarm alarm.severity _ hstate hcall
      | false =>
          refine ⟨⟨hkey, hstate, ?_⟩, ?_, ?_⟩
          · unfold writeAlarm
            simp only [ite_held, if_true]
          · intro write' hmem
            obtain rfl := Option.some.inj hmem
            exact Prod.ext hdevice hcode
          · intro place
            refine .cleared alarm now hstate hcall ?_
            intro hthreshold
            rw [hcode, hworker] at hthreshold
            cases hthreshold

theorem score_writes (format : FloatFormat) (hsound : AlarmsSound db) (scoring : Scoring) :
    CallWrites format db (.score scoring) (scoring.alarmWrites db) := by
  have hcall : ∀ alarmId user now, AlarmCall.score scoring ≠ .acknowledge alarmId user now := by
    intro alarmId user now h
    cases h
  unfold Scoring.alarmWrites
  cases scoring.targets.getLast? with
  | none => exact ⟨by simp, by simp, by simp⟩
  | some latest =>
      obtain ⟨hfits, htarget, hwrite⟩ := @setAlarm_sound format db scoring.deviceId .sensorDiagnostic
        _ _ _ _ hsound rfl _ hcall (scoring.sensorWrite db latest) rfl
      have hanomaly : AlarmFits db.alarms (scoring.anomalyWrite db) ∧
          (∀ write' ∈ scoring.anomalyWrite db,
            write'.target = (scoring.deviceId, AlarmCode.anomalyDetected)) ∧
          WriteSound format db (.score scoring) (scoring.anomalyWrite db) := by
        unfold Scoring.anomalyWrite
        by_cases hready : scoring.modelReady = true
        · rw [if_pos hready]
          exact @setAlarm_sound format db scoring.deviceId .anomalyDetected _ _ _ _ hsound rfl _ hcall
            _ rfl
        · rw [if_neg hready]
          exact ⟨trivial, by simp, trivial⟩
      obtain ⟨hfits', htarget', hwrite'⟩ := hanomaly
      refine ⟨by simp [hfits, hfits'], ?_, by simp [hwrite, hwrite']⟩
      rw [List.pairwise_pair]
      intro left hleft right hright hsame
      rw [htarget left hleft, htarget' right hright] at hsame
      cases hsame

end Score

/-! ### Any call -/

section Calls

variable {format : FloatFormat} {db : Database} {call : AlarmCall}

/-- A call that opens or updates alarms does so by writes that fit. -/
theorem alarmStep_writes (format : FloatFormat) (hsound : AlarmsSound db)
    (hcall : ∀ alarmId user now, call ≠ .acknowledge alarmId user now) :
    ∃ writes, CallWrites format db call writes ∧
      (alarmStep format db call).alarms = writes.foldl Database.writeAlarms db.alarms := by
  have hnone : CallWrites format db call [] := ⟨by simp, by simp, by simp⟩
  cases call with
  | persist ingest =>
      rw [alarmStep_persist]
      rcases persist_tables format db ingest with hsame | ⟨halarms, -⟩
      · exact ⟨[], hnone, by rw [hsame]; rfl⟩
      · refine ⟨ingest.alarmWrites format db, ⟨alarmWrites_fit, alarmWrites_apart, ?_⟩, halarms⟩
        intro write hwrite
        obtain ⟨rule, hrule, rfl⟩ := List.mem_map.mp hwrite
        exact alarmWrite_sound hsound hrule
  | score scoring =>
      rw [alarmStep_score]
      unfold scoreDeviceOnce
      by_cases hempty : scoring.targets.isEmpty = true
      · rw [if_pos hempty]
        exact ⟨[], hnone, rfl⟩
      · rw [if_neg hempty]
        by_cases hsize : (!fitsNotification scoring.event) = true
        · rw [if_pos hsize]
          exact ⟨[], hnone, rfl⟩
        · rw [if_neg hsize]
          exact ⟨scoring.alarmWrites db, score_writes format hsound scoring, rfl⟩
  | update deviceId request user =>
      refine ⟨[], hnone, ?_⟩
      rw [alarmStep_update]
      unfold updateThresholds
      repeat' split
      all_goals rfl
  | acknowledge alarmId user now => exact absurd rfl (hcall alarmId user now)

/-- An acknowledgement changes nothing, or two columns of a row that has not been acknowledged. -/
theorem acknowledge_cases (db : Database) (alarmId : Nat) (user : User) (now : Int) :
    (acknowledgeAlarm db alarmId user now).database = db ∨
      ∃ alarm, db.alarms[alarmId]? = some alarm ∧ alarm.acknowledgedAt = none ∧
        (acknowledgeAlarm db alarmId user now).database =
          { db with alarms := db.alarms.set alarmId (alarm.acknowledge user now) } := by
  unfold acknowledgeAlarm
  cases halarm : db.alarms[alarmId]? with
  | none => exact .inl rfl
  | some alarm =>
      dsimp only
      by_cases hdone : alarm.acknowledgedAt.isSome = true
      · rw [if_pos hdone]
        exact .inl rfl
      · rw [if_neg hdone]
        by_cases hsize : (!fitsNotification (acknowledgedEvent alarm alarmId user)) = true
        · rw [if_pos hsize]
          exact .inl rfl
        · rw [if_neg hsize]
          exact .inr ⟨alarm, rfl, by simpa using hdone, rfl⟩

/-- **What a call makes of a row.** -/
theorem alarm_change (hsound : AlarmsSound db) {key : Nat} {alarm' : Alarm}
    (hkey : (alarmStep format db call).alarms[key]? = some alarm') :
    AlarmChange format db call key db.alarms[key]? alarm' := by
  by_cases hcall : ∃ alarmId user now, call = .acknowledge alarmId user now
  · obtain ⟨alarmId, user, now, rfl⟩ := hcall
    rw [alarmStep_acknowledge] at hkey
    rcases acknowledge_cases db alarmId user now with hsame | ⟨alarm, halarm, hfirst, hset⟩
    · rw [hsame] at hkey
      rw [hkey]
      exact .kept alarm'
    · rw [hset] at hkey
      dsimp only at hkey
      by_cases hplace : alarmId = key
      · subst hplace
        have hlength := (List.getElem?_eq_some_iff.mp halarm).1
        rw [List.getElem?_set_self hlength] at hkey
        rw [halarm, ← Option.some.inj hkey]
        exact .acknowledged alarm user now rfl hfirst
      · rw [List.getElem?_set_ne hplace] at hkey
        rw [hkey]
        exact .kept alarm'
  · have hother : ∀ alarmId user now, call ≠ .acknowledge alarmId user now := by
      intro alarmId user now h
      exact hcall ⟨alarmId, user, now, h⟩
    obtain ⟨writes, hwrites, halarms⟩ := alarmStep_writes format hsound hother
    rw [halarms] at hkey
    exact hwrites.change hkey

theorem AlarmChange.sound {before : Option Alarm} {key : Nat} {alarm' : Alarm}
    (hchange : AlarmChange format db call key before alarm')
    (hbefore : ∀ alarm ∈ before, (alarm.clearedAt.isSome ↔ alarm.state = .cleared) ∧
      alarm.source = alarm.code.source) :
    (alarm'.clearedAt.isSome ↔ alarm'.state = .cleared) ∧ alarm'.source = alarm'.code.source := by
  cases hchange with
  | kept => exact hbefore alarm' rfl
  | opened _ hstate hcleared hsource _ => exact ⟨by simp [hstate, hcleared], hsource⟩
  | rewritten alarm severity summary _ _ => exact hbefore alarm rfl
  | cleared alarm now _ _ _ => exact ⟨by simp, (hbefore alarm rfl).2⟩
  | acknowledged alarm user now _ _ => exact hbefore alarm rfl

/-- Where the alarms differ in the acknowledgement only, as many are active. -/
theorem oneActive_set {alarms : List Alarm} {key : Nat} {alarm : Alarm} {user : User} {now : Int}
    (hone : OneActive alarms) (hkey : alarms[key]? = some alarm) :
    OneActive (alarms.set key (alarm.acknowledge user now)) := by
  have hold : ∀ (place : Nat) (stored : Alarm),
      (alarms.set key (alarm.acknowledge user now))[place]? = some stored →
        ∃ old, alarms[place]? = some old ∧ old.deviceId = stored.deviceId ∧ old.code = stored.code ∧
          old.state = stored.state := by
    intro place stored hplace
    by_cases hsame : key = place
    · subst hsame
      rw [List.getElem?_set_self (List.getElem?_eq_some_iff.mp hkey).1] at hplace
      obtain rfl := Option.some.inj hplace
      exact ⟨alarm, hkey, rfl, rfl, rfl⟩
    · rw [List.getElem?_set_ne hsame] at hplace
      exact ⟨stored, hplace, rfl, rfl, rfl⟩
  intro left right first second hleft hright hfirst hsecond hdevice hcode
  obtain ⟨old, hold₁, hdevice₁, hcode₁, hstate₁⟩ := hold left first hleft
  obtain ⟨old', hold₂, hdevice₂, hcode₂, hstate₂⟩ := hold right second hright
  refine hone left right old old' hold₁ hold₂ (hstate₁.trans hfirst) (hstate₂.trans hsecond) ?_ ?_
  · rw [hdevice₁, hdevice₂, hdevice]
  · rw [hcode₁, hcode₂, hcode]

theorem oneActive_step (hsound : AlarmsSound db) : OneActive (alarmStep format db call).alarms := by
  by_cases hcall : ∃ alarmId user now, call = .acknowledge alarmId user now
  · obtain ⟨alarmId, user, now, rfl⟩ := hcall
    rw [alarmStep_acknowledge]
    rcases acknowledge_cases db alarmId user now with hsame | ⟨alarm, halarm, -, hset⟩
    · rw [hsame]
      exact hsound.one
    · rw [hset]
      exact oneActive_set hsound.one halarm
  · have hother : ∀ alarmId user now, call ≠ .acknowledge alarmId user now := by
      intro alarmId user now h
      exact hcall ⟨alarmId, user, now, h⟩
    obtain ⟨writes, hwrites, halarms⟩ := alarmStep_writes format hsound hother
    rw [halarms]
    exact hsound.one.foldl_writeAlarms hwrites.fits hwrites.apart

/-! ### Thresholds -/

theorem lt_of_not_notBelow {warning critical : FloatNumber ℚ} {low high : ℚ}
    (hbelow : ThresholdConfigUpdate.notBelow warning critical = false)
    (hlow : warning.toNumber? = some low) (hhigh : critical.toNumber? = some high) : low < high := by
  cases warning with
  | finite value =>
      obtain rfl : value = low := Option.some.inj hlow
      unfold ThresholdConfigUpdate.notBelow at hbelow
      rw [hhigh] at hbelow
      simpa using hbelow
  | infinity negative => cases hlow
  | nan => cases hlow

theorem columns_ordered {request : ThresholdConfigUpdate} {deviceId : String} {user : User}
    {config : ThresholdConfig} (hvalid : request.isValid = true)
    (hcolumns : request.columns deviceId user = some config) : config.Ordered := by
  unfold ThresholdConfigUpdate.isValid at hvalid
  simp only [Bool.and_eq_true, Bool.not_eq_true', Bool.or_eq_false_iff] at hvalid
  obtain ⟨-, ⟨htemperature, hvibration⟩, hcurrent⟩ := hvalid
  unfold ThresholdConfigUpdate.columns at hcolumns
  simp only [Option.pure_def, Option.bind_eq_bind, Option.bind_eq_some_iff, Option.some.injEq]
    at hcolumns
  obtain ⟨low₁, hlow₁, high₁, hhigh₁, low₂, hlow₂, high₂, hhigh₂, low₃, hlow₃, high₃, hhigh₃, _, -,
    rfl⟩ := hcolumns
  exact ⟨lt_of_not_notBelow htemperature hlow₁ hhigh₁, lt_of_not_notBelow hvibration hlow₂ hhigh₂,
    lt_of_not_notBelow hcurrent hlow₃ hhigh₃⟩

/-- An update changes nothing, or sets a device's thresholds to a valid request's. -/
theorem update_cases (format : FloatFormat) (db : Database) (deviceId : String)
    (request : ThresholdConfigUpdate) (user : User) :
    (updateThresholds format db deviceId request user).database = db ∨
      ∃ config, config.Ordered ∧
        (updateThresholds format db deviceId request user).database =
          { db with thresholds := Function.update db.thresholds deviceId (some config) } := by
  unfold updateThresholds
  by_cases hvalid : (!request.isValid) = true
  · rw [if_pos hvalid]
    exact .inl rfl
  · rw [if_neg hvalid]
    split
    · exact .inl rfl
    · split
      · exact .inl rfl
      · cases hcolumns : request.columns deviceId user with
        | none => exact .inl rfl
        | some config => exact .inr ⟨config, columns_ordered (by simpa using hvalid) hcolumns, rfl⟩

theorem ordered_step (hsound : AlarmsSound db) (deviceId : String) (config : ThresholdConfig)
    (hconfig : (alarmStep format db call).thresholds deviceId = some config) : config.Ordered := by
  cases call with
  | persist ingest =>
      rw [alarmStep_persist] at hconfig
      rcases persist_tables format db ingest with hsame | ⟨-, hthresholds⟩
      · rw [hsame] at hconfig
        exact hsound.ordered deviceId config hconfig
      · rcases hthresholds deviceId config hconfig with hold | rfl
        · exact hsound.ordered deviceId config hold
        · exact ThresholdConfig.default_ordered deviceId
  | score scoring =>
      rw [alarmStep_score] at hconfig
      have hsame : (scoreDeviceOnce db scoring).2.thresholds = db.thresholds := by
        unfold scoreDeviceOnce
        split
        · rfl
        · split <;> rfl
      rw [hsame] at hconfig
      exact hsound.ordered deviceId config hconfig
  | update device request user =>
      rw [alarmStep_update] at hconfig
      rcases update_cases format db device request user with hsame | ⟨new, hordered, hset⟩
      · rw [hsame] at hconfig
        exact hsound.ordered deviceId config hconfig
      · rw [hset] at hconfig
        dsimp only at hconfig
        by_cases hdevice : deviceId = device
        · subst hdevice
          rw [Function.update_self] at hconfig
          exact Option.some.inj hconfig ▸ hordered
        · rw [Function.update_of_ne hdevice] at hconfig
          exact hsound.ordered deviceId config hconfig
  | acknowledge alarmId user now =>
      rw [alarmStep_acknowledge] at hconfig
      rcases acknowledge_cases db alarmId user now with hsame | ⟨alarm, -, -, hset⟩
      · rw [hsame] at hconfig
        exact hsound.ordered deviceId config hconfig
      · rw [hset] at hconfig
        exact hsound.ordered deviceId config hconfig

/-! ### The lifecycle -/

theorem AlarmsSound.step (hsound : AlarmsSound db) : AlarmsSound (alarmStep format db call) := by
  have hrow : ∀ alarm' ∈ (alarmStep format db call).alarms,
      (alarm'.clearedAt.isSome ↔ alarm'.state = .cleared) ∧ alarm'.source = alarm'.code.source := by
    intro alarm' hmem
    obtain ⟨key, hkey⟩ := List.mem_iff_getElem?.mp hmem
    refine (alarm_change hsound hkey).sound ?_
    intro alarm halarm
    have hmem := List.mem_of_getElem? halarm
    exact ⟨hsound.cleared alarm hmem, hsound.sources alarm hmem⟩
  constructor
  · exact oneActive_step hsound
  · intro alarm' hmem
    exact (hrow alarm' hmem).1
  · intro alarm' hmem
    exact (hrow alarm' hmem).2
  · exact ordered_step hsound

end Calls

end IiotMonitoring
