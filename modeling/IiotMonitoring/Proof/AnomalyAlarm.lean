import IiotMonitoring.Proof.ScoringOutcome
import IiotMonitoring.Proof.ScoringWindows

/-!
# What clears an anomaly alarm

`anomaly_active` begins as false and is set only by a result of the last target. A last target without a
result therefore clears the alarm like one that was found normal.
-/

namespace IiotMonitoring

/-! ### The decision of a call -/

theorem foldl_kept {σ α : Type} {step : σ → α → σ} {state : σ} {items : List α}
    (hstep : ∀ item ∈ items, step state item = state) : items.foldl step state = state := by
  induction items with
  | nil => rfl
  | cons item items ih =>
      rw [List.foldl_cons, hstep item List.mem_cons_self]
      exact ih fun item hitem => hstep item (.tail _ hitem)

section Decision

variable {scoring : Scoring} {latest : ScoringTarget}

/-- The last target decides, where targets of its key have its result. -/
theorem latestResult_eq (hlatest : scoring.targets.getLast? = some latest)
    (hkeys : ∀ row ∈ scoring.targets, row.id = latest.id → row.result = latest.result) :
    scoring.latestResult.1 = latest.result.any (·.anomalous) := by
  rw [Scoring.latestResult, hlatest]
  obtain ⟨rest, hsplit⟩ := List.getLast?_eq_some_iff.mp hlatest
  cases hresult : latest.result with
  | none =>
      rw [foldl_kept]
      · rfl
      · intro row hrow
        have hsame := hkeys row hrow
        cases hrow_result : row.result with
        | none => rfl
        | some result =>
            have hother : some row.id ≠ some latest.id := by
              intro hid
              rw [hsame (Option.some.inj hid), hresult] at hrow_result
              cases hrow_result
            exact if_neg hother
  | some result =>
      rw [hsplit, List.foldl_append, List.foldl_cons, List.foldl_nil, hresult]
      exact congrArg Prod.fst (if_pos rfl)

end Decision

/-! ### One alarm -/

section Alarm

variable {db : Database} {scoring : Scoring} {latest : ScoringTarget} {key : Nat} {alarm alarm' : Alarm}

/-- The sensor alarm is another row. -/
theorem sensorWrite_other (hkey : db.alarms[key]? = some alarm) (hcode : alarm.code = .anomalyDetected) :
    (Database.writeAlarms db.alarms (scoring.sensorWrite db latest))[key]? = some alarm := by
  apply setAlarm_other hkey
  intro found hfound
  obtain ⟨hloaded, hactive⟩ := activeAlarmFrom_some hfound
  rw [hkey] at hloaded
  cases hloaded
  rw [(isActive_iff.mp hactive).2.1] at hcode
  cases hcode

/-- `_set_alarm` on the alarm that it found. -/
theorem setAlarm_found {alarms : List Alarm} {deviceId : String} {code : AlarmCode} {source : String}
    (hkey : alarms[key]? = some alarm) (active : Bool) (summary : String) (openedAt now : Int) :
    (Database.writeAlarms alarms (setAlarm deviceId code source active summary openedAt now
      (some (key, alarm))))[key]? =
        some (if active then { alarm with summary := sliceTo 240 summary }
          else { alarm with state := .cleared, clearedAt := some now }) := by
  have hheld : ∀ held : Alarm, held.deviceId = alarm.deviceId → held.code = alarm.code →
      held.source = alarm.source → held.openedAt = alarm.openedAt →
      held.acknowledgedAt = alarm.acknowledgedAt → held.acknowledgedBy = alarm.acknowledgedBy →
      writeAlarm alarm held alarm = held := by
    intro held hdevice hcode hsource hopened hat hby
    rw [writeAlarm]
    simp only [ite_held]
    cases held
    simp_all
  cases active with
  | true =>
      change (alarms.modify key _)[key]? = _
      rw [List.getElem?_modify_eq, hkey]
      exact congrArg some (hheld _ rfl rfl rfl rfl rfl rfl)
  | false =>
      change (alarms.modify key _)[key]? = _
      rw [List.getElem?_modify_eq, hkey]
      exact congrArg some (hheld _ rfl rfl rfl rfl rfl rfl)

/-- A call deletes no alarm. -/
theorem alarms_place (scoring : Scoring) (hkey : db.alarms[key]? = some alarm) :
    ∃ alarm' : Alarm, (scoring.alarms db)[key]? = some alarm' := by
  have hlength : key < (scoring.alarms db).length :=
    (List.getElem?_eq_some_iff.mp hkey).1.trans_le (length_foldl_writeAlarms_le _ db.alarms)
  exact ⟨_, List.getElem?_eq_getElem hlength⟩

/-- **Clearing.** A call clears the anomaly alarm that it finds, where a model is ready and the decision
is false. -/
theorem anomaly_cleared_iff (hlatest : scoring.targets.getLast? = some latest)
    (hkey : db.alarms[key]? = some alarm) (hcode : alarm.code = .anomalyDetected)
    (hactive : alarm.state = .active) (hafter : (scoring.alarms db)[key]? = some alarm') :
    alarm'.state = .cleared ↔
      scoring.modelReady = true ∧ scoring.latestResult.1 = false ∧
        db.activeAlarmFrom scoring.deviceId .anomalyDetected "anomaly" = some (key, alarm) := by
  have hmiddle := @sensorWrite_other db scoring latest key alarm hkey hcode
  rw [Scoring.alarms_eq hlatest, Scoring.anomalyWrite] at hafter
  have hkept : alarm' = alarm → alarm'.state ≠ .cleared := by
    rintro rfl hcleared
    rw [hactive] at hcleared
    cases hcleared
  cases hready : scoring.modelReady with
  | false =>
      rw [hready] at hafter
      have hsame := Option.some.inj (hafter.symm.trans hmiddle)
      exact ⟨fun h => absurd h (hkept hsame), fun h => absurd h.1 Bool.false_ne_true⟩
  | true =>
      rw [hready, if_pos rfl] at hafter
      by_cases hfound : db.activeAlarmFrom scoring.deviceId .anomalyDetected "anomaly" =
          some (key, alarm)
      · rw [hfound, setAlarm_found hmiddle] at hafter
        cases hdecision : scoring.latestResult.1 with
        | true =>
            rw [hdecision, if_pos rfl] at hafter
            obtain rfl := Option.some.inj hafter
            constructor
            · intro hcleared
              rw [hactive] at hcleared
              cases hcleared
            · rintro ⟨-, h, -⟩
              cases h
        | false =>
            rw [hdecision, if_neg Bool.false_ne_true] at hafter
            obtain rfl := Option.some.inj hafter
            exact ⟨fun _ => ⟨rfl, rfl, hfound⟩, fun _ => rfl⟩
      · rw [setAlarm_other hmiddle] at hafter
        · have hsame := (Option.some.inj hafter).symm
          exact ⟨fun h => absurd h (hkept hsame), fun h => absurd h.2.2 hfound⟩
        · intro found hother
          obtain ⟨hloaded, -⟩ := activeAlarmFrom_some hother
          rw [hkey] at hloaded
          cases hloaded
          exact hfound hother

end Alarm

end IiotMonitoring

namespace IiotMonitoring.AnomalyWorker

/-! ### Runs over devices -/

/-- A poll of a device whose names fit their columns. -/
structure DevicePoll extends Poll where
  deviceId : String
  fits : call.Fits deviceId

section Property

variable (math : FloatMath) {P : Type} (runtime : Runtime P)

def deviceStep (tables : WorkerTables) (turn : DevicePoll) : WorkerTables :=
  pollStep math runtime turn.deviceId tables turn.toPoll

variable (tables : WorkerTables) (turn : DevicePoll)

/-- The call scores its last target with its model, which does not find it anomalous. -/
def FindsNormal : Prop :=
  ∃ registry bundle first last results result,
    turn.call.loaded runtime turn.deviceId = .ok (.ready registry bundle) ∧
      (targets (tables.rows ++ turn.arrivals) turn.deviceId true).head? = some first ∧
      (targets (tables.rows ++ turn.arrivals) turn.deviceId true).getLast? = some last ∧
      resultsById math (.ready registry bundle)
        (samplesBetween (tables.rows ++ turn.arrivals) turn.deviceId first last)
        ((targets (tables.rows ++ turn.arrivals) turn.deviceId true).map (·.id)) = .ok results ∧
      lookupLast results last.id = some result ∧ result.anomalous = false

/-- An anomaly alarm that is cleared is one of the call's device, whose last target is found normal. -/
def ClearsByEvidence : Prop :=
  ∀ (key : Nat) (alarm alarm' : Alarm), tables.alarms[key]? = some alarm →
    (deviceStep math runtime tables turn).alarms[key]? = some alarm' →
    alarm.code = .anomalyDetected → alarm.state = .active → alarm'.state = .cleared →
    alarm.deviceId = turn.deviceId ∧ FindsNormal math runtime tables turn

/-- Where an anomaly alarm is active and a ready model scores the rows, the last target has features. -/
def LastHasFeatures : Prop :=
  ∀ registry bundle first last found,
    turn.call.loaded runtime turn.deviceId = .ok (.ready registry bundle) →
    (targets (tables.rows ++ turn.arrivals) turn.deviceId true).head? = some first →
    (targets (tables.rows ++ turn.arrivals) turn.deviceId true).getLast? = some last →
    tables.database.activeAlarmFrom turn.deviceId .anomalyDetected "anomaly" = some found →
    (∃ results, scoreRows math bundle (generateFeatures math .default
      (samplesBetween (tables.rows ++ turn.arrivals) turn.deviceId first last)) = .ok results) →
    HasFeatures math (tables.rows ++ turn.arrivals) turn.deviceId first last last

end Property

section Call

variable {math : FloatMath} {P : Type} {runtime : Runtime P} {tables : WorkerTables}
  {turn : DevicePoll}

/-- What the call finds for its last target. -/
theorem foundAll_last {rows : List TelemetryRow} {deviceId : String} {loaded : Loaded}
    {first last : TelemetryRow} (results : List (Nat × ScoreResult))
    (hlast : (targets rows deviceId loaded.isReady).getLast? = some last) :
    (foundAll math rows deviceId loaded first last results).getLast? =
      some (found math (samplesBetween rows deviceId first last)
        ((targets rows deviceId loaded.isReady).map (·.id)) results last) := by
  rw [foundAll, List.getLast?_map, hlast, Option.map_some]

theorem scoring_last {deviceId : String} {loaded : Loaded} {clock : ScoringClock}
    {judged : List Judged} {item : Judged} (hlast : judged.getLast? = some item) :
    (scoring deviceId loaded clock judged).targets.getLast? = some item.target := by
  rw [scoring, List.getLast?_map, hlast, Option.map_some]

/-- The decision of a call is the result of its last target. -/
theorem decision_eq {rows : List TelemetryRow} {deviceId : String} {loaded : Loaded}
    {first last : TelemetryRow} (clock : ScoringClock) (results : List (Nat × ScoreResult))
    (hlast : (targets rows deviceId loaded.isReady).getLast? = some last) :
    (scoring deviceId loaded clock
        (foundAll math rows deviceId loaded first last results)).latestResult.1 =
      (lookupLast results last.id).any (·.anomalous) := by
  rw [latestResult_eq (scoring_last (foundAll_last results hlast))]
  · exact Option.any_map
  · intro target htarget hid
    obtain ⟨judged, hjudged, rfl⟩ := List.mem_map.mp htarget
    obtain ⟨row, -, rfl⟩ := List.mem_map.mp hjudged
    have hid : row.id = last.id := hid
    change (lookupLast results row.id).map _ = (lookupLast results last.id).map _
    rw [hid]

/-- **One poll.** It clears by evidence exactly where the last target has features. -/
theorem clearsByEvidence_iff :
    ClearsByEvidence math runtime tables turn ↔ LastHasFeatures math runtime tables turn := by
  rw [ClearsByEvidence, deviceStep, pollStep]
  have houtcome : CallOutcome math runtime turn.deviceId (tables.arrive turn.arrivals) turn.call
      (callStep math runtime turn.deviceId (tables.arrive turn.arrivals) turn.call) :=
    call_outcome math _ turn.fits
  generalize callStep math runtime turn.deviceId (tables.arrive turn.arrivals) turn.call = after
    at houtcome
  have hkept : after.alarms = tables.alarms →
      ∀ (key : Nat) (alarm alarm' : Alarm), tables.alarms[key]? = some alarm →
        after.alarms[key]? = some alarm' → alarm.state = .active → alarm'.state ≠ .cleared := by
    intro hsame key alarm alarm' hkey hafter hactive hcleared
    rw [hsame, hkey] at hafter
    cases hafter
    rw [hactive] at hcleared
    cases hcleared
  cases houtcome with
  | raised error hscore hraised =>
      constructor
      · intro _ registry bundle first last found hloaded hfirst hlast _ hscored
        obtain ⟨results, hresults⟩ := (resultsById_ready math).mpr hscored
        exact absurd hresults (hraised _ first last results hloaded hfirst hlast)
      · intro _ key alarm alarm' hkey hafter _ hactive hcleared
        exact absurd hcleared (hkept rfl key alarm alarm' hkey hafter hactive)
  | idle loaded hloaded hnone =>
      constructor
      · intro _ registry bundle first last found hready hfirst
        rw [hloaded] at hready
        cases hready
        change (targets (tables.arrive turn.arrivals).rows turn.deviceId true).head? = _ at hfirst
        rw [Loaded.isReady] at hnone
        rw [hnone] at hfirst
        cases hfirst
      · intro _ key alarm alarm' hkey hafter _ hactive hcleared
        exact absurd hcleared (hkept rfl key alarm alarm' hkey hafter hactive)
  | scored loaded first last results hloaded hfirst hlast hresults =>
      have hlatest : (scoring turn.deviceId loaded turn.call.clock (foundAll math
          (tables.arrive turn.arrivals).rows turn.deviceId loaded first last results)).targets.getLast? =
            some (Judged.target _) :=
        scoring_last (foundAll_last results hlast)
      have hcleared := fun key alarm alarm' =>
        @anomaly_cleared_iff tables.database _ _ key alarm alarm' hlatest
      rw [decision_eq turn.call.clock results hlast] at hcleared
      have hid : last.id ∈ (targets (tables.arrive turn.arrivals).rows turn.deviceId
          loaded.isReady).map (·.id) :=
        List.mem_map_of_mem (List.mem_of_getLast? hlast)
      constructor
      · intro h registry bundle first' last' found hready hfirst' hlast' hfound _
        rw [hloaded] at hready
        cases hready
        obtain rfl := Option.some.inj (hfirst.symm.trans hfirst')
        obtain rfl := Option.some.inj (hlast.symm.trans hlast')
        obtain ⟨key, alarm⟩ := found
        obtain ⟨hkey, hactive⟩ := activeAlarmFrom_some hfound
        obtain ⟨-, hcode, hstate⟩ := isActive_iff.mp hactive
        rw [HasFeatures]
        apply (result_isSome_iff math hresults hid).mp
        -- without a result the call clears the alarm, so there is evidence
        by_contra hnone
        rw [Option.not_isSome_iff_eq_none] at hnone
        obtain ⟨alarm', hafter⟩ := @alarms_place tables.database key alarm (scoring turn.deviceId
          (.ready registry bundle) turn.call.clock (foundAll math (tables.arrive turn.arrivals).rows
            turn.deviceId (.ready registry bundle) first last results)) hkey
        have hstate' := (hcleared key alarm alarm' hkey hcode hstate hafter).mpr
          ⟨rfl, by rw [hnone, Option.any_none], hfound⟩
        obtain ⟨-, registry', bundle', first', last', results', result, hready, hfirst', hlast',
          hresults', hresult, -⟩ := h key alarm alarm' hkey hafter hcode hstate hstate'
        rw [hloaded] at hready
        cases hready
        obtain rfl := Option.some.inj (hfirst.symm.trans hfirst')
        obtain rfl := Option.some.inj (hlast.symm.trans hlast')
        obtain rfl := Except.ok.inj (hresults.symm.trans hresults')
        rw [hnone] at hresult
        cases hresult
      · intro h key alarm alarm' hkey hafter hcode hactive hstate
        obtain ⟨hready, hdecision, hfound⟩ :=
          (hcleared key alarm alarm' hkey hcode hactive hafter).mp hstate
        obtain ⟨-, hisActive⟩ := activeAlarmFrom_some hfound
        cases loaded with
        | notRegistered => cases hready
        | unusable registry code => cases hready
        | ready registry bundle =>
            have hfeatures := h registry bundle first last _ hloaded hfirst hlast hfound
              ((resultsById_ready math).mp ⟨results, hresults⟩)
            obtain ⟨result, hresult⟩ := Option.isSome_iff_exists.mp
              ((result_isSome_iff math hresults hid).mpr hfeatures)
            rw [hresult, Option.any_some] at hdecision
            exact ⟨(isActive_iff.mp hisActive).1, registry, bundle, first, last, results, result,
              hloaded, hfirst, hlast, hresults, hresult, hdecision⟩

/-- **Runs.** Anomaly alarms are cleared by evidence only, exactly where at every poll that finds an
active one and scores with its model the last target has features. -/
theorem anomaly_evidence_iff (start : WorkerTables) (polls : List DevicePoll) :
    StepsMeet (deviceStep math runtime) (ClearsByEvidence math runtime) start polls ↔
      StepsMeet (deviceStep math runtime) (LastHasFeatures math runtime) start polls := by
  constructor
  · exact fun h => h.mono fun _ _ => clearsByEvidence_iff.mp
  · exact fun h => h.mono fun _ _ => clearsByEvidence_iff.mpr

end Call

/-! ### A row without features -/

/-- A reading without vibration, after an anomalous one. -/
def demoAlarmed : WorkerTables where
  rows := [{ demoTables.demoRow 1 0 (some "temperature level 50 °C") with
      anomalyScore := some (.finite 50), anomalyPercentile := some (.finite 100) },
    withoutVibration (demoTables.demoRow 2 10000000 none)]
  alarms := [{
    deviceId := "motor-01"
    code := .anomalyDetected
    severity := .warning
    source := "anomaly"
    state := .active
    summary := "Isolation Forest: temperature level 50 °C"
    openedAt := 0
    clearedAt := none
    acknowledgedAt := none
    acknowledgedBy := none }]
  models := []
  errors := []
where
  withoutVibration (row : TelemetryRow) : TelemetryRow :=
    { row with telemetry := { row.telemetry with
        measurements := { row.telemetry.measurements with vibrationRmsMps2 := none } } }

def demoPoll : DevicePoll where
  arrivals := []
  call := demoCall [demoModel]
  deviceId := "motor-01"
  fits := ⟨by decide, by decide⟩

/-- The row has no result, and the call clears the alarm. -/
theorem unscored_row_clears :
    ¬ StepsMeet (deviceStep demoMath demoRuntime) (ClearsByEvidence demoMath demoRuntime) demoAlarmed
      [demoPoll] := by
  rintro ⟨hclears, -⟩
  obtain ⟨registry, bundle, hloaded⟩ := demoCall_loads
  let row := demoAlarmed.withoutVibration (demoTables.demoRow 2 10000000 none)
  have htargets : targets (demoAlarmed.rows ++ demoPoll.arrivals) "motor-01" true = [row] := by
    decide +kernel
  have hnone : generateFeatures demoMath .default
      (samplesBetween (demoAlarmed.rows ++ demoPoll.arrivals) "motor-01" row row) = [] := by
    rw [generateFeatures, List.mergeSort_of_pairwise (by decide +kernel)]
    decide +kernel
  have hchecked := (loaded_sound demoPoll.fits.versions hloaded).2 registry bundle rfl
  have hscored : scoreRows demoMath bundle [] = .ok [] := by
    rw [scoreRows, hchecked.1.schema]
    rfl
  have hfeatures : HasFeatures demoMath (demoAlarmed.rows ++ demoPoll.arrivals) "motor-01" row row row :=
    clearsByEvidence_iff.mp hclears registry bundle row row _ hloaded (congrArg List.head? htargets)
      (congrArg List.getLast? htargets) rfl ⟨[], hnone ▸ hscored⟩
  rw [HasFeatures, hnone] at hfeatures
  cases hfeatures

end IiotMonitoring.AnomalyWorker
