import IiotMonitoring.Proof.AnomalyAlarm
import IiotMonitoring.Proof.SensorRules

/-!
# Which row the sensor alarm describes

The sensor alarm is active after a call exactly where the rules found something for the last target. The
batch is taken from the oldest rows on, so with a backlog that is not the newest row.
-/

namespace IiotMonitoring

section Alarm

variable {db : Database} {scoring : Scoring} {latest : ScoringTarget}

theorem alarmsSound_score (hsound : AlarmsSound db) (scoring : Scoring) :
    AlarmsSound { db with alarms := scoring.alarms db } := by
  have hwrites := score_writes sampleFormat hsound scoring
  have hrow : ∀ alarm' ∈ scoring.alarms db,
      (alarm'.clearedAt.isSome ↔ alarm'.state = .cleared) ∧ alarm'.source = alarm'.code.source := by
    intro alarm' hmem
    obtain ⟨key, hkey⟩ := List.mem_iff_getElem?.mp hmem
    apply (hwrites.change hkey).sound
    intro alarm halarm
    have hbefore := List.mem_of_getElem? halarm
    exact ⟨hsound.cleared alarm hbefore, hsound.sources alarm hbefore⟩
  constructor
  · exact hsound.one.foldl_writeAlarms hwrites.fits hwrites.apart
  · exact fun alarm halarm => (hrow alarm halarm).1
  · exact fun alarm halarm => (hrow alarm halarm).2
  · exact hsound.ordered

/-- What `_set_alarm` writes where nothing is to be active. -/
theorem setAlarm_inactive {deviceId : String} {code : AlarmCode} {source summary : String}
    {openedAt now : Int} {found : Option (Nat × Alarm)} {write : AlarmWrite}
    (h : setAlarm deviceId code source false summary openedAt now found = some write) :
    ∃ key alarm, write = .update key alarm { alarm with state := .cleared, clearedAt := some now } := by
  cases found with
  | none => cases h
  | some found =>
      obtain ⟨key, alarm⟩ := found
      cases h
      exact ⟨key, alarm, rfl⟩

/-- What the anomaly write holds is an anomaly alarm. -/
theorem anomalyWrite_code {write : AlarmWrite} (h : scoring.anomalyWrite db = some write) :
    (∀ alarm, write = .insert alarm → alarm.code = .anomalyDetected) ∧
      ∀ key loaded held, write = .update key loaded held → held.code = .anomalyDetected := by
  rw [Scoring.anomalyWrite] at h
  split at h
  · cases hfound : db.activeAlarmFrom scoring.deviceId .anomalyDetected "anomaly" with
    | none =>
        rw [hfound] at h
        cases hdecision : scoring.latestResult.1 with
        | true =>
            rw [hdecision] at h
            cases h
            exact ⟨fun _ hsame => (by cases hsame; rfl), fun _ _ _ hsame => (by cases hsame)⟩
        | false =>
            rw [hdecision] at h
            cases h
    | some found =>
        obtain ⟨key, alarm⟩ := found
        obtain ⟨-, hactive⟩ := activeAlarmFrom_some hfound
        have hcode := (isActive_iff.mp hactive).2.1
        rw [hfound] at h
        cases hdecision : scoring.latestResult.1 with
        | true =>
            rw [hdecision] at h
            cases h
            exact ⟨fun _ hsame => (by cases hsame), fun _ _ _ hsame => (by cases hsame; exact hcode)⟩
        | false =>
            rw [hdecision] at h
            cases h
            exact ⟨fun _ hsame => (by cases hsame), fun _ _ _ hsame => (by cases hsame; exact hcode)⟩
  · cases h

/-- **The sensor alarm** is active after a call exactly where the last target has diagnostics. -/
theorem sensorActive_iff (hsound : AlarmsSound db) (hlatest : scoring.targets.getLast? = some latest) :
    (∃ alarm ∈ scoring.alarms db,
        Database.isActive scoring.deviceId .sensorDiagnostic alarm = true) ↔
      latest.diagnostics ≠ [] := by
  constructor
  · rintro ⟨alarm, hmem, hactive⟩ hnone
    obtain ⟨key, hkey⟩ := List.mem_iff_getElem?.mp hmem
    obtain ⟨-, hcode, hstate⟩ := isActive_iff.mp hactive
    have hwrites := score_writes sampleFormat hsound scoring
    have hlist : scoring.alarmWrites db = [scoring.sensorWrite db latest, scoring.anomalyWrite db] := by
      rw [Scoring.alarmWrites, hlatest]
    have hother : ∀ write, scoring.sensorWrite db latest = some write →
        ∃ key alarm, write = .update key alarm
          { alarm with state := .cleared, clearedAt := some scoring.sensorNow } := by
      intro write hwrite
      rw [Scoring.sensorWrite, hnone] at hwrite
      exact setAlarm_inactive hwrite
    rcases row_foldl_writeAlarms hwrites.fits hwrites.apart hkey with
      hkept | ⟨-, hinsert⟩ | ⟨loaded, -, hupdate⟩
    · cases hfound : db.activeAlarmFrom scoring.deviceId .sensorDiagnostic "sensor_rule" with
      | none =>
          have hinactive := hsound.activeAlarmFrom_none hfound alarm (List.mem_of_getElem? hkept)
          rw [hactive] at hinactive
          cases hinactive
      | some found =>
          obtain ⟨key', alarm'⟩ := found
          obtain ⟨hkey', hactive'⟩ := activeAlarmFrom_some hfound
          obtain rfl := oneActive_iff.mp hsound.one scoring.deviceId .sensorDiagnostic key' key alarm'
            alarm hkey' hkept hactive' hactive
          rw [sensor_cleared hlatest hnone hfound] at hkey
          cases hkey
          cases hstate
    · rw [hlist] at hinsert
      rcases List.mem_cons.mp hinsert with hsensor | hanomaly
      · obtain ⟨key', alarm', hwrite⟩ := hother _ hsensor.symm
        cases hwrite
      · have hanomalyCode := (anomalyWrite_code (List.mem_singleton.mp hanomaly).symm).1 alarm rfl
        rw [hcode] at hanomalyCode
        cases hanomalyCode
    · rw [hlist] at hupdate
      rcases List.mem_cons.mp hupdate with hsensor | hanomaly
      · obtain ⟨key', alarm', hwrite⟩ := hother _ hsensor.symm
        cases hwrite
        cases hstate
      · have hanomalyCode :=
          (anomalyWrite_code (List.mem_singleton.mp hanomaly).symm).2 key loaded alarm rfl
        rw [hcode] at hanomalyCode
        cases hanomalyCode
  · intro hsome
    obtain ⟨alarm, hmem, hactive, -, -⟩ := @sensor_raised db scoring latest hlatest hsome
    exact ⟨alarm, hmem, hactive⟩

end Alarm

end IiotMonitoring

namespace IiotMonitoring.AnomalyWorker

/-! ### The newest row -/

section Property

variable (math : FloatMath) {P : Type} (runtime : Runtime P)

/-- What the rules find for the newest row of a device, whose rows are in order. -/
def newestDiagnostics (deviceId : String) (rows : List TelemetryRow) : List SensorDiagnostic :=
  let samples := (deviceRows deviceId rows).map (·.sample)
  detectSensorFailures math (trailing samples (samples.length - 1))

variable (tables : WorkerTables) (turn : DevicePoll)

/-- After a call that handles rows, the sensor alarm is active where the newest row has diagnostics. -/
def DescribesNewest : Prop :=
  ∀ loaded processed tables',
    turn.call.loaded runtime turn.deviceId = .ok loaded →
    targets (tables.rows ++ turn.arrivals) turn.deviceId loaded.isReady ≠ [] →
    turn.call.score math runtime turn.deviceId (tables.arrive turn.arrivals) =
      .ok (processed, tables') →
    ((∃ alarm ∈ tables'.alarms,
        Database.isActive turn.deviceId .sensorDiagnostic alarm = true) ↔
      newestDiagnostics math turn.deviceId (tables.rows ++ turn.arrivals) ≠ [])

/-- The last target of a call that completes is the newest row of the device, or the rules find something
for both or for neither. -/
def LastStandsForNewest : Prop :=
  ∀ loaded first last diagnostics,
    turn.call.loaded runtime turn.deviceId = .ok loaded →
    (targets (tables.rows ++ turn.arrivals) turn.deviceId loaded.isReady).head? = some first →
    (targets (tables.rows ++ turn.arrivals) turn.deviceId loaded.isReady).getLast? = some last →
    (∃ results, resultsById math loaded
      (samplesBetween (tables.rows ++ turn.arrivals) turn.deviceId first last)
      ((targets (tables.rows ++ turn.arrivals) turn.deviceId loaded.isReady).map (·.id)) =
        .ok results) →
    ruled math (tables.arrive turn.arrivals) turn.deviceId
      (targets (tables.rows ++ turn.arrivals) turn.deviceId loaded.isReady) first last last =
        some diagnostics →
    (deviceRows turn.deviceId (tables.rows ++ turn.arrivals)).getLast? = some last ∨
      (diagnostics ≠ [] ↔
        newestDiagnostics math turn.deviceId (tables.rows ++ turn.arrivals) ≠ [])

end Property

/-! ### Histories in order -/

section History

variable {rows shown : List TelemetryRow}

/-- Keys differ, and every device's rows are in the order in which they were received. -/
structure Received (rows : List TelemetryRow) : Prop where
  keys : (rows.map (·.id)).Nodup
  ordered : ∀ deviceId, InOrder (deviceRows deviceId rows)

theorem Received.sublist (h : Received rows) (hsub : shown.Sublist rows) : Received shown where
  keys := h.keys.sublist (hsub.map _)
  ordered := fun deviceId => (h.ordered deviceId).sublist (hsub.filter _)

/-- What scoring writes does not matter. -/
theorem Received.of_unscored (h : Received shown)
    (hsame : rows.map (·.unscored) = shown.map (·.unscored)) : Received rows where
  keys := by
    rw [ids_of_unscored hsame]
    exact h.keys
  ordered := by
    intro deviceId
    have hshows := shows_of_unscored deviceId hsame []
    rw [List.append_nil] at hshows
    exact hshows.inOrder (h.ordered deviceId)

/-- Written rows that differ in what scoring writes. -/
theorem writeRows_unscored {part : List TelemetryRow} (hkeys : (rows.map (·.id)).Nodup)
    (hpart : ∀ row ∈ part, row ∈ rows) {change : TelemetryRow → TelemetryRow}
    (hid : ∀ row, (change row).id = row.id) (hsame : ∀ row, (change row).unscored = row.unscored) :
    (writeRows rows (part.map change)).map (·.unscored) = rows.map (·.unscored) := by
  rw [writeRows_part hkeys hpart hid, List.map_map]
  apply List.map_congr_left
  intro row _
  rw [Function.comp_apply]
  split
  · exact hsame row
  · rfl

end History

section Call

variable {math : FloatMath} {P : Type} {runtime : Runtime P} {tables : WorkerTables}
  {turn : DevicePoll}

/-- A target is judged in its batch as among all samples of the device. -/
theorem ruled_history {deviceId : String} {mode : Bool} {first last row : TelemetryRow}
    (hreceived : Received tables.rows)
    (hfirst : (targets tables.rows deviceId mode).head? = some first)
    (hlast : (targets tables.rows deviceId mode).getLast? = some last)
    (hrow : row ∈ targets tables.rows deviceId mode) {place : Nat}
    (hplace : ((deviceRows deviceId tables.rows).map (·.sample))[place]? = some row.sample) :
    ruled math tables deviceId (targets tables.rows deviceId mode) first last row =
      some (detectSensorFailures math
        (trailing ((deviceRows deviceId tables.rows).map (·.sample)) place)) := by
  have hordered := hreceived.ordered deviceId
  obtain ⟨earlier, later, inside, hhistory, hinside, hsample, hcovered⟩ :=
    target_covered hordered List.prefix_rfl hfirst hlast hrow
  have hkeys : (((deviceRows deviceId tables.rows).map (·.sample)).map (·.sampleId)).Nodup := by
    rw [List.map_map]
    exact hordered.keys
  rw [hhistory] at hkeys hplace ⊢
  have hwhole := @getElem?_part _ earlier _ later inside hinside
  rw [hsample] at hwhole
  rw [← same_place hkeys hwhole hplace rfl, trailing_part hinside hcovered]
  have hpart : (samplesBetween tables.rows deviceId first last).Sublist
      (earlier ++ samplesBetween tables.rows deviceId first last ++ later) :=
    (List.sublist_append_right ..).trans (List.sublist_append_left ..)
  exact lookup_diagnostics math (hkeys.sublist (hpart.map _)) hsample
    (List.mem_map_of_mem hrow : row.sample.sampleId ∈ (targets tables.rows deviceId mode).map (·.id))

theorem ruled_newest {deviceId : String} {mode : Bool} {first last : TelemetryRow}
    (hreceived : Received tables.rows)
    (hfirst : (targets tables.rows deviceId mode).head? = some first)
    (hlast : (targets tables.rows deviceId mode).getLast? = some last)
    (hnewest : (deviceRows deviceId tables.rows).getLast? = some last) :
    ruled math tables deviceId (targets tables.rows deviceId mode) first last last =
      some (newestDiagnostics math deviceId tables.rows) := by
  apply ruled_history hreceived hfirst hlast (List.mem_of_getLast? hlast)
  rw [← List.getLast?_eq_getElem?, List.getLast?_map, hnewest, Option.map_some]

/-- The sensor alarm after a call that handles rows. -/
theorem sensorActive_call (hsound : AlarmsSound tables.database) {deviceId : String} {loaded : Loaded}
    {first last : TelemetryRow} {diagnostics : List SensorDiagnostic} (clock : ScoringClock)
    (results : List (Nat × ScoreResult))
    (hlast : (targets tables.rows deviceId loaded.isReady).getLast? = some last)
    (hruled : ruled math tables deviceId (targets tables.rows deviceId loaded.isReady) first last last =
      some diagnostics) :
    (∃ alarm ∈ alarmsAfter tables deviceId loaded clock
        (foundAll math tables.rows deviceId loaded first last results),
      Database.isActive deviceId .sensorDiagnostic alarm = true) ↔ diagnostics ≠ [] := by
  have hlatest := @scoring_last deviceId loaded clock _ _
    (@foundAll_last math tables.rows deviceId loaded first last results hlast)
  have hactive := sensorActive_iff hsound hlatest
  have hdiagnostics : (found math (samplesBetween tables.rows deviceId first last)
      ((targets tables.rows deviceId loaded.isReady).map (·.id)) results last).diagnostics =
        diagnostics := congrArg (·.getD []) hruled
  rw [Judged.target, hdiagnostics] at hactive
  exact hactive

/-- **One poll.** The sensor alarm describes the newest row exactly where the last target stands for
it. -/
theorem describesNewest_iff (hreceived : Received (tables.rows ++ turn.arrivals))
    (hsound : AlarmsSound tables.database) :
    DescribesNewest math runtime tables turn ↔ LastStandsForNewest math runtime tables turn := by
  have hcall : AlarmsSound ({ tables.arrive turn.arrivals with
      models := turn.call.models } : WorkerTables).database :=
    ⟨hsound.one, hsound.cleared, hsound.sources, hsound.ordered⟩
  constructor
  · intro h loaded first last diagnostics hloaded hfirst hlast hresults hruled
    obtain ⟨results, hresults⟩ := hresults
    have hscore := turn.call.score_some math (tables.arrive turn.arrivals) turn.fits hloaded hfirst hlast
    dsimp only [WorkerTables.arrive] at hscore
    rw [hresults] at hscore
    have hsome : targets (tables.rows ++ turn.arrivals) turn.deviceId loaded.isReady ≠ [] :=
      List.ne_nil_of_mem (List.mem_of_getLast? hlast)
    have halarm := h loaded _ _ hloaded hsome hscore
    right
    rw [← halarm]
    exact (sensorActive_call hcall turn.call.clock results hlast hruled).symm
  · intro h loaded processed tables' hloaded hsome hscore
    obtain ⟨first, last, hfirst, hlast⟩ := exists_first_last hsome
    have hwritten := turn.call.score_some math (tables.arrive turn.arrivals) turn.fits hloaded hfirst
      hlast
    rw [hscore] at hwritten
    cases hresults : resultsById math loaded
        (samplesBetween (tables.arrive turn.arrivals).rows turn.deviceId first last)
        ((targets (tables.arrive turn.arrivals).rows turn.deviceId loaded.isReady).map (·.id)) with
    | error error =>
        rw [hresults] at hwritten
        cases hwritten
    | ok results =>
        rw [hresults] at hwritten
        obtain ⟨-, rfl⟩ := Prod.mk.inj (Except.ok.inj hwritten)
        obtain ⟨diagnostics, hruled⟩ := @ruled_some math (tables.arrive turn.arrivals) turn.deviceId
          loaded.isReady first last last hfirst hlast (List.mem_of_getLast? hlast)
        have hactive := @sensorActive_call math { tables.arrive turn.arrivals with
          models := turn.call.models } hcall turn.deviceId loaded first last diagnostics
            turn.call.clock results hlast hruled
        refine hactive.trans ?_
        rcases h loaded first last diagnostics hloaded hfirst hlast ⟨results, hresults⟩ hruled with
          hnewest | hsame
        · have hrules := @ruled_newest math (tables.arrive turn.arrivals) turn.deviceId loaded.isReady
            first last hreceived hfirst hlast hnewest
          rw [hruled] at hrules
          rw [Option.some.inj hrules]
          exact Iff.rfl
        · exact hsame

/-- What a poll keeps. -/
theorem deviceStep_kept (hreceived : Received (tables.rows ++ turn.arrivals))
    (hsound : AlarmsSound tables.database) :
    AlarmsSound (deviceStep math runtime tables turn).database ∧
      (deviceStep math runtime tables turn).rows.map (·.unscored) =
        (tables.rows ++ turn.arrivals).map (·.unscored) := by
  have houtcome : CallOutcome math runtime turn.deviceId (tables.arrive turn.arrivals) turn.call
      (deviceStep math runtime tables turn) :=
    call_outcome math _ turn.fits
  generalize deviceStep math runtime tables turn = after at houtcome
  cases houtcome with
  | raised => exact ⟨⟨hsound.one, hsound.cleared, hsound.sources, hsound.ordered⟩, rfl⟩
  | idle => exact ⟨⟨hsound.one, hsound.cleared, hsound.sources, hsound.ordered⟩, rfl⟩
  | scored loaded first last results hloaded hfirst hlast hresults =>
      constructor
      · have hscored := alarmsSound_score hsound (scoring turn.deviceId loaded turn.call.clock
          (foundAll math (tables.arrive turn.arrivals).rows turn.deviceId loaded first last results))
        exact ⟨hscored.one, hscored.cleared, hscored.sources, hscored.ordered⟩
      · dsimp only [settled, foundAll]
        rw [List.map_map]
        apply @writeRows_unscored (tables.rows ++ turn.arrivals) _ hreceived.keys
        · exact fun row hrow => (mem_targets hrow).1
        · exact fun row => written_id _ _
        · exact fun row => written_unscored _ _

/-- **Runs.** After every call that handles rows of a history in order, the sensor alarm describes the
newest row, exactly where at every poll the last target stands for it. -/
theorem sensorAlarm_newest_iff (hsound : AlarmsSound tables.database) {turns : List DevicePoll}
    (hreceived : Received (tables.rows ++ turns.flatMap (·.arrivals))) :
    StepsMeet (deviceStep math runtime) (DescribesNewest math runtime) tables turns ↔
      StepsMeet (deviceStep math runtime) (LastStandsForNewest math runtime) tables turns := by
  induction turns generalizing tables with
  | nil => exact Iff.rfl
  | cons turn turns ih =>
      rw [List.flatMap_cons, ← List.append_assoc] at hreceived
      have hvisible := hreceived.sublist (List.sublist_append_left ..)
      obtain ⟨hsound', hsame⟩ := @deviceStep_kept math P runtime tables turn hvisible hsound
      have hnext : Received ((deviceStep math runtime tables turn).rows ++
          turns.flatMap (·.arrivals)) := by
        apply hreceived.of_unscored
        rw [List.map_append, List.map_append, hsame]
      rw [StepsMeet, StepsMeet, describesNewest_iff hvisible hsound, ih hsound' hnext]

end Call

/-! ### A backlog of one row too many -/

/-- Readings every ten seconds that go up and down, the 501st without vibration. -/
def demoBacklog (count : Nat) : WorkerTables where
  rows := (List.range count).map backlogRow
  alarms := []
  models := []
  errors := []
where
  backlogRow (place : Nat) : TelemetryRow :=
    let row := demoTables.demoRow place (place * 10000000) none
    let level : ℚ := if place % 2 = 0 then 1 else 2
    { row with telemetry := { row.telemetry with
        measurements := ⟨some (.finite (40 + level)), if place = 500 then none else some (.finite level),
          some (.finite (4 * level)), some (.finite 4), some (.finite level)⟩ } }

section Backlog

variable (count : Nat)

theorem demoBacklog_device : deviceRows "motor-01" (demoBacklog count).rows = (demoBacklog count).rows := by
  rw [deviceRows, List.filter_eq_self]
  intro row hrow
  obtain ⟨place, -, rfl⟩ := List.mem_map.mp hrow
  exact decide_eq_true rfl

theorem demoBacklog_inOrder : InOrder (demoBacklog count).rows where
  pairwise := by
    rw [demoBacklog, List.pairwise_map]
    apply List.pairwise_lt_range.imp
    intro left right hless
    rw [TelemetryRow.before_iff]
    left
    change (left * 10000000 : Int) < right * 10000000
    omega
  keys := by
    rw [demoBacklog, List.map_map]
    exact List.nodup_range.map fun _ _ h => h

theorem demoBacklog_received : Received (demoBacklog count).rows where
  keys := (demoBacklog_inOrder count).keys
  ordered := fun _ => (demoBacklog_inOrder count).sublist List.filter_sublist

theorem demoBacklog_targets : targets (demoBacklog count).rows "motor-01" false =
    (demoBacklog (min 500 count)).rows := by
  have hall : (demoBacklog count).rows.filter (isTarget "motor-01" false) = (demoBacklog count).rows := by
    rw [List.filter_eq_self]
    intro row hrow
    obtain ⟨place, -, rfl⟩ := List.mem_map.mp hrow
    rfl
  rw [targets, hall, List.mergeSort_of_pairwise (demoBacklog_inOrder count).pairwise]
  change ((List.range count).map _).take 500 = (List.range (min 500 count)).map _
  rw [← List.map_take, List.take_range]

/-- The last twelve readings up to a place. -/
theorem demoBacklog_trailing {place : Nat} (hplace : place < count) :
    trailing ((demoBacklog count).rows.map (·.sample)) place =
      ((List.range (place + 1)).drop (place + 1 - 12)).map fun k => (demoBacklog.backlogRow k).sample := by
  rw [trailing, demoBacklog, List.map_map, ← List.map_take, ← List.map_drop, List.take_range,
    Nat.min_eq_left hplace]
  rfl

theorem demoBacklog_place {place : Nat} (hplace : place < count) :
    ((deviceRows "motor-01" (demoBacklog count).rows).map (·.sample))[place]? =
      some (demoBacklog.backlogRow place).sample := by
  rw [demoBacklog_device, demoBacklog, List.map_map, List.getElem?_map, List.getElem?_range hplace]
  rfl

theorem demoBacklog_last : (deviceRows "motor-01" (demoBacklog (count + 1)).rows).getLast? =
    some (demoBacklog.backlogRow count) := by
  rw [demoBacklog_device, demoBacklog, List.getLast?_map, List.getLast?_range]
  rfl

theorem demoBacklog_newest : newestDiagnostics demoMath "motor-01" (demoBacklog (count + 1)).rows =
    detectSensorFailures demoMath (trailing ((demoBacklog (count + 1)).rows.map (·.sample)) count) := by
  have hlength : ((demoBacklog (count + 1)).rows.map (·.sample)).length = count + 1 := by
    rw [List.length_map, demoBacklog, List.length_map, List.length_range]
  rw [newestDiagnostics, demoBacklog_device, hlength, Nat.add_sub_cancel]

theorem demoBacklog_arrive : (demoBacklog count).arrive [] = demoBacklog count := by
  rw [WorkerTables.arrive, List.append_nil]

end Backlog

def unreadyPoll : DevicePoll where
  arrivals := []
  call := demoCall []
  deviceId := "motor-01"
  fits := ⟨by decide, by decide⟩

theorem backlog_last_normal : detectSensorFailures demoMath
    (trailing ((demoBacklog 501).rows.map (·.sample)) 499) = [] := by
  rw [demoBacklog_trailing 501 (by decide), detectSensorFailures,
    List.mergeSort_of_pairwise (by decide +kernel)]
  decide +kernel

theorem backlog_newest_missing : detectSensorFailures demoMath
    (trailing ((demoBacklog 501).rows.map (·.sample)) 500) ≠ [] := by
  rw [demoBacklog_trailing 501 (by decide), detectSensorFailures,
    List.mergeSort_of_pairwise (by decide +kernel)]
  decide +kernel

theorem demoBacklog_sound (count : Nat) : AlarmsSound (demoBacklog count).database where
  one left right alarm alarm' hleft := by cases hleft
  cleared alarm halarm := by cases halarm
  sources alarm halarm := by cases halarm
  ordered deviceId config hconfig := by cases hconfig

theorem sensorAlarm_newest_short :
    StepsMeet (deviceStep demoMath demoRuntime) (DescribesNewest demoMath demoRuntime) (demoBacklog 3)
        [unreadyPoll] ↔
      StepsMeet (deviceStep demoMath demoRuntime) (LastStandsForNewest demoMath demoRuntime)
        (demoBacklog 3) [unreadyPoll] :=
  sensorAlarm_newest_iff (demoBacklog_sound 3) (demoBacklog_received 3)

/-- The alarm says nothing of the reading that the batch leaves out. -/
theorem backlog_not_described :
    Chronological ((demoBacklog 501).rows.map (·.sample)) ∧
      ¬ StepsMeet (deviceStep demoMath demoRuntime) (DescribesNewest demoMath demoRuntime)
        (demoBacklog 501) [unreadyPoll] := by
  constructor
  · rw [Chronological, demoBacklog, List.map_map, List.pairwise_map]
    apply List.pairwise_lt_range.imp
    intro left right hless
    rw [TelemetrySample.before_iff]
    left
    change (left * 10000000 : Int) < right * 10000000
    omega
  · rintro ⟨hdescribes, -⟩
    have hreceived := demoBacklog_received 501
    have hrows : (demoBacklog 501).rows ++ unreadyPoll.arrivals = (demoBacklog 501).rows :=
      List.append_nil _
    have hloaded : unreadyPoll.call.loaded demoRuntime "motor-01" = .ok .notRegistered :=
      loadReadyBundle_nil
    have hstands := (describesNewest_iff (by rwa [hrows]) (demoBacklog_sound 501)).mp hdescribes
    have harrive : (demoBacklog 501).arrive unreadyPoll.arrivals = demoBacklog 501 :=
      demoBacklog_arrive 501
    rw [LastStandsForNewest, hrows, harrive] at hstands
    have hfirst : (targets (demoBacklog 501).rows "motor-01" false).head? =
        some (demoBacklog.backlogRow 0) := by
      rw [demoBacklog_targets, demoBacklog, List.head?_map, List.head?_range]
      rfl
    have hlast : (targets (demoBacklog 501).rows "motor-01" false).getLast? =
        some (demoBacklog.backlogRow 499) := by
      rw [demoBacklog_targets, demoBacklog, List.getLast?_map, List.getLast?_range]
      rfl
    have hruled : ruled demoMath (demoBacklog 501) "motor-01"
        (targets (demoBacklog 501).rows "motor-01" false) (demoBacklog.backlogRow 0)
        (demoBacklog.backlogRow 499) (demoBacklog.backlogRow 499) = some [] := by
      rw [ruled_history hreceived hfirst hlast (List.mem_of_getLast? hlast)
        (demoBacklog_place 501 (by decide)), demoBacklog_device, backlog_last_normal]
    rcases hstands .notRegistered _ _ [] hloaded hfirst hlast ⟨[], rfl⟩ hruled with hnewest | hsame
    · change (deviceRows "motor-01" (demoBacklog 501).rows).getLast? = _ at hnewest
      rw [demoBacklog_last 500] at hnewest
      have hid : some 500 = some 499 := congrArg (Option.map TelemetryRow.id) hnewest
      exact absurd hid (by decide)
    · apply hsame.mpr _ rfl
      change newestDiagnostics demoMath "motor-01" (demoBacklog 501).rows ≠ []
      rw [demoBacklog_newest 500]
      exact backlog_newest_missing

end IiotMonitoring.AnomalyWorker
