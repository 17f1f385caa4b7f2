import IiotMonitoring.Proof.WorkerAlarms
import IiotMonitoring.Proof.WrittenReasons

/-!
# The rules go on without a model

A call that loads its model, or tolerates what is wrong with it, records the state of an unusable model
and writes what the sensor rules find. The device is passed over only where an error is not tolerated.
-/

namespace IiotMonitoring.AnomalyWorker

section Property

variable (math : FloatMath) {P : Type} (runtime : Runtime P) (settings : Settings)
  (tables : WorkerTables) (deviceId : String) (clock : ScoringClock)

/-- The device has a model that can be used. -/
def Usable : Prop :=
  ∃ registry bundle, latestRegistry tables.models deviceId = some registry ∧
    currentBundle runtime settings registry deviceId clock.now = .ok (some bundle)

/-- The sensor alarm shows diagnostics, or the one that was active is cleared. -/
structure SensorAlarmShows (diagnostics : List SensorDiagnostic) (alarms : List Alarm) : Prop where
  raised : diagnostics ≠ [] → ∃ alarm ∈ alarms,
    Database.isActive deviceId .sensorDiagnostic alarm = true ∧ alarm.source = "sensor_rule" ∧
      alarm.summary = sliceTo 240 (diagnosticReason diagnostics)
  cleared : diagnostics = [] → ∀ key alarm,
    tables.database.activeAlarmFrom deviceId .sensorDiagnostic "sensor_rule" = some (key, alarm) →
    alarms[key]? = some { alarm with state := .cleared, clearedAt := some clock.sensorNow }

/-- The tables after a call: an unusable model is marked, the device's targets carry the diagnostics,
and the sensor alarm is that of the last target. -/
structure RulesWritten (tables' : WorkerTables) : Prop where
  status : ¬ Usable runtime settings tables deviceId clock →
    ∀ registry, latestRegistry tables.models deviceId = some registry →
      ∃ model ∈ tables'.models, model.id = registry.id ∧
        (model.status = "stale" ∨ model.status = "error")
  rows : ∀ mode first last row, (mode = true ↔ Usable runtime settings tables deviceId clock) →
    (targets tables.rows deviceId mode).head? = some first →
    (targets tables.rows deviceId mode).getLast? = some last →
    row ∈ targets tables.rows deviceId mode →
    ∃ diagnostics,
      ruled math tables deviceId (targets tables.rows deviceId mode) first last row =
        some diagnostics ∧
      ∃ row' ∈ tables'.rows, row'.id = row.id ∧
        (diagnostics ≠ [] → row'.anomalyReason = some (diagnosticReason diagnostics))
  alarm : ∀ mode first last, (mode = true ↔ Usable runtime settings tables deviceId clock) →
    (targets tables.rows deviceId mode).head? = some first →
    (targets tables.rows deviceId mode).getLast? = some last →
    ∃ diagnostics,
      ruled math tables deviceId (targets tables.rows deviceId mode) first last last =
        some diagnostics ∧
      SensorAlarmShows tables deviceId clock diagnostics tables'.alarms

/-- The call returns normally and writes what the rules find. -/
def RulesRun : Prop :=
  ∃ processed tables',
    scoreDeviceOnce math runtime settings tables deviceId clock = .ok (processed, tables') ∧
      RulesWritten math runtime settings tables deviceId clock tables'

/-- Where the model is usable, each target for which the rules find something has features. -/
def FaultyHaveFeatures : Prop :=
  ∀ first last row diagnostics, Usable runtime settings tables deviceId clock →
    (targets tables.rows deviceId true).head? = some first →
    (targets tables.rows deviceId true).getLast? = some last →
    row ∈ targets tables.rows deviceId true →
    ruled math tables deviceId (targets tables.rows deviceId true) first last row = some diagnostics →
    diagnostics ≠ [] → HasFeatures math tables.rows deviceId first last row

/-- Nothing that the call reads raises an error that ends it, and no target with a fault is left to wait
for features. -/
structure CallTolerated : Prop where
  model : ∀ registry, latestRegistry tables.models deviceId = some registry →
    ModelTolerated runtime settings registry deviceId
  scores : ∀ registry bundle first last, latestRegistry tables.models deviceId = some registry →
    currentBundle runtime settings registry deviceId clock.now = .ok (some bundle) →
    (targets tables.rows deviceId true).head? = some first →
    (targets tables.rows deviceId true).getLast? = some last →
    RowsTolerated bundle
      (generateFeatures math .default (samplesBetween tables.rows deviceId first last))
  features : FaultyHaveFeatures math runtime settings tables deviceId clock

/-- The tables after a device's turn in `run_once`. -/
def turnStep (tables : WorkerTables) (turn : String × ScoringClock) : WorkerTables :=
  match scoreDeviceOnce math runtime settings tables turn.1 turn.2 with
  | .ok (_, tables) => tables
  | .error _ => tables

/-- `run_once` goes through all devices, and for each of them the rules run. -/
structure ProcessesAll (turns : List (String × ScoringClock)) : Prop where
  returns : ∃ processed, (runOnce math runtime settings tables turns).1 = .ok processed
  rules : StepsMeet (turnStep math runtime settings)
    (fun tables turn => RulesRun math runtime settings tables turn.1 turn.2) tables turns

end Property

section Call

variable {math : FloatMath} {P : Type} {runtime : Runtime P} {settings : Settings}
  {tables : WorkerTables} {deviceId : String} {clock : ScoringClock} {loaded : Loaded}

theorem ready_iff_usable
    (hloaded : loadReadyBundle runtime settings tables.models deviceId clock.now = .ok loaded) :
    loaded.isReady = true ↔ Usable runtime settings tables deviceId clock := by
  rcases loadReadyBundle_cases hloaded with ⟨hnone, rfl⟩ | ⟨registry, hregistry, hcases⟩
  · constructor
    · intro h
      cases h
    · rintro ⟨registry, bundle, hsome, -⟩
      rw [hnone] at hsome
      cases hsome
  · rcases hcases with ⟨bundle, hbundle, rfl⟩ | ⟨hunusable, status, code, diagnostic, -, rfl⟩
    · exact ⟨fun _ => ⟨registry, bundle, hregistry, hbundle⟩, fun _ => rfl⟩
    · constructor
      · intro h
        cases h
      · rintro ⟨registry', bundle, hsome, hbundle⟩
        rw [hregistry] at hsome
        cases hsome
        exact absurd hbundle (hunusable bundle)

/-- The registry row of an unusable model is marked. -/
theorem unusable_marked
    (hloaded : loadReadyBundle runtime settings tables.models deviceId clock.now = .ok loaded)
    (hunusable : ¬ Usable runtime settings tables deviceId clock) {registry : AnomalyModel}
    (hregistry : latestRegistry tables.models deviceId = some registry) :
    ∃ marked, loaded.registry? = some marked ∧ marked.id = registry.id ∧
      (marked.status = "stale" ∨ marked.status = "error") := by
  rcases loadReadyBundle_cases hloaded with ⟨hnone, -⟩ | ⟨registry', hregistry', hcases⟩
  · rw [hnone] at hregistry
    cases hregistry
  · rw [hregistry'] at hregistry
    cases hregistry
    rcases hcases with ⟨bundle, hbundle, -⟩ | ⟨-, status, code, diagnostic, hstatus, rfl⟩
    · exact absurd ⟨registry, bundle, hregistry', hbundle⟩ hunusable
    · exact ⟨_, rfl, rfl, hstatus⟩

theorem mem_writeModel {models : List AnomalyModel} {written registry : AnomalyModel}
    (hmem : registry ∈ models) (hid : written.id = registry.id) :
    written ∈ writeModel models (some written) :=
  List.mem_map.mpr ⟨registry, hmem, if_pos hid.symm⟩

/-- The sensor alarm after a call shows what was found for its last target. -/
theorem sensorAlarm_shows {judged : List Judged} {item : Judged} (hlast : judged.getLast? = some item) :
    SensorAlarmShows tables deviceId clock item.diagnostics
      (alarmsAfter tables deviceId loaded clock judged) := by
  have hlatest : (scoring deviceId loaded clock judged).targets.getLast? = some item.target := by
    rw [scoring, List.getLast?_map, hlast, Option.map_some]
  have halarms : alarmsAfter tables deviceId loaded clock judged =
      (scoring deviceId loaded clock judged).alarms tables.database := rfl
  rw [halarms]
  have hdevice : (scoring deviceId loaded clock judged).deviceId = deviceId := rfl
  have hnow : (scoring deviceId loaded clock judged).sensorNow = clock.sensorNow := rfl
  constructor
  · intro hsome
    obtain ⟨alarm, hmem, hactive, hsource, hsummary⟩ :=
      @sensor_raised tables.database (scoring deviceId loaded clock judged) item.target hlatest hsome
    rw [hdevice] at hactive
    exact ⟨alarm, hmem, hactive, hsource, hsummary⟩
  · intro hnil key alarm hfound
    rw [← hdevice] at hfound
    rw [← hnow]
    exact sensor_cleared hlatest hnil hfound

/-- **What a call writes.** It is what the rules ask for exactly where the faulty targets of a usable
model have features. -/
theorem rulesWritten_iff (hdevice : deviceId.length ≤ 63)
    (hversions : ∀ model ∈ tables.models, model.modelVersion.length ≤ 80)
    (hloaded : loadReadyBundle runtime settings tables.models deviceId clock.now = .ok loaded)
    {processed : Nat} {tables' : WorkerTables}
    (hscored : scoreLoaded math tables deviceId loaded clock = .ok (processed, tables')) :
    RulesWritten math runtime settings tables deviceId clock tables' ↔
      FaultyHaveFeatures math runtime settings tables deviceId clock := by
  have hready := ready_iff_usable hloaded
  have hmode : ∀ mode, (mode = true ↔ Usable runtime settings tables deviceId clock) →
      mode = loaded.isReady := fun mode hmode => Bool.eq_iff_iff.mpr (hmode.trans hready.symm)
  have hnotReady : ¬ Usable runtime settings tables deviceId clock → loaded.isReady = false :=
    fun hunusable => eq_false_of_ne_true (mt hready.mp hunusable)
  by_cases hnone : targets tables.rows deviceId loaded.isReady = []
  · rw [scoreLoaded_none math hnone] at hscored
    obtain ⟨-, rfl⟩ := Prod.mk.inj (Except.ok.inj hscored)
    apply iff_of_true
    · refine ⟨?_, ?_, ?_⟩
      · intro hunusable registry hregistry
        obtain ⟨marked, hmarked, hid, hstatus⟩ := unusable_marked hloaded hunusable hregistry
        rw [hmarked]
        exact ⟨marked, mem_writeModel (latestRegistry_mem hregistry).1 hid, hid, hstatus⟩
      · intro mode first last row hready hfirst
        rw [hmode mode hready, hnone] at hfirst
        cases hfirst
      · intro mode first last hready hfirst
        rw [hmode mode hready, hnone] at hfirst
        cases hfirst
    · intro first last row diagnostics husable hfirst
      rw [← hready.mpr husable, hnone] at hfirst
      cases hfirst
  · obtain ⟨first, hfirst⟩ := Option.isSome_iff_exists.mp
      (Option.isSome_iff_ne_none.mpr (mt List.head?_eq_none_iff.mp hnone))
    obtain ⟨last, hlast⟩ := Option.isSome_iff_exists.mp (List.getLast?_isSome.mpr hnone)
    rw [scoreLoaded_some math hdevice (loaded_sound hversions hloaded).1 hfirst hlast] at hscored
    cases hresults : resultsById math loaded (samplesBetween tables.rows deviceId first last)
        ((targets tables.rows deviceId loaded.isReady).map (·.id)) with
    | error error =>
        rw [hresults] at hscored
        cases hscored
    | ok results =>
        rw [hresults] at hscored
        obtain ⟨-, rfl⟩ := Prod.mk.inj (Except.ok.inj hscored)
        constructor
        · intro hwritten first' last' row diagnostics husable hfirst' hlast' hrow hruled hsome
          obtain ⟨diagnostics', hruled', row', hrow', hid, hcarried⟩ :=
            hwritten.rows true first' last' row (iff_of_true rfl husable) hfirst' hlast' hrow
          rw [← hready.mpr husable] at hfirst' hlast' hrow hruled hruled'
          rw [hfirst] at hfirst'
          rw [hlast] at hlast'
          cases hfirst'
          cases hlast'
          rw [hruled] at hruled'
          cases hruled'
          exact (carried_iff hresults hrow hruled hsome).mp ⟨row', hrow', hid, hcarried hsome⟩
            (hready.mpr husable)
        · intro hfeatures
          refine ⟨?_, ?_, ?_⟩
          · intro hunusable registry hregistry
            obtain ⟨marked, hmarked, hid, hstatus⟩ := unusable_marked hloaded hunusable hregistry
            dsimp only [settled]
            rw [hmarked, hnotReady hunusable]
            exact ⟨marked, mem_writeModel (latestRegistry_mem hregistry).1 hid, hid, hstatus⟩
          · intro mode first' last' row hready' hfirst' hlast' hrow
            obtain rfl := hmode mode hready'
            rw [hfirst] at hfirst'
            rw [hlast] at hlast'
            cases hfirst'
            cases hlast'
            obtain ⟨diagnostics, hruled⟩ : ∃ diagnostics, ruled math tables deviceId
                (targets tables.rows deviceId loaded.isReady) first last row = some diagnostics :=
              ruled_some hfirst hlast hrow
            refine ⟨diagnostics, hruled, ?_⟩
            by_cases hsome : diagnostics = []
            · obtain ⟨item, hid, -, -, hstored⟩ := stored_ruled results hrow hruled
              exact ⟨_, hstored, (written_id item loaded).trans hid, fun h => absurd hsome h⟩
            · have husable : loaded.isReady = true → HasFeatures math tables.rows deviceId first last row := by
                intro htrue
                rw [htrue] at hfirst hlast hrow hruled
                exact hfeatures first last row diagnostics (hready.mp htrue) hfirst hlast hrow hruled hsome
              obtain ⟨row', hrow', hid, hreason⟩ := (carried_iff hresults hrow hruled hsome).mpr husable
              exact ⟨row', hrow', hid, fun _ => hreason⟩
          · intro mode first' last' hready' hfirst' hlast'
            obtain rfl := hmode mode hready'
            rw [hfirst] at hfirst'
            rw [hlast] at hlast'
            cases hfirst'
            cases hlast'
            obtain ⟨diagnostics, hruled⟩ : ∃ diagnostics, ruled math tables deviceId
                (targets tables.rows deviceId loaded.isReady) first last last = some diagnostics :=
              ruled_some hfirst hlast (List.mem_of_getLast? hlast)
            have hjudged : (foundAll math tables.rows deviceId loaded first last results).getLast? =
                some (found math (samplesBetween tables.rows deviceId first last)
                  ((targets tables.rows deviceId loaded.isReady).map (·.id)) results last) := by
              rw [foundAll, List.getLast?_map, hlast, Option.map_some]
            have hshows : SensorAlarmShows tables deviceId clock _
                (alarmsAfter tables deviceId loaded clock _) := sensorAlarm_shows hjudged
            have hdiagnostics : (found math (samplesBetween tables.rows deviceId first last)
                ((targets tables.rows deviceId loaded.isReady).map (·.id)) results last).diagnostics =
                  diagnostics := congrArg (·.getD []) hruled
            rw [hdiagnostics] at hshows
            exact ⟨diagnostics, hruled, hshows⟩

/-- A call completes where its model can score the rows. -/
theorem scoreLoaded_completes (hdevice : deviceId.length ≤ 63) (hfits : loaded.Fits) :
    (∃ result, scoreLoaded math tables deviceId loaded clock = .ok result) ↔
      ∀ first last, (targets tables.rows deviceId loaded.isReady).head? = some first →
        (targets tables.rows deviceId loaded.isReady).getLast? = some last →
        ∃ results, resultsById math loaded (samplesBetween tables.rows deviceId first last)
          ((targets tables.rows deviceId loaded.isReady).map (·.id)) = .ok results := by
  constructor
  · rintro ⟨result, hresult⟩ first last hfirst hlast
    rw [scoreLoaded_some math hdevice hfits hfirst hlast] at hresult
    cases hresults : resultsById math loaded (samplesBetween tables.rows deviceId first last)
        ((targets tables.rows deviceId loaded.isReady).map (·.id)) with
    | error error =>
        rw [hresults] at hresult
        cases hresult
    | ok results => exact ⟨results, rfl⟩
  · intro h
    by_cases hnone : targets tables.rows deviceId loaded.isReady = []
    · exact ⟨_, scoreLoaded_none math hnone⟩
    · obtain ⟨first, hfirst⟩ := Option.isSome_iff_exists.mp
        (Option.isSome_iff_ne_none.mpr (mt List.head?_eq_none_iff.mp hnone))
      obtain ⟨last, hlast⟩ := Option.isSome_iff_exists.mp (List.getLast?_isSome.mpr hnone)
      obtain ⟨results, hresults⟩ := h first last hfirst hlast
      rw [scoreLoaded_some math hdevice hfits hfirst hlast, hresults]
      exact ⟨_, rfl⟩

theorem resultsById_completes {registry : AnomalyModel} {bundle : ModelBundle}
    (hchecked : bundle.Checked) (samples : List TelemetrySample) (ids : List Nat) :
    (∃ results, resultsById math (.ready registry bundle) samples ids = .ok results) ↔
      RowsTolerated bundle (generateFeatures math .default samples) := by
  rw [← scoreRows_completes math hchecked]
  constructor
  · rintro ⟨results, hresults⟩
    obtain ⟨scored, hscored, -⟩ := bind_eq_ok.mp hresults
    exact ⟨scored, hscored⟩
  · rintro ⟨scored, hscored⟩
    exact ⟨_, bind_eq_ok.mpr ⟨scored, hscored, rfl⟩⟩

/-- **One call.** The rules run exactly where the call tolerates what it reads. -/
theorem rulesRun_iff (hdevice : deviceId.length ≤ 63)
    (hversions : ∀ model ∈ tables.models, model.modelVersion.length ≤ 80) :
    RulesRun math runtime settings tables deviceId clock ↔
      CallTolerated math runtime settings tables deviceId clock := by
  constructor
  · rintro ⟨processed, tables', hscored, hwritten⟩
    obtain ⟨loaded, hloaded, hcall⟩ := bind_eq_ok.mp hscored
    refine ⟨(loadReadyBundle_completes runtime settings deviceId).mp ⟨loaded, hloaded⟩, ?_,
      (rulesWritten_iff hdevice hversions hloaded hcall).mp hwritten⟩
    intro registry bundle first last hregistry hbundle hfirst hlast
    have hfits := (loaded_sound hversions hloaded).1
    rw [loadReadyBundle, hregistry] at hloaded
    dsimp only at hloaded
    rw [hbundle] at hloaded
    cases hloaded
    have hresults := (scoreLoaded_completes hdevice hfits).mp ⟨_, hcall⟩ first last hfirst hlast
    exact (resultsById_completes (currentBundle_checked hbundle).1 _ _).mp hresults
  · intro h
    obtain ⟨loaded, hloaded⟩ := (loadReadyBundle_completes runtime settings deviceId).mpr h.model
    have hfits := (loaded_sound hversions hloaded).1
    have hcompletes : ∃ result, scoreLoaded math tables deviceId loaded clock = .ok result := by
      rw [scoreLoaded_completes hdevice hfits]
      intro first last hfirst hlast
      rcases loadReadyBundle_cases hloaded with ⟨-, rfl⟩ | ⟨registry, hregistry, hcases⟩
      · exact ⟨[], rfl⟩
      · rcases hcases with ⟨bundle, hbundle, rfl⟩ | ⟨-, status, code, diagnostic, -, rfl⟩
        · exact (resultsById_completes (currentBundle_checked hbundle).1 _ _).mpr
            (h.scores registry bundle first last hregistry hbundle hfirst hlast)
        · exact ⟨[], rfl⟩
    obtain ⟨⟨processed, tables'⟩, hscored⟩ := hcompletes
    exact ⟨processed, tables', bind_eq_ok.mpr ⟨loaded, hloaded, hscored⟩,
      (rulesWritten_iff hdevice hversions hloaded hscored).mpr h.features⟩

/-! ### Runs over all devices -/

theorem mem_of_mem_writeModel {models : List AnomalyModel} {written : Option AnomalyModel}
    {model : AnomalyModel} (h : model ∈ writeModel models written) :
    model ∈ models ∨ written = some model := by
  cases written with
  | none => exact .inl h
  | some registry =>
      obtain ⟨before, hbefore, hmodel⟩ := List.mem_map.mp h
      split at hmodel
      · exact .inr (congrArg some hmodel)
      · exact .inl (hmodel ▸ hbefore)

/-- A call changes no version of a registered model. -/
theorem scoreLoaded_versions (hdevice : deviceId.length ≤ 63) (hfits : loaded.Fits) {processed : Nat}
    {tables' : WorkerTables}
    (hscored : scoreLoaded math tables deviceId loaded clock = .ok (processed, tables'))
    (hversions : ∀ model ∈ tables.models, model.modelVersion.length ≤ 80) :
    ∀ model ∈ tables'.models, model.modelVersion.length ≤ 80 := by
  intro model hmodel
  by_cases hnone : targets tables.rows deviceId loaded.isReady = []
  · rw [scoreLoaded_none math hnone] at hscored
    obtain ⟨-, rfl⟩ := Prod.mk.inj (Except.ok.inj hscored)
    rcases mem_of_mem_writeModel hmodel with hbefore | hwritten
    · exact hversions model hbefore
    · exact (hfits model hwritten).1
  · obtain ⟨first, hfirst⟩ := Option.isSome_iff_exists.mp
      (Option.isSome_iff_ne_none.mpr (mt List.head?_eq_none_iff.mp hnone))
    obtain ⟨last, hlast⟩ := Option.isSome_iff_exists.mp (List.getLast?_isSome.mpr hnone)
    obtain ⟨results, hresults⟩ :=
      (scoreLoaded_completes hdevice hfits).mp ⟨_, hscored⟩ first last hfirst hlast
    rw [scoreLoaded_some math hdevice hfits hfirst hlast, hresults] at hscored
    obtain ⟨-, rfl⟩ := Prod.mk.inj (Except.ok.inj hscored)
    rcases mem_of_mem_writeModel hmodel with hbefore | hwritten
    · exact hversions model hbefore
    · obtain ⟨registry, hregistry, rfl⟩ := Option.map_eq_some_iff.mp hwritten
      have hversion := (hfits registry hregistry).1
      split
      · exact hversion
      · exact hversion

theorem turnStep_versions {turn : String × ScoringClock} (hdevice : turn.1.length ≤ 63)
    (hversions : ∀ model ∈ tables.models, model.modelVersion.length ≤ 80) :
    ∀ model ∈ (turnStep math runtime settings tables turn).models, model.modelVersion.length ≤ 80 := by
  rw [turnStep]
  cases hscored : scoreDeviceOnce math runtime settings tables turn.1 turn.2 with
  | error error => exact hversions
  | ok result =>
      obtain ⟨loaded, hloaded, hcall⟩ := bind_eq_ok.mp hscored
      exact scoreLoaded_versions hdevice (loaded_sound hversions hloaded).1 hcall hversions

/-- `run_once` returns where every turn does. -/
theorem runOnce_returns {turns : List (String × ScoringClock)} (tables : WorkerTables) :
    (∃ processed, (runOnce math runtime settings tables turns).1 = .ok processed) ↔
      StepsMeet (turnStep math runtime settings)
        (fun tables turn => ∃ result,
          scoreDeviceOnce math runtime settings tables turn.1 turn.2 = .ok result) tables turns := by
  induction turns generalizing tables with
  | nil => exact ⟨fun _ => trivial, fun _ => ⟨0, rfl⟩⟩
  | cons turn turns ih =>
      obtain ⟨deviceId, clock⟩ := turn
      rw [runOnce, StepsMeet, ← ih, turnStep]
      dsimp only
      cases scoreDeviceOnce math runtime settings tables deviceId clock with
      | error error =>
          constructor
          · rintro ⟨processed, h⟩
            cases h
          · rintro ⟨⟨result, h⟩, -⟩
            cases h
      | ok result =>
          obtain ⟨scored, tables'⟩ := result
          dsimp only
          constructor
          · rintro ⟨processed, h⟩
            refine ⟨⟨_, rfl⟩, ?_⟩
            cases hrest : (runOnce math runtime settings tables' turns).1 with
            | ok processed => exact ⟨processed, rfl⟩
            | error error =>
                rw [hrest] at h
                cases h
          · rintro ⟨-, processed, h⟩
            rw [h]
            exact ⟨_, rfl⟩

/-- **The rules never stop** exactly where every call tolerates what it reads at its turn. -/
theorem processesAll_iff {turns : List (String × ScoringClock)}
    (hdevices : ∀ turn ∈ turns, turn.1.length ≤ 63)
    (hversions : ∀ model ∈ tables.models, model.modelVersion.length ≤ 80) :
    ProcessesAll math runtime settings tables turns ↔
      StepsMeet (turnStep math runtime settings)
        (fun tables turn => CallTolerated math runtime settings tables turn.1 turn.2) tables turns := by
  have hrules : StepsMeet (turnStep math runtime settings)
      (fun tables turn => RulesRun math runtime settings tables turn.1 turn.2) tables turns ↔
        StepsMeet (turnStep math runtime settings)
          (fun tables turn => CallTolerated math runtime settings tables turn.1 turn.2)
          tables turns := by
    induction turns generalizing tables with
    | nil => exact Iff.rfl
    | cons turn turns ih =>
        have hdevice := hdevices turn List.mem_cons_self
        rw [StepsMeet, StepsMeet, rulesRun_iff hdevice hversions,
          ih (fun turn' hturn' => hdevices turn' (.tail _ hturn'))
            (turnStep_versions hdevice hversions)]
  rw [← hrules]
  constructor
  · exact fun h => h.rules
  · intro h
    refine ⟨(runOnce_returns tables).mpr (h.mono ?_), h⟩
    rintro tables turn ⟨processed, tables', hscored, -⟩
    exact ⟨_, hscored⟩

end Call

/-! ### A model with an infinite count -/

/-- The demo device with its model, and a first reading that is out of range. -/
def demoRegistered : WorkerTables :=
  { demoTables with rows := hotRow :: demoTables.rows.tail, models := [demoModel] }
where
  hotRow : TelemetryRow :=
    let row := demoTables.demoRow 1 0 none
    { row with telemetry := { row.telemetry with
        measurements := { row.telemetry.measurements with temperatureC := some (.finite 250) } } }

def demoTurn : String × ScoringClock := ("motor-01", ⟨1786406400000001, 0, 0, 0, 0, 0⟩)

theorem infinite_not_loaded : (loadReadyBundle demoRuntime (demoSettings (.nonFinite .infinity))
    [demoModel] "motor-01" 1786406400000001).toOption.isNone = true := by
  decide +kernel

/-- With an infinite count in its metadata, the call raises `OverflowError`. -/
theorem infinity_stops_rules :
    ¬ ProcessesAll demoMath demoRuntime (demoSettings (.nonFinite .infinity)) demoRegistered
      [demoTurn, ("motor-02", demoTurn.2)] := by
  rintro ⟨-, ⟨processed, tables', hscored, -⟩, -⟩
  obtain ⟨loaded, hloaded, -⟩ := bind_eq_ok.mp hscored
  have hnone := infinite_not_loaded
  change loadReadyBundle demoRuntime (demoSettings (.nonFinite .infinity)) [demoModel] "motor-01"
    1786406400000001 = .ok loaded at hloaded
  rw [hloaded] at hnone
  cases hnone

/-- With a text for the count the model cannot be used. -/
theorem unreadable_loaded : ∃ loaded, loadReadyBundle demoRuntime (demoSettings (.string (codes "many")))
    [demoModel] "motor-01" 1786406400000001 = .ok loaded ∧ loaded.isReady = false := by
  have hready : (loadReadyBundle demoRuntime (demoSettings (.string (codes "many"))) [demoModel] "motor-01"
      1786406400000001).toOption.map Loaded.isReady = some false := by
    decide +kernel
  obtain ⟨loaded, hloaded, hunusable⟩ := Option.map_eq_some_iff.mp hready
  refine ⟨loaded, ?_, hunusable⟩
  generalize loadReadyBundle _ _ _ _ _ = outcome at hloaded
  cases outcome with
  | error error => cases hloaded
  | ok loaded' => rw [Option.some.inj hloaded]

theorem processesAll_demo : ProcessesAll demoMath demoRuntime (demoSettings (.string (codes "many")))
    demoRegistered [demoTurn] := by
  have hversions : ∀ model ∈ demoRegistered.models, model.modelVersion.length ≤ 80 := by decide
  have hdevices : ∀ turn ∈ [demoTurn], turn.1.length ≤ 63 := by decide
  obtain ⟨loaded, hloaded, hunusable⟩ := unreadable_loaded
  have hnone : ¬ Usable demoRuntime (demoSettings (.string (codes "many"))) demoRegistered demoTurn.1
      demoTurn.2 := by
    intro husable
    rw [← ready_iff_usable hloaded, hunusable] at husable
    cases husable
  refine (processesAll_iff hdevices hversions).mpr ⟨⟨?_, ?_, ?_⟩, trivial⟩
  · exact (loadReadyBundle_completes demoRuntime _ "motor-01").mp ⟨_, hloaded⟩
  · intro registry bundle first last hregistry hbundle
    exact absurd ⟨registry, bundle, hregistry, hbundle⟩ hnone
  · intro first last row diagnostics husable
    exact absurd husable hnone

end IiotMonitoring.AnomalyWorker
