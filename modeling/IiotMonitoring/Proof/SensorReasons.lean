import IiotMonitoring.Proof.ScoringOutcome
import IiotMonitoring.Proof.ScoringWindows
import IiotMonitoring.Proof.SensorRules

/-!
# What a row says of its sensors

A ready model passes over a target whose window gives no features, and with it over what the sensor
rules found for the row. The rules themselves judge the last sample of a slice by time, which is the row
only where no sample received before it is newer.
-/

namespace IiotMonitoring.AnomalyWorker

/-! ### Reasons -/

section Reasons

variable (math : FloatMath) {P : Type} (runtime : Runtime P) (deviceId : String)
  (tables : WorkerTables) (call : ScoringCall)

/-- A handled row for which the rules find something carries it after the call. -/
def CarriesDiagnostics : Prop :=
  ∀ processed tables' loaded first last row diagnostics,
    call.score math runtime deviceId tables = .ok (processed, tables') →
    call.loaded runtime deviceId = .ok loaded →
    (targets tables.rows deviceId loaded.isReady).head? = some first →
    (targets tables.rows deviceId loaded.isReady).getLast? = some last →
    row ∈ targets tables.rows deviceId loaded.isReady →
    ruled math tables deviceId (targets tables.rows deviceId loaded.isReady) first last row =
      some diagnostics →
    diagnostics ≠ [] →
    (∃ row' ∈ tables'.rows, row'.id = row.id) ∧
      ∀ row' ∈ tables'.rows, row'.id = row.id →
        row'.anomalyReason = some (diagnosticReason diagnostics)

/-- Where a ready model scores the rows, each target for which the rules find something has features. -/
def DiagnosedHaveFeatures : Prop :=
  ∀ registry bundle first last row diagnostics,
    call.loaded runtime deviceId = .ok (.ready registry bundle) →
    (targets tables.rows deviceId true).head? = some first →
    (targets tables.rows deviceId true).getLast? = some last →
    (∃ results, scoreRows math bundle (generateFeatures math .default
      (samplesBetween tables.rows deviceId first last)) = .ok results) →
    row ∈ targets tables.rows deviceId true →
    ruled math tables deviceId (targets tables.rows deviceId true) first last row = some diagnostics →
    diagnostics ≠ [] →
    HasFeatures math tables.rows deviceId first last row

variable {math} {runtime} {deviceId} {tables} {call}

/-- A row that waits for context does not say what the rules found for it. -/
theorem CarriesDiagnostics.features (hfits : call.Fits deviceId)
    (h : CarriesDiagnostics math runtime deviceId tables call) :
    DiagnosedHaveFeatures math runtime deviceId tables call := by
  intro registry bundle first last row diagnostics hloaded hfirst hlast hscored hrow hruled hsome
  obtain ⟨results, hresults⟩ := (resultsById_ready math).mpr hscored
  have hscore := call.score_some math tables hfits hloaded hfirst hlast
  rw [hresults] at hscore
  obtain ⟨⟨row', hrow', hid⟩, hcarried⟩ :=
    h _ _ _ first last row diagnostics hscore hloaded hfirst hlast hrow hruled hsome
  have hreason := hcarried row' hrow' hid
  obtain ⟨item, hdiagnostics, hresult, rfl⟩ := written_of_key hrow hruled hrow' hid
  rw [written_reason _ (hdiagnostics ▸ hsome), hresult, hdiagnostics] at hreason
  apply (result_isSome_iff math hresults (List.mem_map_of_mem hrow)).mp
  by_contra hnone
  rw [Option.not_isSome_iff_eq_none] at hnone
  rw [hnone] at hreason
  obtain ⟨history, rfl⟩ := ruled_detected hruled
  exact diagnosticReason_ne_waiting math hsome (Option.some.inj hreason).symm

/-- **Reasons.** Every row says what the rules found for it exactly where a ready model has features
for all of these rows. -/
theorem carriesDiagnostics_iff (hfits : call.Fits deviceId) :
    CarriesDiagnostics math runtime deviceId tables call ↔
      DiagnosedHaveFeatures math runtime deviceId tables call := by
  constructor
  · exact fun h => h.features hfits
  · intro h processed tables' loaded first last row diagnostics hscore hloaded hfirst hlast hrow hruled
      hsome
    have hwritten := call.score_some math tables hfits hloaded hfirst hlast
    rw [hscore] at hwritten
    cases hresults : resultsById math loaded (samplesBetween tables.rows deviceId first last)
        ((targets tables.rows deviceId loaded.isReady).map (·.id)) with
    | error error =>
        rw [hresults] at hwritten
        cases hwritten
    | ok results =>
        rw [hresults] at hwritten
        obtain ⟨-, rfl⟩ := Prod.mk.inj (Except.ok.inj hwritten)
        have hfound : (loaded.isReady && (lookupLast results row.id).isNone) = false := by
          cases loaded with
          | notRegistered => rfl
          | unusable registry code => rfl
          | ready registry bundle =>
              have hfeatures := h registry bundle first last row diagnostics hloaded hfirst hlast
                ((resultsById_ready math).mp ⟨results, hresults⟩) hrow hruled hsome
              have hresult := (result_isSome_iff math hresults (List.mem_map_of_mem hrow)).mpr hfeatures
              obtain ⟨result, hresult⟩ := Option.isSome_iff_exists.mp hresult
              rw [hresult]
              rfl
        constructor
        · obtain ⟨item, hid, -, -, hstored⟩ := stored_ruled results hrow hruled
          exact ⟨_, hstored, (written_id item loaded).trans hid⟩
        · intro row' hrow' hid
          obtain ⟨item, hdiagnostics, hresult, rfl⟩ := written_of_key hrow hruled hrow' hid
          rw [written_reason _ (hdiagnostics ▸ hsome), hresult, hfound, hdiagnostics]
          rfl

end Reasons

/-- A device whose first reading has no vibration. -/
def demoSilent : WorkerTables where
  rows := [silentRow]
  alarms := []
  models := []
  errors := []
where
  silentRow : TelemetryRow :=
    let row := demoTables.demoRow 1 0 none
    { row with telemetry := { row.telemetry with
        measurements := { row.telemetry.measurements with vibrationRmsMps2 := none } } }

theorem carriesDiagnostics_notReady :
    CarriesDiagnostics demoMath demoRuntime "motor-01" demoSilent (demoCall []) ↔
      DiagnosedHaveFeatures demoMath demoRuntime "motor-01" demoSilent (demoCall []) :=
  carriesDiagnostics_iff ⟨by decide, by decide⟩

/-- The missing vibration is what leaves the row without features. -/
theorem missing_vibration_hidden :
    ¬ CarriesDiagnostics demoMath demoRuntime "motor-01" demoSilent (demoCall [demoModel]) := by
  intro hcarries
  have hfits : (demoCall [demoModel]).Fits "motor-01" := ⟨by decide, by decide⟩
  obtain ⟨registry, bundle, hloaded⟩ := demoCall_loads
  have htargets : targets demoSilent.rows "motor-01" true = [demoSilent.silentRow] := by
    decide +kernel
  have hfound : (ruled demoMath demoSilent "motor-01" [demoSilent.silentRow] demoSilent.silentRow
      demoSilent.silentRow demoSilent.silentRow).any (!·.isEmpty) = true := by
    decide +kernel
  have hnone : generateFeatures demoMath .default (samplesBetween demoSilent.rows "motor-01"
      demoSilent.silentRow demoSilent.silentRow) = [] := by
    decide +kernel
  obtain ⟨diagnostics, hruled, hsome⟩ := (Option.any_eq_true _ _).mp hfound
  have hchecked := (loaded_sound hfits.versions hloaded).2 registry bundle rfl
  have hscored : scoreRows demoMath bundle [] = .ok [] := by
    rw [scoreRows, hchecked.1.schema]
    rfl
  have hfeatures := hcarries.features hfits registry bundle demoSilent.silentRow demoSilent.silentRow
    demoSilent.silentRow diagnostics hloaded (htargets ▸ rfl) (htargets ▸ rfl) ⟨[], hnone ▸ hscored⟩
    (htargets ▸ List.mem_singleton_self _) (htargets ▸ hruled)
    (List.isEmpty_eq_false_iff.mp (Bool.not_eq_true' _ ▸ hsome))
  rw [HasFeatures, hnone] at hfeatures
  cases hfeatures

/-! ### The judged row -/

section Own

variable (math : FloatMath) {P : Type} (runtime : Runtime P) (deviceId : String)
  (tables : WorkerTables) (call : ScoringCall)

/-- The samples that the rules are given for a row. -/
def GivenFor (samples : List TelemetrySample) (row : TelemetryRow) (given : List TelemetrySample) : Prop :=
  ∃ place, samples[place]? = some row.sample ∧ given = trailing samples place

/-- The row is the last of the samples that the rules are given for it, in the order of times and keys. -/
def JudgedLast (samples : List TelemetrySample) (row : TelemetryRow) : Prop :=
  ∀ given, GivenFor samples row given → ∀ other ∈ given, other.before row.sample = true

/-- What a row says for which the rules find nothing: the state of the model, that the row waits, or the
verdict of the model on it. -/
def PlainReason (samples : List TelemetrySample) (row : TelemetryRow) (reason : String) : Loaded → Prop
  | .ready _ bundle => reason = "FEATURE_WINDOW_NOT_READY: waiting for causal context" ∨
      ∃ results, scoreRows math bundle (generateFeatures math .default samples) = .ok results ∧
        ∃ result ∈ results, result.sampleId = row.id ∧ reason = result.reason
  | loaded => reason = loaded.detail

/-- The row after the call says what the rules find with its own sample as the one that they judge, and
what they find in measurements they find in its own. -/
def SaysOwn (samples : List TelemetrySample) (loaded : Loaded) (row row' : TelemetryRow) : Prop :=
  ∃ given, GivenFor samples row given ∧ currentSample given = some row.sample ∧
    (detectSensorFailures math given).filter isMeasured =
      measuredDiagnostics math row.telemetry.measurements ∧
    (detectSensorFailures math given ≠ [] →
      row'.anomalyReason = some (diagnosticReason (detectSensorFailures math given))) ∧
    (detectSensorFailures math given = [] →
      ∃ reason, PlainReason math samples row reason loaded ∧ row'.anomalyReason = some reason)

/-- After the call every target has its own diagnostics. -/
def DiagnosesOwn : Prop :=
  ∀ processed tables' loaded first last row,
    call.score math runtime deviceId tables = .ok (processed, tables') →
    call.loaded runtime deviceId = .ok loaded →
    (targets tables.rows deviceId loaded.isReady).head? = some first →
    (targets tables.rows deviceId loaded.isReady).getLast? = some last →
    row ∈ targets tables.rows deviceId loaded.isReady →
    ∃ row' ∈ tables'.rows, row'.id = row.id ∧
      SaysOwn math (samplesBetween tables.rows deviceId first last) loaded row row'

/-- Where the samples can be scored, the rules judge every target of the call. -/
def TargetsLast : Prop :=
  ∀ loaded first last row, call.loaded runtime deviceId = .ok loaded →
    (targets tables.rows deviceId loaded.isReady).head? = some first →
    (targets tables.rows deviceId loaded.isReady).getLast? = some last →
    (∀ registry bundle, loaded = .ready registry bundle → ∃ results, scoreRows math bundle
      (generateFeatures math .default (samplesBetween tables.rows deviceId first last)) = .ok results) →
    row ∈ targets tables.rows deviceId loaded.isReady →
    JudgedLast (samplesBetween tables.rows deviceId first last) row

variable {math} {runtime} {deviceId} {tables} {call}

/-- The context rows of a call are different rows. -/
theorem contextRows_keys {rows : List TelemetryRow} (hkeys : (rows.map (·.id)).Nodup)
    (first last : Int) : ((contextRows rows deviceId first last).map (·.id)).Nodup := by
  rw [contextRows, List.map_append, List.map_reverse, List.nodup_append]
  refine ⟨?_, ?_, ?_⟩
  · rw [List.nodup_reverse]
    apply List.Nodup.sublist ((List.take_sublist ..).map _)
    apply ((List.mergeSort_perm _ _).map _).nodup_iff.mpr
    exact hkeys.sublist (List.filter_sublist.map _)
  · apply ((List.mergeSort_perm _ _).map _).nodup_iff.mpr
    exact hkeys.sublist (List.filter_sublist.map _)
  · intro id hearlier id' hbatch hsame
    obtain ⟨row, hrow, rfl⟩ := List.mem_map.mp (List.mem_reverse.mp hearlier)
    obtain ⟨row', hrow', rfl⟩ := List.mem_map.mp hbatch
    have hbefore := List.mem_filter.mp (List.mem_mergeSort.mp (List.mem_of_mem_take hrow))
    have hafter := List.mem_filter.mp (List.mem_mergeSort.mp hrow')
    obtain rfl := List.inj_on_of_nodup_map hkeys hbefore.1 hafter.1 hsame
    simp only [Bool.and_eq_true, decide_eq_true_eq] at hbefore hafter
    omega

theorem trailing_sublist (samples : List TelemetrySample) (place : Nat) :
    (trailing samples place).Sublist samples :=
  (List.drop_sublist ..).trans (List.take_sublist ..)

/-- The samples of a place end with the one at the place. -/
theorem mem_trailing {samples : List TelemetrySample} {place : Nat} {sample : TelemetrySample}
    (hsample : samples[place]? = some sample) : sample ∈ trailing samples place := by
  have hlength := (List.getElem?_eq_some_iff.mp hsample).1
  have hsize : 0 < contextSize := by decide
  have hplace : (trailing samples place)[place - (place + 1 - contextSize)]? = some sample := by
    have hback : place + 1 - contextSize + (place - (place + 1 - contextSize)) = place := by omega
    rw [trailing, List.getElem?_drop, hback, List.getElem?_take_of_lt (Nat.lt_succ_self place), hsample]
  exact List.mem_of_getElem? hplace

/-- A call has results unless a ready model cannot score its samples. -/
theorem resultsById_iff {loaded : Loaded} {samples : List TelemetrySample} {ids : List Nat} :
    (∃ results, resultsById math loaded samples ids = .ok results) ↔
      ∀ registry bundle, loaded = .ready registry bundle → ∃ results, scoreRows math bundle
        (generateFeatures math .default samples) = .ok results := by
  cases loaded with
  | notRegistered => exact iff_of_true ⟨[], rfl⟩ fun _ _ h => by cases h
  | unusable registry code => exact iff_of_true ⟨[], rfl⟩ fun _ _ h => by cases h
  | ready registry bundle =>
      rw [resultsById_ready]
      constructor
      · rintro h _ _ hsame
        cases hsame
        exact h
      · exact fun h => h registry bundle rfl

/-- What is written for a target for which the rules find nothing. -/
theorem plain_written {loaded : Loaded} {samples : List TelemetrySample} {ids : List Nat}
    {results : List (Nat × ScoreResult)} {item : Judged} {row : TelemetryRow}
    (hresults : resultsById math loaded samples ids = .ok results) (hnone : item.diagnostics = [])
    (hresult : item.result = lookupLast results row.id) :
    ∃ reason, PlainReason math samples row reason loaded ∧
      (item.written loaded).anomalyReason = some reason := by
  have hreason : ∀ otherwise, item.reason otherwise = otherwise := by
    intro otherwise
    rw [Judged.reason, hnone]
    rfl
  cases loaded with
  | notRegistered => exact ⟨_, rfl, congrArg some (hreason _)⟩
  | unusable registry code => exact ⟨_, rfl, congrArg some (hreason _)⟩
  | ready registry bundle =>
      cases hfound : item.result with
      | none =>
          refine ⟨_, .inl rfl, ?_⟩
          simp [Judged.written, Loaded.isReady, hfound]
      | some result =>
          obtain ⟨scored, hscored, hlast⟩ := bind_eq_ok.mp hresults
          cases hlast
          obtain ⟨result', hmem, hsame⟩ := List.mem_map.mp (mem_of_lookupLast (hresult.symm.trans hfound))
          obtain ⟨hid, rfl⟩ := Prod.mk.inj hsame
          refine ⟨_, .inr ⟨scored, hscored, result', (List.mem_filter.mp hmem).1, hid, rfl⟩, ?_⟩
          simp [Judged.written, Loaded.isReady, hfound, hreason]

/-- **One target.** It says its own diagnostics exactly where it is the last of its samples, and has
features if it has diagnostics that a ready model might pass over. -/
theorem saysOwn_iff (hkeys : (tables.rows.map (·.id)).Nodup) {loaded : Loaded}
    {first last row : TelemetryRow} {results : List (Nat × ScoreResult)}
    (hfirst : (targets tables.rows deviceId loaded.isReady).head? = some first)
    (hlast : (targets tables.rows deviceId loaded.isReady).getLast? = some last)
    (hresults : resultsById math loaded (samplesBetween tables.rows deviceId first last)
      ((targets tables.rows deviceId loaded.isReady).map (·.id)) = .ok results)
    (hrow : row ∈ targets tables.rows deviceId loaded.isReady) :
    (∃ row' ∈ writeRows tables.rows
        ((foundAll math tables.rows deviceId loaded first last results).map (·.written loaded)),
      row'.id = row.id ∧ SaysOwn math (samplesBetween tables.rows deviceId first last) loaded row row') ↔
      JudgedLast (samplesBetween tables.rows deviceId first last) row ∧
      ∀ diagnostics, ruled math tables deviceId (targets tables.rows deviceId loaded.isReady) first last
        row = some diagnostics → diagnostics ≠ [] → loaded.isReady = true →
          HasFeatures math tables.rows deviceId first last row := by
  have hsamples : ((samplesBetween tables.rows deviceId first last).map (·.sampleId)).Nodup := by
    rw [samplesBetween, List.map_map]
    exact contextRows_keys hkeys _ _
  have hsample : row.sample ∈ samplesBetween tables.rows deviceId first last :=
    List.mem_map_of_mem (targets_context hfirst hlast row hrow)
  obtain ⟨place, hplace⟩ := List.mem_iff_getElem?.mp hsample
  have hgiven : ∀ given, GivenFor (samplesBetween tables.rows deviceId first last) row given ↔
      given = trailing (samplesBetween tables.rows deviceId first last) place := by
    intro given
    constructor
    · rintro ⟨place', hplace', rfl⟩
      rw [same_place hsamples hplace' hplace rfl]
    · exact fun h => ⟨place, hplace, h⟩
  have hkeys' := hsamples.sublist
    ((trailing_sublist (samplesBetween tables.rows deviceId first last) place).map _)
  have hcurrent := @currentSample_eq_some_iff _ hkeys' row.sample
  have hruled : ruled math tables deviceId (targets tables.rows deviceId loaded.isReady) first last row =
      some (detectSensorFailures math
        (trailing (samplesBetween tables.rows deviceId first last) place)) :=
    lookup_diagnostics math hsamples hplace (List.mem_map_of_mem hrow : row.sample.sampleId ∈
      (targets tables.rows deviceId loaded.isReady).map (·.id))
  constructor
  · rintro ⟨row', hrow', hid, given, hgiven', hjudged, -, hsays, -⟩
    obtain rfl := (hgiven given).mp hgiven'
    refine ⟨?_, ?_⟩
    · intro given' hother
      rw [(hgiven given').mp hother]
      exact (hcurrent.mp hjudged).2
    · intro diagnostics hfound hsome
      rw [hruled] at hfound
      obtain rfl := Option.some.inj hfound
      exact (carried_iff hresults hrow hruled hsome).mp ⟨row', hrow', hid, hsays hsome⟩
  · rintro ⟨hlast_row, hfeatures⟩
    have hjudged := hcurrent.mpr ⟨mem_trailing hplace, hlast_row _ ((hgiven _).mpr rfl)⟩
    have hmeasured := detected_measured math hjudged
    by_cases hnone : detectSensorFailures math
        (trailing (samplesBetween tables.rows deviceId first last) place) = []
    · obtain ⟨item, hid, hdiagnostics, hresult, hstored⟩ := stored_ruled results hrow hruled
      exact ⟨_, hstored, (written_id item loaded).trans hid, _, (hgiven _).mpr rfl, hjudged, hmeasured,
        absurd hnone, fun _ => plain_written hresults (hdiagnostics.trans hnone) hresult⟩
    · obtain ⟨row', hrow', hid, hreason⟩ :=
        (carried_iff hresults hrow hruled hnone).mpr (hfeatures _ hruled hnone)
      exact ⟨row', hrow', hid, _, (hgiven _).mpr rfl, hjudged, hmeasured, fun _ => hreason,
        fun hnil => absurd hnil hnone⟩

theorem DiagnosesOwn.target (h : DiagnosesOwn math runtime deviceId tables call)
    (hfits : call.Fits deviceId) (hkeys : (tables.rows.map (·.id)).Nodup) {loaded : Loaded}
    {first last row : TelemetryRow} (hloaded : call.loaded runtime deviceId = .ok loaded)
    (hfirst : (targets tables.rows deviceId loaded.isReady).head? = some first)
    (hlast : (targets tables.rows deviceId loaded.isReady).getLast? = some last)
    (hscores : ∀ registry bundle, loaded = .ready registry bundle → ∃ results, scoreRows math bundle
      (generateFeatures math .default (samplesBetween tables.rows deviceId first last)) = .ok results)
    (hrow : row ∈ targets tables.rows deviceId loaded.isReady) :
    JudgedLast (samplesBetween tables.rows deviceId first last) row ∧
      ∀ diagnostics, ruled math tables deviceId (targets tables.rows deviceId loaded.isReady) first last
        row = some diagnostics → diagnostics ≠ [] → loaded.isReady = true →
          HasFeatures math tables.rows deviceId first last row := by
  obtain ⟨results, hresults⟩ := resultsById_iff.mpr hscores
  have hscore := call.score_some math tables hfits hloaded hfirst hlast
  rw [hresults] at hscore
  exact (saysOwn_iff hkeys hfirst hlast hresults hrow).mp
    (h _ _ loaded first last row hscore hloaded hfirst hlast hrow)

/-- **Diagnostics.** The targets of a call say their own exactly where each is the last of its samples in
the order of times and keys, and has features if a ready model might pass over what the rules found. -/
theorem diagnosesOwn_iff (hfits : call.Fits deviceId) (hkeys : (tables.rows.map (·.id)).Nodup) :
    DiagnosesOwn math runtime deviceId tables call ↔
      TargetsLast math runtime deviceId tables call ∧
        DiagnosedHaveFeatures math runtime deviceId tables call := by
  constructor
  · intro howns
    refine ⟨?_, ?_⟩
    · intro loaded first last row hloaded hfirst hlast hscores hrow
      exact (howns.target hfits hkeys hloaded hfirst hlast hscores hrow).1
    · intro registry bundle first last row diagnostics hloaded hfirst hlast hscored hrow hruled hsome
      have hscores : ∀ registry' bundle', Loaded.ready registry bundle = .ready registry' bundle' →
          ∃ results, scoreRows math bundle' (generateFeatures math .default
            (samplesBetween tables.rows deviceId first last)) = .ok results := by
        intro registry' bundle' hsame
        cases hsame
        exact hscored
      exact (howns.target hfits hkeys hloaded hfirst hlast hscores hrow).2 diagnostics hruled hsome rfl
  · rintro ⟨hlast_rows, hfeatures⟩ processed tables' loaded first last row hscore hloaded hfirst hlast hrow
    have hwritten := call.score_some math tables hfits hloaded hfirst hlast
    rw [hscore] at hwritten
    cases hresults : resultsById math loaded (samplesBetween tables.rows deviceId first last)
        ((targets tables.rows deviceId loaded.isReady).map (·.id)) with
    | error error =>
        rw [hresults] at hwritten
        cases hwritten
    | ok results =>
        rw [hresults] at hwritten
        obtain ⟨-, rfl⟩ := Prod.mk.inj (Except.ok.inj hwritten)
        have hscores := resultsById_iff.mp ⟨results, hresults⟩
        refine (saysOwn_iff hkeys hfirst hlast hresults hrow).mpr ⟨?_, ?_⟩
        · exact hlast_rows loaded first last row hloaded hfirst hlast hscores hrow
        · intro diagnostics hruled hsome hready
          cases loaded with
          | notRegistered => cases hready
          | unusable registry code => cases hready
          | ready registry bundle =>
              exact hfeatures registry bundle first last row diagnostics hloaded hfirst hlast
                (hscores registry bundle rfl) hrow hruled hsome

end Own

/-- A reading without vibration, and one that the device took a minute before it and sent later. -/
def demoReplayed : WorkerTables where
  rows := [{ demoSilent.silentRow with anomalyReason := some "SENSOR_MISSING" }, replayedRow]
  alarms := []
  models := []
  errors := []
where
  replayedRow : TelemetryRow :=
    let row := demoTables.demoRow 2 10000000 none
    { row with telemetry := { row.telemetry with deviceTime := some (-60000000), replayed := true } }

/-- Without a model, the reading without vibration says so. -/
theorem diagnosesOwn_demo : DiagnosesOwn demoMath demoRuntime "motor-01" demoSilent (demoCall []) := by
  have hloaded : (demoCall []).loaded demoRuntime "motor-01" = .ok .notRegistered := loadReadyBundle_nil
  have htargets : targets demoSilent.rows "motor-01" false = [demoSilent.silentRow] := by decide +kernel
  have hsamples : samplesBetween demoSilent.rows "motor-01" demoSilent.silentRow demoSilent.silentRow =
      [demoSilent.silentRow.sample] := by
    decide +kernel
  refine (diagnosesOwn_iff ⟨by decide, by decide⟩ (by decide)).mpr ⟨?_, ?_⟩
  · rintro loaded first last row hsame hfirst hlast - hrow given ⟨place, -, rfl⟩ other hother
    rw [hloaded] at hsame
    obtain rfl := Except.ok.inj hsame
    change row ∈ targets demoSilent.rows "motor-01" false at hrow
    change (targets demoSilent.rows "motor-01" false).head? = _ at hfirst
    change (targets demoSilent.rows "motor-01" false).getLast? = _ at hlast
    rw [htargets] at hfirst hlast hrow
    obtain rfl := Option.some.inj hfirst
    obtain rfl := Option.some.inj hlast
    have hsample := (trailing_sublist _ place).subset hother
    change other ∈ samplesBetween demoSilent.rows "motor-01" demoSilent.silentRow demoSilent.silentRow at hsample
    rw [hsamples] at hsample
    rw [List.mem_singleton.mp hrow, List.mem_singleton.mp hsample]
    decide
  · intro registry bundle first last row diagnostics hsame
    rw [hloaded] at hsame
    cases hsame

/-- The replayed row is labelled with the vibration that the other row misses. -/
theorem replayed_row_mislabelled :
    ¬ DiagnosesOwn demoMath demoRuntime "motor-01" demoReplayed (demoCall []) := by
  intro howns
  have hfits : (demoCall []).Fits "motor-01" := ⟨by decide, by decide⟩
  have hloaded : (demoCall []).loaded demoRuntime "motor-01" = .ok .notRegistered := loadReadyBundle_nil
  have htargets : targets demoReplayed.rows "motor-01" Loaded.notRegistered.isReady =
      [demoReplayed.replayedRow] := by
    decide +kernel
  have hfirst : (targets demoReplayed.rows "motor-01" Loaded.notRegistered.isReady).head? =
      some demoReplayed.replayedRow := htargets ▸ rfl
  have hlast : (targets demoReplayed.rows "motor-01" Loaded.notRegistered.isReady).getLast? =
      some demoReplayed.replayedRow := htargets ▸ rfl
  have hrow : demoReplayed.replayedRow ∈ targets demoReplayed.rows "motor-01"
      Loaded.notRegistered.isReady := htargets ▸ List.mem_singleton_self _
  have hscore := (demoCall []).score_some demoMath demoReplayed hfits hloaded hfirst hlast
  have hresults : resultsById demoMath .notRegistered (samplesBetween demoReplayed.rows "motor-01"
      demoReplayed.replayedRow demoReplayed.replayedRow) ((targets demoReplayed.rows "motor-01"
        Loaded.notRegistered.isReady).map (·.id)) = .ok [] := rfl
  rw [hresults] at hscore
  have hown := howns _ _ _ _ _ _ hscore hloaded hfirst hlast hrow
  have hgiven : GivenFor (samplesBetween demoReplayed.rows "motor-01" demoReplayed.replayedRow
      demoReplayed.replayedRow) demoReplayed.replayedRow _ :=
    ⟨1, by decide +kernel, rfl⟩
  have hbefore := ((saysOwn_iff (by decide) hfirst hlast hresults hrow).mp hown).1 _ hgiven
    demoSilent.silentRow.sample (by decide +kernel)
  exact absurd hbefore (by decide)

end IiotMonitoring.AnomalyWorker
