import IiotMonitoring.Proof.ArtifactFaults
import IiotMonitoring.Proof.FeatureWindows
import IiotMonitoring.Proof.ScoringProgress
import IiotMonitoring.Proof.SensorRules

/-!
# What a call writes for its targets

A model has a result for a target exactly where the window that ends with the target gives a feature
row. Without a result a ready call writes that the row waits, whatever the sensor rules found for it.
-/

namespace IiotMonitoring.AnomalyWorker

/-! ### Results and feature rows -/

section Results

variable (math : FloatMath)

theorem forall₂_map_eq {α β γ : Type} {relation : α → β → Prop} {left : α → γ} {right : β → γ}
    (hsame : ∀ item other, relation item other → right other = left item) {items : List α}
    {others : List β} (h : List.Forall₂ relation items others) : others.map right = items.map left := by
  induction h with
  | nil => rfl
  | cons hhead _ ih => rw [List.map_cons, List.map_cons, hsame _ _ hhead, ih]

/-- Results come in the order of the feature rows, one for each. -/
theorem scoreRows_sampleIds {bundle : ModelBundle} {rows : List FeatureRow} {results : List ScoreResult}
    (h : scoreRows math bundle rows = .ok results) :
    results.map (·.sampleId) = rows.map (·.sampleId) := by
  rw [scoreRows] at h
  split at h
  · cases h
  split at h
  · rename_i hnone
    cases h
    rw [List.isEmpty_iff.mp hnone]
    rfl
  · obtain ⟨scores, -, h⟩ := bind_eq_ok.mp h
    obtain ⟨predictions, -, h⟩ := bind_eq_ok.mp h
    obtain ⟨scored, hscored, hlast⟩ := bind_eq_ok.mp h
    have hlengths := strictly_ok hlast
    rw [strictly, hlengths] at hlast
    cases hlast
    rw [Bool.and_eq_true, decide_eq_true_eq, decide_eq_true_eq] at hlengths
    have hids : results.map (·.sampleId) =
        (rows.zip ((scores.map FloatNumber.neg).zip predictions)).map (·.1.sampleId) := by
      apply forall₂_map_eq _ (mapM_results hscored)
      intro entry result hresult
      exact scoreRow_sampleId math hresult
    calc results.map (·.sampleId)
      _ = ((rows.zip ((scores.map FloatNumber.neg).zip predictions)).map Prod.fst).map
            (·.sampleId) := by rw [hids, List.map_map]; rfl
      _ = rows.map (·.sampleId) := by
          rw [List.map_fst_zip]
          rw [List.length_zip, List.length_map, hlengths.1, hlengths.2, min_self]

/-- The window that ends with a row of a batch gives features. -/
def HasFeatures (rows : List TelemetryRow) (deviceId : String) (first last row : TelemetryRow) : Prop :=
  row.id ∈ (generateFeatures math .default (samplesBetween rows deviceId first last)).map (·.sampleId)

theorem lookupLast_isSome_iff {β : Type} {entries : List (Nat × β)} {key : Nat} :
    (lookupLast entries key).isSome ↔ key ∈ entries.map Prod.fst := by
  constructor
  · intro h
    rw [lookupLast, List.lookup_isSome_iff] at h
    obtain ⟨entry, hentry, hkey⟩ := h
    rw [beq_iff_eq.mp hkey]
    exact List.mem_map_of_mem (List.mem_reverse.mp hentry)
  · exact lookupLast_isSome

theorem resultsById_ready {registry : AnomalyModel} {bundle : ModelBundle}
    {samples : List TelemetrySample} {ids : List Nat} :
    (∃ results, resultsById math (.ready registry bundle) samples ids = .ok results) ↔
      ∃ scored, scoreRows math bundle (generateFeatures math .default samples) = .ok scored := by
  constructor
  · rintro ⟨results, hresults⟩
    obtain ⟨scored, hscored, -⟩ := bind_eq_ok.mp hresults
    exact ⟨scored, hscored⟩
  · rintro ⟨scored, hscored⟩
    exact ⟨_, bind_eq_ok.mpr ⟨scored, hscored, rfl⟩⟩

/-- A ready model has results for the targets with features, and only for them. -/
theorem result_isSome_iff {registry : AnomalyModel} {bundle : ModelBundle}
    {samples : List TelemetrySample} {ids : List Nat} {results : List (Nat × ScoreResult)}
    (hresults : resultsById math (.ready registry bundle) samples ids = .ok results) {id : Nat}
    (hid : id ∈ ids) :
    (lookupLast results id).isSome ↔
      id ∈ (generateFeatures math .default samples).map (·.sampleId) := by
  obtain ⟨scored, hscored, hlast⟩ := bind_eq_ok.mp hresults
  cases hlast
  rw [lookupLast_isSome_iff, ← scoreRows_sampleIds math hscored, List.map_map, List.mem_map,
    List.mem_map]
  constructor
  · rintro ⟨result, hresult, hsame⟩
    exact ⟨result, (List.mem_filter.mp hresult).1, hsame⟩
  · rintro ⟨result, hresult, rfl⟩
    exact ⟨result, List.mem_filter.mpr ⟨hresult, decide_eq_true hid⟩, rfl⟩

end Results

/-! ### Reasons -/

section Reasons

variable (math : FloatMath) (tables : WorkerTables) (deviceId : String)

/-- What the sensor rules find for a row of a batch, by its key. -/
def ruled (batch : List TelemetryRow) (first last row : TelemetryRow) :
    Option (List SensorDiagnostic) :=
  lookupLast (diagnosticsById math (samplesBetween tables.rows deviceId first last)
    (batch.map (·.id))) row.id

variable {math} {tables} {deviceId} {loaded : Loaded}

/-- The rules find something, if only nothing, for each target. -/
theorem ruled_some {mode : Bool} {first last row : TelemetryRow}
    (hfirst : (targets tables.rows deviceId mode).head? = some first)
    (hlast : (targets tables.rows deviceId mode).getLast? = some last)
    (hrow : row ∈ targets tables.rows deviceId mode) :
    ∃ diagnostics, ruled math tables deviceId (targets tables.rows deviceId mode) first last row =
      some diagnostics := by
  have hsample : row.sample ∈ samplesBetween tables.rows deviceId first last :=
    List.mem_map_of_mem (targets_context hfirst hlast row hrow)
  have hid : row.sample.sampleId ∈ (targets tables.rows deviceId mode).map (·.id) :=
    List.mem_map_of_mem hrow
  exact Option.isSome_iff_exists.mp (diagnosticsById_isSome math hsample hid)

/-- A target is stored as it was judged, with the diagnostics of its key. -/
theorem stored_ruled {first last row : TelemetryRow} {diagnostics : List SensorDiagnostic}
    (results : List (Nat × ScoreResult)) (hrow : row ∈ targets tables.rows deviceId loaded.isReady)
    (hruled : ruled math tables deviceId (targets tables.rows deviceId loaded.isReady) first last row =
      some diagnostics) :
    ∃ item : Judged, item.row.id = row.id ∧ item.diagnostics = diagnostics ∧
      item.result = lookupLast results row.id ∧
      item.written loaded ∈ writeRows tables.rows
        ((foundAll math tables.rows deviceId loaded first last results).map (·.written loaded)) := by
  have hjudged : ∃ item ∈ foundAll math tables.rows deviceId loaded first last results,
      item.row.id = row.id :=
    ⟨_, List.mem_map_of_mem hrow, rfl⟩
  obtain ⟨item, hitem, hid, hstored⟩ := written_mem loaded (mem_targets hrow).1 hjudged
  obtain ⟨other, -, rfl⟩ := List.mem_map.mp hitem
  change other.id = row.id at hid
  refine ⟨_, hid, ?_, ?_, hstored⟩
  · rw [found, hid]
    exact congrArg (·.getD []) hruled
  · rw [found, hid]

theorem mem_of_lookupLast {β : Type} {entries : List (Nat × β)} {key : Nat} {value : β}
    (h : lookupLast entries key = some value) : (key, value) ∈ entries := by
  obtain ⟨left, right, hsplit, -⟩ := List.lookup_eq_some_iff.mp h
  rw [← List.mem_reverse, hsplit]
  exact List.mem_append_right _ List.mem_cons_self

/-- What is found for a row comes from the rules. -/
theorem ruled_detected {batch : List TelemetryRow} {first last row : TelemetryRow}
    {diagnostics : List SensorDiagnostic}
    (h : ruled math tables deviceId batch first last row = some diagnostics) :
    ∃ history, diagnostics = detectSensorFailures math history := by
  obtain ⟨sample, -, hentry⟩ := List.mem_map.mp (mem_of_lookupLast h)
  exact ⟨_, (Prod.mk.inj hentry).2.symm⟩

/-- A row of the key of a target is what the call wrote for the key. -/
theorem written_of_key {loaded : Loaded} {first last row row' : TelemetryRow}
    {diagnostics : List SensorDiagnostic} {results : List (Nat × ScoreResult)}
    (hrow : row ∈ targets tables.rows deviceId loaded.isReady)
    (hruled : ruled math tables deviceId (targets tables.rows deviceId loaded.isReady) first last row =
      some diagnostics)
    (hrow' : row' ∈ writeRows tables.rows
      ((foundAll math tables.rows deviceId loaded first last results).map (·.written loaded)))
    (hid : row'.id = row.id) :
    ∃ item : Judged, item.diagnostics = diagnostics ∧ item.result = lookupLast results row.id ∧
      row' = item.written loaded := by
  rcases mem_writeRows hrow' with ⟨-, hother⟩ | ⟨item, hitem, rfl⟩
  · exact absurd hid.symm (hother _ (List.mem_map_of_mem hrow))
  · obtain ⟨target, -, rfl⟩ := List.mem_map.mp hitem
    rw [written_id] at hid
    have hid : target.id = row.id := hid
    refine ⟨_, ?_, ?_, rfl⟩
    · rw [found, hid]
      exact congrArg (·.getD []) hruled
    · rw [found, hid]

/-- The reason of a row for which the rules found something. -/
theorem written_reason {item : Judged} (loaded : Loaded) (hsome : item.diagnostics ≠ []) :
    (item.written loaded).anomalyReason =
      some (if loaded.isReady && item.result.isNone then
        "FEATURE_WINDOW_NOT_READY: waiting for causal context"
      else diagnosticReason item.diagnostics) := by
  have hempty : item.diagnostics.isEmpty = false := List.isEmpty_eq_false_iff.mpr hsome
  cases hready : loaded.isReady <;> cases hresult : item.result <;>
    simp [Judged.written, Judged.reason, hready, hresult, hempty]

/-- **A target for which the rules found something.** It carries that after the call unless a ready model
has no features for it. -/
theorem carried_iff {first last row : TelemetryRow} {diagnostics : List SensorDiagnostic}
    {results : List (Nat × ScoreResult)}
    (hresults : resultsById math loaded (samplesBetween tables.rows deviceId first last)
      ((targets tables.rows deviceId loaded.isReady).map (·.id)) = .ok results)
    (hrow : row ∈ targets tables.rows deviceId loaded.isReady)
    (hruled : ruled math tables deviceId (targets tables.rows deviceId loaded.isReady) first last row =
      some diagnostics) (hsome : diagnostics ≠ []) :
    (∃ row' ∈ writeRows tables.rows
        ((foundAll math tables.rows deviceId loaded first last results).map (·.written loaded)),
      row'.id = row.id ∧ row'.anomalyReason = some (diagnosticReason diagnostics)) ↔
      (loaded.isReady = true → HasFeatures math tables.rows deviceId first last row) := by
  constructor
  · rintro ⟨row', hrow', hid, hreason⟩ hready
    obtain ⟨item, hdiagnostics, hresult, rfl⟩ := written_of_key hrow hruled hrow' hid
    rw [written_reason _ (hdiagnostics ▸ hsome), hresult, hdiagnostics, hready, Bool.true_and] at hreason
    obtain ⟨registry, bundle, rfl⟩ : ∃ registry bundle, loaded = .ready registry bundle := by
      cases loaded with
      | notRegistered => cases hready
      | unusable registry code => cases hready
      | ready registry bundle => exact ⟨registry, bundle, rfl⟩
    apply (result_isSome_iff math hresults (List.mem_map_of_mem hrow)).mp
    by_contra hnone
    rw [Option.not_isSome_iff_eq_none] at hnone
    rw [hnone] at hreason
    obtain ⟨history, rfl⟩ := ruled_detected hruled
    exact diagnosticReason_ne_waiting math hsome (Option.some.inj hreason).symm
  · intro hfeatures
    obtain ⟨item, hid, hdiagnostics, hresult, hstored⟩ := stored_ruled results hrow hruled
    have hfound : (loaded.isReady && item.result.isNone) = false := by
      rw [hresult]
      cases loaded with
      | notRegistered => rfl
      | unusable registry code => rfl
      | ready registry bundle =>
          have hsome := (result_isSome_iff math hresults (List.mem_map_of_mem hrow)).mpr (hfeatures rfl)
          obtain ⟨result, hresult⟩ := Option.isSome_iff_exists.mp hsome
          rw [hresult]
          rfl
    refine ⟨_, hstored, (written_id item loaded).trans hid, ?_⟩
    rw [written_reason _ (hdiagnostics ▸ hsome), hfound, hdiagnostics]
    rfl

end Reasons

end IiotMonitoring.AnomalyWorker
