import IiotMonitoring.Lib.Exceptions
import IiotMonitoring.Lib.JsonText
import IiotMonitoring.Worker.Worker
import Mathlib.Data.List.Basic

/-!
# What one scoring call reads

The targets are the earliest rows still to be handled, every target is among the context rows, and so
every target gets its diagnostics.
-/

namespace IiotMonitoring.AnomalyWorker

/-! ### The order of rows -/

theorem TelemetryRow.before_iff {left right : TelemetryRow} :
    left.before right = true ↔
      left.receivedAt < right.receivedAt ∨
        (left.receivedAt = right.receivedAt ∧ left.id ≤ right.id) := by
  simp [TelemetryRow.before]

theorem TelemetryRow.before_trans (a b c : TelemetryRow) (hab : a.before b = true)
    (hbc : b.before c = true) : a.before c = true := by
  rw [before_iff] at hab hbc ⊢
  omega

theorem TelemetryRow.before_total (a b : TelemetryRow) : (a.before b || b.before a) = true := by
  rw [Bool.or_eq_true, before_iff, before_iff]
  omega

theorem TelemetryRow.receivedAt_le {left right : TelemetryRow} (h : left.before right = true) :
    left.receivedAt ≤ right.receivedAt := by
  rw [before_iff] at h
  omega

/-- A query in the order of `received_at` and `id`. -/
theorem pairwise_ordered (rows : List TelemetryRow) :
    (rows.mergeSort TelemetryRow.before).Pairwise fun left right => left.before right = true :=
  List.pairwise_mergeSort TelemetryRow.before_trans TelemetryRow.before_total rows

/-! ### Targets -/

section Queries

variable {rows : List TelemetryRow} {deviceId : String} {modelReady : Bool}

theorem mem_targets {row : TelemetryRow} (h : row ∈ targets rows deviceId modelReady) :
    row ∈ rows ∧ isTarget deviceId modelReady row = true := by
  have hquery := List.mem_of_mem_take h
  rw [List.mem_mergeSort] at hquery
  exact List.mem_filter.mp hquery

theorem isTarget_device {row : TelemetryRow} (h : isTarget deviceId modelReady row = true) :
    row.telemetry.deviceId = deviceId := by
  rw [isTarget, Bool.and_eq_true, Bool.and_eq_true, decide_eq_true_eq] at h
  exact h.1.1

theorem pairwise_targets (rows : List TelemetryRow) (deviceId : String) (modelReady : Bool) :
    (targets rows deviceId modelReady).Pairwise fun left right => left.before right = true :=
  (pairwise_ordered _).sublist (List.take_sublist ..)

/-- Targets come from the first to the last. -/
theorem targets_between {row first last : TelemetryRow}
    (hrow : row ∈ targets rows deviceId modelReady)
    (hfirst : (targets rows deviceId modelReady).head? = some first)
    (hlast : (targets rows deviceId modelReady).getLast? = some last) :
    first.receivedAt ≤ row.receivedAt ∧ row.receivedAt ≤ last.receivedAt := by
  have hordered := pairwise_targets rows deviceId modelReady
  generalize targets rows deviceId modelReady = all at hrow hfirst hlast hordered
  constructor
  · obtain ⟨rest, rfl⟩ := List.head?_eq_some_iff.mp hfirst
    rcases List.mem_cons.mp hrow with rfl | hrest
    · exact le_rfl
    · exact TelemetryRow.receivedAt_le ((List.pairwise_cons.mp hordered).1 row hrest)
  · obtain ⟨rest, rfl⟩ := List.getLast?_eq_some_iff.mp hlast
    rcases List.mem_append.mp hrow with hrest | hsame
    · exact TelemetryRow.receivedAt_le
        ((List.pairwise_append.mp hordered).2.2 row hrest last (List.mem_singleton_self last))
    · rw [List.mem_singleton.mp hsame]

theorem targets_eq_nil_iff :
    targets rows deviceId modelReady = [] ↔
      ∀ row ∈ rows, isTarget deviceId modelReady row = false := by
  rw [targets, List.take_eq_nil_iff]
  have hbatch : maxBatchRows ≠ 0 := by decide
  rw [or_iff_right hbatch, ← List.length_eq_zero_iff, List.length_mergeSort,
    List.length_eq_zero_iff, List.filter_eq_nil_iff]
  simp only [Bool.not_eq_true]

/-! ### Context -/

theorem mem_contextRows {row : TelemetryRow} {first last : Int} (hrow : row ∈ rows)
    (hdevice : row.telemetry.deviceId = deviceId) (hfirst : first ≤ row.receivedAt)
    (hlast : row.receivedAt ≤ last) : row ∈ contextRows rows deviceId first last := by
  apply List.mem_append_right
  rw [List.mem_mergeSort, List.mem_filter]
  exact ⟨hrow, by simp [hdevice, hfirst, hlast]⟩

/-- Every target is among the context rows. -/
theorem targets_context {first last : TelemetryRow}
    (hfirst : (targets rows deviceId modelReady).head? = some first)
    (hlast : (targets rows deviceId modelReady).getLast? = some last) :
    ∀ row ∈ targets rows deviceId modelReady,
      row ∈ contextRows rows deviceId first.receivedAt last.receivedAt := by
  intro row hrow
  obtain ⟨hstored, htarget⟩ := mem_targets hrow
  obtain ⟨hlow, hhigh⟩ := targets_between hrow hfirst hlast
  exact mem_contextRows hstored (isTarget_device htarget) hlow hhigh

end Queries

/-! ### Dictionaries -/

theorem lookupLast_isSome {β : Type} {entries : List (Nat × β)} {key : Nat}
    (h : key ∈ entries.map Prod.fst) : (lookupLast entries key).isSome := by
  rw [lookupLast, List.lookup_isSome_iff]
  obtain ⟨entry, hentry, rfl⟩ := List.mem_map.mp h
  exact ⟨entry, List.mem_reverse.mpr hentry, BEq.rfl⟩

section Judge

variable (math : FloatMath)

/-- Each target that is a sample gets its diagnostics. -/
theorem diagnosticsById_isSome {samples : List TelemetrySample} {targetIds : List Nat}
    {sample : TelemetrySample} (hsample : sample ∈ samples) (htarget : sample.sampleId ∈ targetIds) :
    (lookupLast (diagnosticsById math samples targetIds) sample.sampleId).isSome := by
  apply lookupLast_isSome
  obtain ⟨place, hplace⟩ := List.mem_iff_getElem?.mp hsample
  rw [diagnosticsById, List.map_map, List.mem_map]
  refine ⟨(sample, place), List.mem_filter.mpr ⟨?_, by simpa using htarget⟩, rfl⟩
  exact List.mk_mem_zipIdx_iff_getElem?.mpr hplace

/-- What the call finds for a target, with the results of the model. -/
def found (samples : List TelemetrySample) (targetIds : List Nat) (results : List (Nat × ScoreResult))
    (row : TelemetryRow) : Judged where
  row := row
  diagnostics := (lookupLast (diagnosticsById math samples targetIds) row.id).getD []
  result := lookupLast results row.id

/-- No target is without diagnostics, so that only the model can raise. -/
theorem judge_eq {rows : List TelemetryRow} {deviceId : String} {loaded : Loaded}
    {targets : List TelemetryRow} {first last : Int}
    (hcontext : ∀ row ∈ targets, row ∈ contextRows rows deviceId first last) :
    judge math rows deviceId loaded targets first last =
      (resultsById math loaded ((contextRows rows deviceId first last).map (·.sample))
        (targets.map (·.id))).map fun results =>
          targets.map (found math ((contextRows rows deviceId first last).map (·.sample))
            (targets.map (·.id)) results) := by
  dsimp only [judge]
  generalize hids : targets.map (·.id) = targetIds
  cases resultsById math loaded ((contextRows rows deviceId first last).map (·.sample)) targetIds with
  | error error => rfl
  | ok results =>
      apply mapM_ok
      intro row hrow
      have htarget : row.sample.sampleId ∈ targetIds := hids ▸ List.mem_map_of_mem hrow
      have hsome := diagnosticsById_isSome math (List.mem_map_of_mem (hcontext row hrow)) htarget
      obtain ⟨diagnostics, hdiagnostics⟩ := Option.isSome_iff_exists.mp hsome
      have hrow_id : row.sample.sampleId = row.id := rfl
      rw [hrow_id] at hdiagnostics
      rw [found, hdiagnostics]
      rfl

end Judge

/-! ### The end of a call -/

/-- The notification of a call fits: names and versions are bounded columns. -/
theorem event_fits {scoring : Scoring} (hdevice : scoring.deviceId.length ≤ 63)
    (hversion : ∀ version, scoring.modelVersion = some version → version.length ≤ 80)
    (hstatus : scoring.modelStatus.length ≤ 24) (hprocessed : scoring.processed ≤ maxBatchRows) :
    fitsNotification scoring.event = true := by
  have hcount : (printNat scoring.processed).length ≤ 3 :=
    @length_printNat_le _ 2 (lt_of_le_of_lt hprocessed (by decide))
  have hversion' : (scoring.modelVersion.elim Json.null
      fun version => .string (codes version)).print.length ≤ 12 * 80 + 2 := by
    cases hmodel : scoring.modelVersion with
    | none => decide
    | some version =>
        have hprint := length_printString_le (codes version)
        rw [length_codes] at hprint
        have hshort := hversion version hmodel
        change (printString (codes version)).length ≤ _
        omega
  have hdevice' := length_printString_le (codes scoring.deviceId)
  have hstatus' := length_printString_le (codes scoring.modelStatus)
  rw [length_codes] at hdevice' hstatus'
  rw [fitsNotification, decide_eq_true_eq]
  simp only [Scoring.event, Json.print, printMembers, printMoreMembers, JsonNumber.print,
    JsonNumber.ofNat]
  generalize (scoring.modelVersion.elim Json.null fun version => .string (codes version)).print = version
    at *
  have hkeys : ∀ key : String, (printString (codes key)).length ≤ 12 * key.length + 2 := by
    intro key
    have hkey := length_printString_le (codes key)
    rwa [length_codes] at hkey
  have htype := hkeys "type"
  have hname := hkeys "device_id"
  have hdone := hkeys "processed"
  have hmodel := hkeys "model_version"
  have hstate := hkeys "model_status"
  have hscoring := hkeys "anomaly_scoring"
  simp only [List.length_append, List.length_cons, List.length_nil, Bool.false_eq_true, if_false,
    List.nil_append, List.append_nil]
  simp only [show "type".length = 4 from rfl, show "device_id".length = 9 from rfl,
    show "processed".length = 9 from rfl, show "model_version".length = 13 from rfl,
    show "model_status".length = 12 from rfl, show "anomaly_scoring".length = 15 from rfl] at *
  omega

/-- The registry row is within its columns. -/
def Loaded.Fits (loaded : Loaded) : Prop :=
  ∀ registry, loaded.registry? = some registry →
    registry.modelVersion.length ≤ 80 ∧ registry.status.length ≤ 24

theorem latestRegistry_mem {models : List AnomalyModel} {deviceId : String} {registry : AnomalyModel}
    (h : latestRegistry models deviceId = some registry) :
    registry ∈ models ∧ registry.deviceId = deviceId := by
  have hquery := List.mem_of_head? h
  rw [List.mem_mergeSort, List.mem_filter, decide_eq_true_eq] at hquery
  exact hquery

section Finish

variable {tables : WorkerTables} {deviceId : String} {loaded : Loaded} {clock : ScoringClock}
  {judged : List Judged}

theorem processed_le : (scoring deviceId loaded clock judged).processed ≤ judged.length := by
  rw [Scoring.processed, scoring]
  dsimp only
  split
  · exact (List.length_filter_le ..).trans (List.length_map ..).le
  · exact (List.length_map ..).le

/-- The alarms that a call leaves. -/
def alarmsAfter (tables : WorkerTables) (deviceId : String) (loaded : Loaded) (clock : ScoringClock)
    (judged : List Judged) : List Alarm :=
  ((scoring deviceId loaded clock judged).alarmWrites tables.database).foldl
    Database.writeAlarms tables.alarms

/-- The notification does not raise. -/
theorem finish_eq (hdevice : deviceId.length ≤ 63) (hloaded : loaded.Fits)
    (hcount : judged.length ≤ maxBatchRows) (hjudged : judged ≠ []) :
    finish tables deviceId loaded clock judged =
      .ok ((scoring deviceId loaded clock judged).processed,
        settled tables deviceId loaded clock judged
          (alarmsAfter tables deviceId loaded clock judged)) := by
  have hfits : fitsNotification (scoring deviceId loaded clock judged).event = true := by
    apply event_fits hdevice
    · intro version hversion
      obtain ⟨registry, hregistry, rfl⟩ := Option.map_eq_some_iff.mp hversion
      exact (hloaded registry hregistry).1
    · cases hregistry : loaded.registry? with
      | none =>
          simp only [scoring, hregistry]
          decide
      | some registry =>
          simp only [scoring, hregistry]
          exact (hloaded registry hregistry).2
    · exact processed_le.trans hcount
  have hsome : (scoring deviceId loaded clock judged).targets.isEmpty = false := by
    rw [scoring, List.isEmpty_map]
    exact List.isEmpty_eq_false_iff.mpr hjudged
  rw [finish, IiotMonitoring.scoreDeviceOnce, hsome, hfits]
  rfl

end Finish

section Call

variable (math : FloatMath) {tables : WorkerTables} {deviceId : String} {loaded : Loaded}
  {clock : ScoringClock}

theorem scoreLoaded_none (h : targets tables.rows deviceId loaded.isReady = []) :
    scoreLoaded math tables deviceId loaded clock =
      .ok (0, { tables with models := writeModel tables.models loaded.registry? }) := by
  rw [scoreLoaded, h]
  rfl

/-- The samples of a call with targets. -/
def samplesBetween (rows : List TelemetryRow) (deviceId : String) (first last : TelemetryRow) :
    List TelemetrySample :=
  (contextRows rows deviceId first.receivedAt last.receivedAt).map (·.sample)

/-- What a call finds for its targets. -/
def foundAll (rows : List TelemetryRow) (deviceId : String) (loaded : Loaded)
    (first last : TelemetryRow) (results : List (Nat × ScoreResult)) : List Judged :=
  let batch := targets rows deviceId loaded.isReady
  batch.map (found math (samplesBetween rows deviceId first last) (batch.map (·.id)) results)

/-- **A call with targets.** Only the model can make it raise. -/
theorem scoreLoaded_some (hdevice : deviceId.length ≤ 63) (hloaded : loaded.Fits)
    {first last : TelemetryRow}
    (hfirst : (targets tables.rows deviceId loaded.isReady).head? = some first)
    (hlast : (targets tables.rows deviceId loaded.isReady).getLast? = some last) :
    scoreLoaded math tables deviceId loaded clock =
      (resultsById math loaded (samplesBetween tables.rows deviceId first last)
        ((targets tables.rows deviceId loaded.isReady).map (·.id))).map fun results =>
          let judged := foundAll math tables.rows deviceId loaded first last results
          ((scoring deviceId loaded clock judged).processed,
            settled tables deviceId loaded clock judged
              (alarmsAfter tables deviceId loaded clock judged)) := by
  have hcount : (targets tables.rows deviceId loaded.isReady).length ≤ maxBatchRows :=
    List.length_take_le ..
  have hsome : targets tables.rows deviceId loaded.isReady ≠ [] := by
    intro hnil
    rw [hnil] at hfirst
    cases hfirst
  rw [scoreLoaded, hfirst, hlast]
  dsimp only
  rw [judge_eq math (targets_context hfirst hlast)]
  change Except.bind (Except.map _ (resultsById math loaded (samplesBetween ..) _)) _ = _
  cases resultsById math loaded (samplesBetween tables.rows deviceId first last)
    ((targets tables.rows deviceId loaded.isReady).map (·.id)) with
  | error error => rfl
  | ok results =>
      apply finish_eq hdevice hloaded
      · rw [List.length_map]
        exact hcount
      · exact fun hnil => hsome (List.map_eq_nil_iff.mp hnil)

end Call

end IiotMonitoring.AnomalyWorker
