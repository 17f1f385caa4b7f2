import IiotMonitoring.Proof.DeterministicRules

/-!
# What a call leaves

A call raises and changes nothing, finds no targets and changes neither rows nor alarms, or writes what
it found for its targets.
-/

namespace IiotMonitoring.AnomalyWorker

/-! ### Outcomes -/

section Outcome

variable (math : FloatMath) {P : Type} (runtime : Runtime P) (deviceId : String)
  (tables : WorkerTables) (call : ScoringCall)

/-- The tables after a call, by what the call comes to. -/
inductive CallOutcome : WorkerTables → Prop where
  | raised (error : PyError) (hscore : call.score math runtime deviceId tables = .error error)
      (hraised : ∀ loaded first last results, call.loaded runtime deviceId = .ok loaded →
        (targets tables.rows deviceId loaded.isReady).head? = some first →
        (targets tables.rows deviceId loaded.isReady).getLast? = some last →
        resultsById math loaded (samplesBetween tables.rows deviceId first last)
          ((targets tables.rows deviceId loaded.isReady).map (·.id)) ≠ .ok results) :
      CallOutcome tables
  | idle (loaded : Loaded) (hloaded : call.loaded runtime deviceId = .ok loaded)
      (hnone : targets tables.rows deviceId loaded.isReady = []) :
      CallOutcome { tables with models := writeModel call.models loaded.registry? }
  | scored (loaded : Loaded) (first last : TelemetryRow) (results : List (Nat × ScoreResult))
      (hloaded : call.loaded runtime deviceId = .ok loaded)
      (hfirst : (targets tables.rows deviceId loaded.isReady).head? = some first)
      (hlast : (targets tables.rows deviceId loaded.isReady).getLast? = some last)
      (hresults : resultsById math loaded (samplesBetween tables.rows deviceId first last)
        ((targets tables.rows deviceId loaded.isReady).map (·.id)) = .ok results) :
      CallOutcome (settled { tables with models := call.models } deviceId loaded call.clock
        (foundAll math tables.rows deviceId loaded first last results)
        (alarmsAfter { tables with models := call.models } deviceId loaded call.clock
          (foundAll math tables.rows deviceId loaded first last results)))

/-- The names in the call fit their columns. -/
structure ScoringCall.Fits (deviceId : String) (call : ScoringCall) : Prop where
  device : deviceId.length ≤ 63
  versions : ∀ model ∈ call.models, model.modelVersion.length ≤ 80

variable {runtime} {deviceId} {call}

/-- A batch that is not empty has a first and a last row. -/
theorem exists_first_last {α : Type} {items : List α} (h : items ≠ []) :
    ∃ first last, items.head? = some first ∧ items.getLast? = some last :=
  ⟨items.head h, items.getLast h, List.head?_eq_some_head h, List.getLast?_eq_some_getLast h⟩

/-- A call with targets. Only the model can make it raise. -/
theorem ScoringCall.score_some (hfits : call.Fits deviceId) {loaded : Loaded}
    {first last : TelemetryRow} (hloaded : call.loaded runtime deviceId = .ok loaded)
    (hfirst : (targets tables.rows deviceId loaded.isReady).head? = some first)
    (hlast : (targets tables.rows deviceId loaded.isReady).getLast? = some last) :
    call.score math runtime deviceId tables =
      (resultsById math loaded (samplesBetween tables.rows deviceId first last)
        ((targets tables.rows deviceId loaded.isReady).map (·.id))).map fun results =>
          let judged := foundAll math tables.rows deviceId loaded first last results
          ((scoring deviceId loaded call.clock judged).processed,
            settled { tables with models := call.models } deviceId loaded call.clock judged
              (alarmsAfter { tables with models := call.models } deviceId loaded call.clock judged)) := by
  have hscored : scoreLoaded math { tables with models := call.models } deviceId loaded call.clock = _ :=
    scoreLoaded_some math hfits.device (loaded_sound hfits.versions hloaded).1 hfirst hlast
  exact (call.score_eq math tables hloaded).trans hscored

/-- **The outcomes of a call.** -/
theorem call_outcome (hfits : call.Fits deviceId) :
    CallOutcome math runtime deviceId tables call (callStep math runtime deviceId tables call) := by
  cases hscore : call.score math runtime deviceId tables with
  | error error =>
      rw [callStep, hscore]
      apply CallOutcome.raised error hscore
      intro loaded first last results hloaded hfirst hlast hresults
      rw [call.score_some math tables hfits hloaded hfirst hlast, hresults] at hscore
      cases hscore
  | ok result =>
      obtain ⟨loaded, hloaded, -⟩ := bind_eq_ok.mp hscore
      have hloaded : call.loaded runtime deviceId = .ok loaded := hloaded
      by_cases hnone : targets tables.rows deviceId loaded.isReady = []
      · have hidle : scoreLoaded math { tables with models := call.models } deviceId loaded
            call.clock = _ := scoreLoaded_none math hnone
        rw [callStep, call.score_eq math tables hloaded, hidle]
        exact .idle loaded hloaded hnone
      · obtain ⟨first, last, hfirst, hlast⟩ := exists_first_last hnone
        have hsome := call.score_some math tables hfits hloaded hfirst hlast
        cases hresults : resultsById math loaded (samplesBetween tables.rows deviceId first last)
            ((targets tables.rows deviceId loaded.isReady).map (·.id)) with
        | error error =>
            rw [hsome, hresults] at hscore
            cases hscore
        | ok results =>
            rw [callStep, hsome, hresults]
            exact .scored loaded first last results hloaded hfirst hlast hresults

end Outcome

end IiotMonitoring.AnomalyWorker
