import IiotMonitoring.Lib.Firsts
import IiotMonitoring.Lib.SortedEnds
import IiotMonitoring.Worker.SensorRules

/-!
# What the sensor rules report

Each rule has its codes, and those of one sample's measurements are told apart from the others. The
sample that they judge is the last one in the order of times and keys.
-/

namespace IiotMonitoring.AnomalyWorker

/-! ### Codes -/

/-- What a diagnostic says of the measurements of one sample. -/
def measuredCodes : List String := ["SENSOR_MISSING", "SENSOR_IMPOSSIBLE_RANGE", "SENSOR_RELATION_INVALID"]

/-- What it says of a sample beside the ones before it. -/
def historyCodes : List String :=
  ["SAMPLES_MISSING", "SENSOR_STUCK", "SENSOR_EXCESSIVE_NOISE", "SENSOR_RATE_INVALID"]

def isMeasured (item : SensorDiagnostic) : Bool := item.code ∈ measuredCodes

/-- A missing, an impossible or an inconsistent measurement of a sample. -/
def measuredDiagnostics (math : FloatMath) (current : Measurements) : List SensorDiagnostic :=
  (metricBounds math current).flatMap (·.diagnostic math) ++ relationDiagnostic math current

section Codes

variable (math : FloatMath)

theorem code_gap {previous current : TelemetrySample} {item : SensorDiagnostic}
    (h : item ∈ gapDiagnostic math previous current) : item.code ∈ historyCodes := by
  rw [gapDiagnostic] at h
  split at h
  · rw [List.mem_singleton.mp h]
    exact .head _
  · cases h

theorem code_bounds {bounds : MetricBounds} {item : SensorDiagnostic}
    (h : item ∈ bounds.diagnostic math) :
    item.code ∈ ["SENSOR_MISSING", "SENSOR_IMPOSSIBLE_RANGE"] ∧ item.metric = bounds.metric := by
  rw [MetricBounds.diagnostic] at h
  split at h
  · rw [List.mem_singleton.mp h]
    exact ⟨.head _, rfl⟩
  · split at h
    · rw [List.mem_singleton.mp h]
      exact ⟨.tail _ (.head _), rfl⟩
    · cases h

theorem code_relation {current : Measurements} {item : SensorDiagnostic}
    (h : item ∈ relationDiagnostic math current) : item.code = "SENSOR_RELATION_INVALID" := by
  rw [relationDiagnostic] at h
  split at h
  · split at h
    · rw [List.mem_singleton.mp h]
    · cases h
  · cases h

theorem code_sequence {sequence : MetricSequence} {recent : List TelemetrySample}
    {item : SensorDiagnostic} (h : item ∈ sequence.diagnostic math recent) :
    item.code ∈ historyCodes := by
  rw [MetricSequence.diagnostic] at h
  dsimp only at h
  split at h
  · cases h
  split at h
  · rw [List.mem_singleton.mp h]
    exact .tail _ (.head _)
  split at h
  · rw [List.mem_singleton.mp h]
    exact .tail _ (.tail _ (.head _))
  · cases h

theorem code_rate {rate : MetricRate} {previous current : TelemetrySample} {item : SensorDiagnostic}
    (h : item ∈ rate.diagnostic math previous current) : item.code ∈ historyCodes := by
  rw [MetricRate.diagnostic] at h
  dsimp only at h
  split at h
  · split at h
    · rw [List.mem_singleton.mp h]
      exact .tail _ (.tail _ (.tail _ (.head _)))
    · cases h
  · cases h

theorem code_measured {current : Measurements} {item : SensorDiagnostic}
    (h : item ∈ measuredDiagnostics math current) : item.code ∈ measuredCodes := by
  rcases List.mem_append.mp h with hbounds | hrelation
  · obtain ⟨bounds, -, hitem⟩ := List.mem_flatMap.mp hbounds
    have hcode := (code_bounds math hitem).1
    simp only [List.mem_cons, List.not_mem_nil, or_false] at hcode
    rcases hcode with hcode | hcode <;> rw [hcode] <;> decide
  · rw [code_relation math hrelation]
    decide

/-- One sample's measurements are reported once for each code and metric. -/
theorem measured_apart (current : Measurements) :
    (measuredDiagnostics math current).Pairwise fun left right =>
      (left.code = right.code && left.metric = right.metric) = false := by
  rw [measuredDiagnostics, List.pairwise_append, List.pairwise_flatMap]
  refine ⟨⟨?_, ?_⟩, ?_, ?_⟩
  · intro bounds _
    rw [MetricBounds.diagnostic]
    split
    · exact List.pairwise_singleton _ _
    · split
      · exact List.pairwise_singleton _ _
      · exact .nil
  · have hmetrics : (metricBounds math current).Pairwise fun left right => left.metric ≠ right.metric := by
      simp [metricBounds]
    refine hmetrics.imp ?_
    intro left right hother item hitem item' hitem'
    rw [(code_bounds math hitem).2, (code_bounds math hitem').2, Bool.and_eq_false_iff]
    exact .inr (decide_eq_false hother)
  · rw [relationDiagnostic]
    split
    · split
      · exact List.pairwise_singleton _ _
      · exact .nil
    · exact .nil
  · intro item hitem item' hitem'
    obtain ⟨bounds, -, hbounds⟩ := List.mem_flatMap.mp hitem
    have hcode := (code_bounds math hbounds).1
    have hother : item.code ≠ item'.code := by
      rw [code_relation math hitem']
      rintro hsame
      rw [hsame] at hcode
      exact absurd hcode (by decide)
    rw [Bool.and_eq_false_iff]
    exact .inl (decide_eq_false hother)

end Codes

/-! ### The judged sample -/

section Judged

variable (math : FloatMath) {history : List TelemetrySample}

/-- `ordered[-1]`. -/
def currentSample (history : List TelemetrySample) : Option TelemetrySample :=
  (history.mergeSort TelemetrySample.before).getLast?

theorem TelemetrySample.before_iff {left right : TelemetrySample} :
    left.before right = true ↔
      left.timestamp < right.timestamp ∨
        (left.timestamp = right.timestamp ∧ left.sampleId ≤ right.sampleId) := by
  simp [TelemetrySample.before]

theorem samples_sortApart (hkeys : (history.map (·.sampleId)).Nodup) :
    SortsApart TelemetrySample.before history where
  trans := by
    intro a b c hab hbc
    rw [TelemetrySample.before_iff] at hab hbc ⊢
    omega
  total := by
    intro a b
    rw [Bool.or_eq_true, TelemetrySample.before_iff, TelemetrySample.before_iff]
    omega
  apart := by
    intro a ha b hb hab hba
    rw [TelemetrySample.before_iff] at hab hba
    exact List.inj_on_of_nodup_map hkeys ha hb (by omega)

/-- **The judged sample.** It is the last one in the order of times and keys. -/
theorem currentSample_eq_some_iff (hkeys : (history.map (·.sampleId)).Nodup)
    {sample : TelemetrySample} :
    currentSample history = some sample ↔
      sample ∈ history ∧ ∀ other ∈ history, other.before sample = true :=
  (samples_sortApart hkeys).getLast?_eq_some_iff

/-- Two diagnostics of one code and metric. -/
def sameDiagnostic (kept item : SensorDiagnostic) : Bool :=
  kept.code = item.code && kept.metric = item.metric

/-- The diagnostics of the judged sample's measurements stand between those that look back. -/
theorem detected_parts {current : TelemetrySample} (hcurrent : currentSample history = some current) :
    ∃ before after, (∀ item ∈ before ++ after, item.code ∈ historyCodes) ∧
      detectSensorFailures math history =
        firsts sameDiagnostic (before ++ measuredDiagnostics math current.measurements ++ after) := by
  obtain ⟨earlier, hsplit⟩ := List.getLast?_eq_some_iff.mp hcurrent
  have hpaired : ∀ {diagnostics : TelemetrySample → List SensorDiagnostic},
      (∀ previous, ∀ item ∈ diagnostics previous, item.code ∈ historyCodes) →
        ∀ item ∈ ((earlier.reverse.head?.map diagnostics).getD []), item.code ∈ historyCodes := by
    intro diagnostics hcodes item hitem
    cases hprevious : earlier.reverse.head? with
    | none =>
        rw [hprevious] at hitem
        cases hitem
    | some previous =>
        rw [hprevious] at hitem
        exact hcodes previous item hitem
  have hstuck : ∀ recent : List TelemetrySample, ∀ item ∈ (if 8 ≤ recent.length then
      (metricSequences math).flatMap (·.diagnostic math recent) else []), item.code ∈ historyCodes := by
    intro recent item hitem
    split at hitem
    · obtain ⟨sequence, -, hsequence⟩ := List.mem_flatMap.mp hitem
      exact code_sequence math hsequence
    · cases hitem
  rw [detectSensorFailures, hsplit]
  simp only [List.reverse_append, List.reverse_singleton, List.singleton_append]
  generalize (earlier ++ [current]).drop ((earlier ++ [current]).length - 12) = recent
  refine ⟨(earlier.reverse.head?.map fun previous => gapDiagnostic math previous current).getD [],
    (if 8 ≤ recent.length then (metricSequences math).flatMap (·.diagnostic math recent) else []) ++
      (earlier.reverse.head?.map fun previous =>
        metricRates.flatMap (·.diagnostic math previous current)).getD [], ?_, ?_⟩
  · intro item hitem
    rcases List.mem_append.mp hitem with hgap | hafter
    · exact hpaired (fun previous item => code_gap math) item hgap
    · rcases List.mem_append.mp hafter with hsequence | hrate
      · exact hstuck recent item hsequence
      · refine hpaired ?_ item hrate
        intro previous item hitem
        obtain ⟨rate, -, hdiagnostic⟩ := List.mem_flatMap.mp hitem
        exact code_rate math hdiagnostic
  · rw [measuredDiagnostics, uniqueDiagnostics]
    simp only [List.append_assoc]
    rfl

/-- Every diagnostic has a code of the rules. -/
theorem code_detected {item : SensorDiagnostic} (h : item ∈ detectSensorFailures math history) :
    item.code ∈ measuredCodes ∨ item.code ∈ historyCodes := by
  cases hcurrent : currentSample history with
  | none =>
      have hnone := List.getLast?_eq_none_iff.mp hcurrent
      rw [detectSensorFailures, hnone] at h
      rw [List.mem_singleton.mp h]
      exact .inr (.head _)
  | some current =>
      obtain ⟨before, after, hcodes, hdetected⟩ := detected_parts math hcurrent
      rw [hdetected] at h
      rcases List.mem_append.mp (mem_of_mem_firsts h) with hfirst | hafter
      · rcases List.mem_append.mp hfirst with hbefore | hmeasured
        · exact .inr (hcodes item (List.mem_append_left _ hbefore))
        · exact .inl (code_measured math hmeasured)
      · exact .inr (hcodes item (List.mem_append_right _ hafter))

theorem isMeasured_of_history {item : SensorDiagnostic} (h : item.code ∈ historyCodes) :
    isMeasured item = false := by
  have hapart : ∀ code ∈ historyCodes, code ∉ measuredCodes := by decide
  exact decide_eq_false (hapart _ h)

/-- **Its measurements** are reported, and those of no other sample. -/
theorem detected_measured {current : TelemetrySample} (hcurrent : currentSample history = some current) :
    (detectSensorFailures math history).filter isMeasured =
      measuredDiagnostics math current.measurements := by
  obtain ⟨before, after, hcodes, hdetected⟩ := detected_parts math hcurrent
  have hkind : ∀ left right, sameDiagnostic left right = true → isMeasured left = isMeasured right := by
    intro left right hsame
    rw [sameDiagnostic, Bool.and_eq_true, decide_eq_true_eq, decide_eq_true_eq] at hsame
    rw [isMeasured, isMeasured, hsame.1]
  have hnone : ∀ items : List SensorDiagnostic, (∀ item ∈ items, item ∈ before ++ after) →
      items.filter isMeasured = [] := by
    intro items hitems
    rw [List.filter_eq_nil_iff]
    intro item hitem
    exact ne_true_of_eq_false (isMeasured_of_history (hcodes item (hitems item hitem)))
  have hall : (measuredDiagnostics math current.measurements).filter isMeasured =
      measuredDiagnostics math current.measurements := by
    rw [List.filter_eq_self]
    exact fun item hitem => decide_eq_true (code_measured math hitem)
  calc (detectSensorFailures math history).filter isMeasured
    _ = firsts sameDiagnostic
          ((before ++ measuredDiagnostics math current.measurements ++ after).filter isMeasured) := by
        rw [hdetected, filter_firsts hkind]
    _ = firsts sameDiagnostic (measuredDiagnostics math current.measurements) := by
        rw [List.filter_append, List.filter_append, hall,
          hnone before fun item hitem => List.mem_append_left _ hitem,
          hnone after fun item hitem => List.mem_append_right _ hitem, List.nil_append, List.append_nil]
    _ = measuredDiagnostics math current.measurements := firsts_of_pairwise (measured_apart math _)

end Judged

/-! ### Texts -/

section Text

variable (math : FloatMath) {history : List TelemetrySample}

/-- The text of diagnostics begins with a code. -/
theorem diagnosticReason_first (hsome : detectSensorFailures math history ≠ []) :
    (diagnosticReason (detectSensorFailures math history)).toList.head? = some 'S' := by
  obtain ⟨item, rest, hitems⟩ := List.exists_cons_of_ne_nil hsome
  have hcode : item.code ∈ measuredCodes ∨ item.code ∈ historyCodes :=
    code_detected math (hitems ▸ List.mem_cons_self)
  have hfirst : ∀ code ∈ measuredCodes ++ historyCodes, code.toList.head? = some 'S' := by decide
  have hletter := hfirst item.code (List.mem_append.mpr hcode)
  obtain ⟨letters, hletters⟩ := List.head?_eq_some_iff.mp hletter
  rw [hitems, diagnosticReason, sliceTo, List.map_cons, String.append_assoc,
    String.intercalate_cons_append, String.toList_ofList, String.toList_append, hletters]
  rfl

theorem diagnosticReason_ne_waiting (hsome : detectSensorFailures math history ≠ []) :
    diagnosticReason (detectSensorFailures math history) ≠
      "FEATURE_WINDOW_NOT_READY: waiting for causal context" := by
  intro hsame
  have hfirst := diagnosticReason_first math hsome
  rw [hsame] at hfirst
  exact absurd hfirst (by decide)

end Text

end IiotMonitoring.AnomalyWorker
