import IiotMonitoring.Lib.SlidingWindow
import IiotMonitoring.Proof.ArtifactLoad
import IiotMonitoring.Proof.ScoringCall

/-!
# What a sample's features depend on

The segment of the loop over the samples is a sliding window, so the features of a sample are those of
the twelve samples that end with it, and so are its diagnostics. The result of a sample does not depend
on how many other rows are scored with it, where the estimator takes its rows one by one.
-/

namespace IiotMonitoring.AnomalyWorker

/-! ### The segment is a window -/

section Segment

variable (math : FloatMath) (options : WindowOptions)

/-- The second sample is no gap after the first one. -/
def followsSample (first second : TelemetrySample) : Bool :=
  !isGap math options first.timestamp second.timestamp

/-- The window of the samples so far. -/
def segmentAfter (segment samples : List TelemetrySample) : List TelemetrySample :=
  windowAfter options.windowSize (followsSample math options) segment samples

/-- The time that the loop carries is that of the last sample. -/
def FeatureState.Consistent (state : FeatureState) : Prop :=
  state.previousTime = state.segment.getLast?.map (·.timestamp)

variable {math} {options}

theorem push_segment {state : FeatureState} (hstate : state.Consistent) (sample : TelemetrySample) :
    (state.push math options sample).segment =
      slide options.windowSize (followsSample math options) state.segment sample := by
  rw [FeatureState.push, hstate, slide, joined]
  dsimp only
  cases hlast : state.segment.getLast? with
  | none => rfl
  | some last =>
      rw [Option.map_some, Option.any_some, Option.all_some, followsSample]
      cases isGap math options last.timestamp sample.timestamp <;> rfl

theorem push_consistent {state : FeatureState} (sample : TelemetrySample) :
    (state.push math options sample).Consistent := by
  have hsize := options.sizes
  rw [FeatureState.Consistent, FeatureState.push]
  dsimp only
  generalize (if state.previousTime.any _ then [] else state.segment) = kept
  split
  · rename_i hlong
    have hkept : kept ≠ [] := by
      rintro rfl
      rw [List.nil_append, List.length_singleton] at hlong
      omega
    rw [List.tail_append_of_ne_nil hkept, List.getLast?_concat]
    rfl
  · rw [List.getLast?_concat]
    rfl

/-- The rows come from the windows of the samples. -/
theorem mem_featureRows {state : FeatureState} (hstate : state.Consistent)
    {samples : List TelemetrySample} {row : FeatureRow} :
    row ∈ featureRows math options state samples ↔
      ∃ place sample, samples[place]? = some sample ∧
        featureRow math options (segmentAfter math options state.segment (samples.take (place + 1)))
          sample = some row := by
  induction samples generalizing state with
  | nil => simp [featureRows]
  | cons sample rest ih =>
      rw [featureRows, List.mem_append, Option.mem_toList, ih (push_consistent sample),
        push_segment hstate]
      constructor
      · rintro (hhead | ⟨place, later, hlater, hrow⟩)
        · exact ⟨0, sample, rfl, hhead⟩
        · exact ⟨place + 1, later, hlater, hrow⟩
      · rintro ⟨place, later, hlater, hrow⟩
        cases place with
        | zero =>
            cases hlater
            exact .inl hrow
        | succ place => exact .inr ⟨place, later, hlater, hrow⟩

theorem featureRow_sampleId {segment : List TelemetrySample} {sample : TelemetrySample}
    {row : FeatureRow} (h : featureRow math options segment sample = some row) :
    row.sampleId = sample.sampleId := by
  rw [featureRow] at h
  split at h
  · cases h
  split at h
  · cases h
  · obtain ⟨-, rfl⟩ := Option.ite_some_none_eq_some.mp h
    rfl

end Segment

/-! ### Sorted samples -/

section Sorted

variable {samples : List TelemetrySample}

/-- The samples are in the order of their times and keys. -/
def Chronological (samples : List TelemetrySample) : Prop :=
  samples.Pairwise fun left right => left.before right = true

theorem Chronological.mergeSort (h : Chronological samples) :
    samples.mergeSort TelemetrySample.before = samples :=
  List.mergeSort_of_pairwise h

/-- Two samples of one key are one sample. -/
theorem same_place (hkeys : (samples.map (·.sampleId)).Nodup) {place place' : Nat}
    {sample sample' : TelemetrySample} (hsample : samples[place]? = some sample)
    (hsample' : samples[place']? = some sample') (hsame : sample.sampleId = sample'.sampleId) :
    place = place' := by
  have hlength : place < (samples.map (·.sampleId)).length := by
    rw [List.length_map]
    exact (List.getElem?_eq_some_iff.mp hsample).1
  apply (List.getElem?_inj hlength hkeys).mp
  rw [List.getElem?_map, List.getElem?_map, hsample, hsample', Option.map_some, Option.map_some, hsame]

end Sorted

/-! ### Dictionaries -/

section Lookup

variable {β : Type} {entries : List (Nat × β)} {key : Nat}

theorem lookupLast_eq_none (h : ∀ entry ∈ entries, entry.1 ≠ key) : lookupLast entries key = none := by
  rw [lookupLast, List.lookup_eq_none_iff]
  intro entry hentry
  rw [bne_iff_ne]
  exact (h entry (List.mem_reverse.mp hentry)).symm

theorem lookupLast_eq_some {value : β} (hmem : (key, value) ∈ entries)
    (h : ∀ entry ∈ entries, entry.1 = key → entry.2 = value) :
    lookupLast entries key = some value := by
  have hkey : key ∈ entries.map Prod.fst := List.mem_map_of_mem hmem
  have hsome := lookupLast_isSome hkey
  obtain ⟨found, hfound⟩ := Option.isSome_iff_exists.mp hsome
  rw [hfound]
  rw [lookupLast] at hfound
  obtain ⟨left, right, hsplit, -⟩ := List.lookup_eq_some_iff.mp hfound
  have hentry : (key, found) ∈ entries := by
    rw [← List.mem_reverse, hsplit]
    exact List.mem_append_right _ List.mem_cons_self
  rw [← h (key, found) hentry rfl]

end Lookup

/-! ### Diagnostics -/

section Diagnostics

variable (math : FloatMath)

/-- The diagnostics of a target are those of its trailing samples. -/
theorem lookup_diagnostics {samples : List TelemetrySample}
    (hkeys : (samples.map (·.sampleId)).Nodup) {targetIds : List Nat} {place : Nat}
    {sample : TelemetrySample} (hsample : samples[place]? = some sample)
    (htarget : sample.sampleId ∈ targetIds) :
    lookupLast (diagnosticsById math samples targetIds) sample.sampleId =
      some (detectSensorFailures math (trailing samples place)) := by
  apply lookupLast_eq_some
  · rw [diagnosticsById]
    refine List.mem_map.mpr ⟨(sample, place), List.mem_filter.mpr ⟨?_, by simpa using htarget⟩, rfl⟩
    exact List.mk_mem_zipIdx_iff_getElem?.mpr hsample
  · intro entry hentry hsame
    obtain ⟨⟨sample', place'⟩, hindexed, rfl⟩ := List.mem_map.mp hentry
    have hsample' := List.mk_mem_zipIdx_iff_getElem?.mp (List.mem_filter.mp hindexed).1
    rw [same_place hkeys hsample' hsample hsame]

end Diagnostics

/-! ### Results -/

section Results

variable (math : FloatMath) (bundle : ModelBundle)

/-- The estimator takes the rows of a matrix one by one. -/
structure Estimator.RowByRow (estimator : Estimator) (score : List PyFloat → PyFloat)
    (prediction : List PyFloat → Int) : Prop where
  scoreSamples : ∀ matrix, estimator.scoreSamples matrix = .ok (matrix.map score)
  predict : ∀ matrix, estimator.predict matrix = .ok (matrix.map prediction)

variable {score : List PyFloat → PyFloat} {prediction : List PyFloat → Int}

theorem Estimator.RowByRow.answers {estimator : Estimator}
    (hrows : estimator.RowByRow score prediction) (matrix : List (List PyFloat)) :
    estimator.Answers matrix :=
  ⟨⟨_, hrows.scoreSamples matrix, List.length_map _⟩, ⟨_, hrows.predict matrix, List.length_map _⟩⟩

theorem zip_map_map {α β γ : Type} (items : List α) (f : α → β) (g : α → γ) :
    items.zip ((items.map f).zip (items.map g)) = items.map fun item => (item, f item, g item) := by
  induction items with
  | nil => rfl
  | cons item items ih =>
      rw [List.map_cons, List.map_cons, List.zip_cons_cons, List.zip_cons_cons, ih, List.map_cons]

variable {bundle}

/-- Each row is scored as if it were alone. -/
theorem scoreRows_rowByRow (hchecked : bundle.Checked)
    (hrows : bundle.estimator.RowByRow score prediction) (rows : List FeatureRow) :
    scoreRows math bundle rows = rows.mapM fun row =>
      scoreRow math bundle row (score row.values).neg (prediction row.values) := by
  rw [scoreRows, hchecked.schema]
  by_cases hnone : rows = []
  · rw [hnone]
    rfl
  · have hsome : rows.isEmpty = false := List.isEmpty_eq_false_iff.mpr hnone
    have hzip : rows.zip ((((rows.map (·.values)).map score).map FloatNumber.neg).zip
        ((rows.map (·.values)).map prediction)) =
          rows.map fun row => (row, (score row.values).neg, prediction row.values) := by
      rw [List.map_map, List.map_map, List.map_map]
      exact zip_map_map ..
    rw [hsome, hrows.scoreSamples, hrows.predict, ok_bind, ok_bind, hzip]
    simp only [List.mapM_map, List.length_map, decide_true, Bool.and_self, strictly, if_true,
      Bool.not_true, Bool.false_eq_true, if_false, Function.comp_def]
    exact bind_pure _

theorem scoreRow_sampleId {row : FeatureRow} {raw : PyFloat} {predicted : Int} {result : ScoreResult}
    (h : scoreRow math bundle row raw predicted = .ok result) : result.sampleId = row.sampleId := by
  obtain ⟨place, -, h⟩ := bind_eq_ok.mp h
  obtain ⟨reason, -, hlast⟩ := bind_eq_ok.mp h
  cases hlast
  rfl

/-- The features of the sample at a place. -/
def featuresAt (samples : List TelemetrySample) (place : Nat) : Option FeatureRow :=
  samples[place]?.bind fun sample =>
    featureRow math .default (segmentAfter math .default [] (samples.take (place + 1))) sample

/-- The result of the sample at a place. -/
def resultAt (bundle : ModelBundle) (score : List PyFloat → PyFloat)
    (prediction : List PyFloat → Int) (samples : List TelemetrySample) (place : Nat) :
    Option ScoreResult :=
  (featuresAt math samples place).bind fun row =>
    (scoreRow math bundle row (score row.values).neg (prediction row.values)).toOption

theorem mem_generateFeatures {samples : List TelemetrySample} (hordered : Chronological samples)
    {row : FeatureRow} :
    row ∈ generateFeatures math .default samples ↔ ∃ place, featuresAt math samples place = some row := by
  rw [generateFeatures, hordered.mergeSort, mem_featureRows (by rfl)]
  apply exists_congr
  intro place
  rw [featuresAt, Option.bind_eq_some_iff]

/-- **One result.** A sample gets the result of its own features, whatever else is scored. -/
theorem lookup_results (hchecked : bundle.Checked) (hflat : bundle.Flat)
    (hrows : bundle.estimator.RowByRow score prediction) {samples : List TelemetrySample}
    (hordered : Chronological samples) (hkeys : (samples.map (·.sampleId)).Nodup)
    {wanted : ScoreResult → Bool} {place : Nat} {sample : TelemetrySample}
    (hsample : samples[place]? = some sample)
    (hwanted : ∀ result, result.sampleId = sample.sampleId → wanted result = true)
    {scored : List ScoreResult}
    (hscored : scoreRows math bundle (generateFeatures math .default samples) = .ok scored) :
    lookupLast ((scored.filter wanted).map fun result => (result.sampleId, result)) sample.sampleId =
      resultAt math bundle score prediction samples place := by
  rw [scoreRows_rowByRow math hchecked hrows] at hscored
  have hmem := mem_results_iff hscored
  -- a result under the sample's key is that of the sample's features
  have hown : ∀ result ∈ scored, result.sampleId = sample.sampleId →
      ∃ row, featuresAt math samples place = some row ∧
        scoreRow math bundle row (score row.values).neg (prediction row.values) = .ok result := by
    intro result hresult hsame
    obtain ⟨row, hrow, hscore⟩ := (hmem result).mp hresult
    obtain ⟨place', hplace'⟩ := (mem_generateFeatures math hordered).mp hrow
    obtain ⟨sample', hsample', hfeatures⟩ := Option.bind_eq_some_iff.mp hplace'
    have hsample_same : sample'.sampleId = sample.sampleId := by
      rw [← featureRow_sampleId hfeatures, ← scoreRow_sampleId math hscore, hsame]
    rw [same_place hkeys hsample' hsample hsample_same] at hplace'
    exact ⟨row, hplace', hscore⟩
  have hentries : ∀ entry ∈ (scored.filter wanted).map (fun result => (result.sampleId, result)),
      entry.1 = sample.sampleId → entry.2 ∈ scored ∧ entry.2.sampleId = sample.sampleId := by
    intro entry hentry hsame
    obtain ⟨result, hresult, rfl⟩ := List.mem_map.mp hentry
    exact ⟨(List.mem_filter.mp hresult).1, hsame⟩
  rw [resultAt]
  cases hfeatures : featuresAt math samples place with
  | none =>
      apply lookupLast_eq_none
      intro entry hentry hsame
      obtain ⟨hresult, hkey⟩ := hentries entry hentry hsame
      obtain ⟨row, hrow, -⟩ := hown entry.2 hresult hkey
      rw [hfeatures] at hrow
      cases hrow
  | some row =>
      obtain ⟨result, hresult⟩ := scoreRow_succeeds math hchecked hflat row (score row.values).neg
        (prediction row.values)
      have hkey : result.sampleId = sample.sampleId := by
        obtain ⟨sample', hsample', hrow⟩ := Option.bind_eq_some_iff.mp hfeatures
        rw [hsample] at hsample'
        cases hsample'
        rw [scoreRow_sampleId math hresult, featureRow_sampleId hrow]
      rw [Option.bind_some, hresult]
      apply lookupLast_eq_some
      · refine List.mem_map.mpr ⟨result, List.mem_filter.mpr ⟨?_, hwanted result hkey⟩, by rw [hkey]⟩
        exact (hmem result).mpr
          ⟨row, (mem_generateFeatures math hordered).mpr ⟨place, hfeatures⟩, hresult⟩
      · intro entry hentry hsame
        obtain ⟨hmember, hkey'⟩ := hentries entry hentry hsame
        obtain ⟨row', hrow', hscore⟩ := hown entry.2 hmember hkey'
        rw [hfeatures] at hrow'
        cases hrow'
        rw [hresult] at hscore
        exact (Except.ok.inj hscore).symm

end Results

/-! ### Windows of a part of the samples -/

section Part

variable {α : Type} {earlier part later : List α} {place : Nat}

/-- The part holds enough samples before the place, or nothing was before the part. -/
def Covered (earlier : List α) (place : Nat) : Prop :=
  earlier = [] ∨ contextSize ≤ place + 1

theorem getElem?_part (hplace : place < part.length) :
    (earlier ++ part ++ later)[earlier.length + place]? = part[place]? := by
  rw [List.append_assoc, List.getElem?_append_right (Nat.le_add_right _ _), Nat.add_sub_cancel_left,
    List.getElem?_append_left hplace]

theorem take_part (hplace : place < part.length) :
    (earlier ++ part ++ later).take (earlier.length + place + 1) =
      earlier ++ part.take (place + 1) := by
  rw [List.append_assoc, Nat.add_assoc, List.take_length_add_append,
    List.take_append_of_le_length (by omega)]

end Part

section PartOfSamples

variable (math : FloatMath) {earlier part later : List TelemetrySample} {place : Nat}

theorem segmentAfter_part (hplace : place < part.length) (hcovered : Covered earlier place) :
    segmentAfter math .default [] ((earlier ++ part ++ later).take (earlier.length + place + 1)) =
      segmentAfter math .default [] (part.take (place + 1)) := by
  rw [take_part hplace]
  rcases hcovered with rfl | hlong
  · rfl
  · have hsize : 0 < WindowOptions.default.windowSize := by decide
    rw [segmentAfter, segmentAfter, windowAfter_append]
    apply windowAfter_forgets hsize
    · exact length_windowAfter_le _ earlier hsize (Nat.zero_le _)
    · rw [List.length_take]
      change 12 ≤ _
      change 12 ≤ place + 1 at hlong
      omega

theorem trailing_part (hplace : place < part.length) (hcovered : Covered earlier place) :
    trailing (earlier ++ part ++ later) (earlier.length + place) = trailing part place := by
  rw [trailing, trailing, take_part hplace]
  rcases hcovered with rfl | hlong
  · rw [List.length_nil, Nat.zero_add, List.nil_append]
  · have hskip : earlier.length + place + 1 - contextSize =
        earlier.length + (place + 1 - contextSize) := by
      omega
    rw [hskip, List.drop_length_add_append]

theorem featuresAt_part (hplace : place < part.length) (hcovered : Covered earlier place) :
    featuresAt math (earlier ++ part ++ later) (earlier.length + place) =
      featuresAt math part place := by
  rw [featuresAt, featuresAt, getElem?_part hplace, segmentAfter_part math hplace hcovered]

end PartOfSamples

end IiotMonitoring.AnomalyWorker
