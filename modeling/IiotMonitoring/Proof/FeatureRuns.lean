import IiotMonitoring.Proof.FeatureWindows
import IiotMonitoring.Proof.SensorRules

/-!
# One row for one run

The row of a sample is that of the run that ends with it: the samples up to it in their order, since the
last gap, and no more of them than the window holds.
-/

namespace IiotMonitoring.AnomalyWorker

/-! ### The order of the samples -/

theorem TelemetrySample.before_refl (sample : TelemetrySample) : sample.before sample = true :=
  before_iff.mpr (.inr ⟨rfl, le_rfl⟩)

theorem TelemetrySample.before_trans (a b c : TelemetrySample) (hab : a.before b = true)
    (hbc : b.before c = true) : a.before c = true := by
  rw [before_iff] at hab hbc ⊢
  omega

theorem TelemetrySample.timestamp_le {left right : TelemetrySample} (h : left.before right = true) :
    left.timestamp ≤ right.timestamp := by
  rw [before_iff] at h
  omega

theorem TelemetrySample.before_total (a b : TelemetrySample) : (a.before b || b.before a) = true := by
  rw [Bool.or_eq_true, before_iff, before_iff]
  omega

/-- Samples with distinct ids. -/
def DistinctIds (samples : List TelemetrySample) : Prop := (samples.map (·.sampleId)).Nodup

section Order

variable {samples : List TelemetrySample} {left right : TelemetrySample}

theorem DistinctIds.eq (h : DistinctIds samples) (hleft : left ∈ samples) (hright : right ∈ samples)
    (hsame : left.sampleId = right.sampleId) : left = right :=
  List.inj_on_of_nodup_map h hleft hright hsame

/-- The order of the samples of a list is antisymmetric. -/
theorem DistinctIds.antisymm (h : DistinctIds samples) (hleft : left ∈ samples) (hright : right ∈ samples)
    (hlr : left.before right = true) (hrl : right.before left = true) : left = right := by
  rw [TelemetrySample.before_iff] at hlr hrl
  exact h.eq hleft hright (by omega)

theorem Chronological.before_getLast (h : Chronological samples) (hleft : left ∈ samples) :
    left.before (samples.getLast (List.ne_nil_of_mem hleft)) = true := by
  have hsplit := List.dropLast_append_getLast (List.ne_nil_of_mem hleft)
  have hmem := hleft
  rw [← hsplit] at hmem
  rcases List.mem_append.mp hmem with hearlier | hlast
  · rw [Chronological, ← hsplit, List.pairwise_append] at h
    exact h.2.2 left hearlier _ List.mem_cons_self
  · rw [List.mem_singleton] at hlast
    rw [← hlast]
    exact left.before_refl

theorem chronological_mergeSort (samples : List TelemetrySample) :
    Chronological (samples.mergeSort TelemetrySample.before) :=
  List.pairwise_mergeSort TelemetrySample.before_trans TelemetrySample.before_total samples

/-- Only one order of samples is chronological. -/
theorem Chronological.eq_of_perm {ordered ordered' : List TelemetrySample} (h : Chronological ordered)
    (h' : Chronological ordered') (hids : DistinctIds ordered) (hperm : ordered.Perm ordered') :
    ordered = ordered' :=
  hperm.eq_of_pairwise (fun _ _ hleft hright hlr hrl => hids.antisymm hleft (hperm.symm.subset hright) hlr hrl)
    h h'

end Order

/-! ### The run of a sample -/

section Runs

variable (math : FloatMath) (options : WindowOptions)

/-- The samples up to one, in their order. -/
def samplesUpTo (samples : List TelemetrySample) (last : TelemetrySample) : List TelemetrySample :=
  (samples.filter (·.before last)).mergeSort TelemetrySample.before

/-- The run that ends with a sample. -/
def trailingRun (samples : List TelemetrySample) (last : TelemetrySample) : List TelemetrySample :=
  (lastRun (followsSample math options) (samplesUpTo samples last)).rtake options.windowSize

/-- A row comes of such a run. -/
def UsableRun (run : List TelemetrySample) : Prop :=
  options.minimumWindow ≤ run.length ∧ (∀ sample ∈ run, sample.measurementsAreFinite = true) ∧
    (options.healthyWindowsOnly = true → ∀ sample ∈ run, sample.isHealthy = true)

instance (run : List TelemetrySample) : Decidable (UsableRun options run) :=
  inferInstanceAs (Decidable (_ ∧ _ ∧ _))

/-- The rows of a sample. -/
def rowsOf (samples : List TelemetrySample) (sample : TelemetrySample) : List FeatureRow :=
  (generateFeatures math options samples).filter (·.sampleId = sample.sampleId)

variable {math} {options}

theorem segmentAfter_eq (samples : List TelemetrySample) (last : TelemetrySample) :
    segmentAfter math options [] (samplesUpTo samples last) = trailingRun math options samples last := by
  have hsize : 0 < options.windowSize := by
    have hsizes := options.sizes
    omega
  exact windowAfter_eq_rtake _ hsize _

theorem DistinctIds.mergeSort {samples : List TelemetrySample} (h : DistinctIds samples) :
    DistinctIds (samples.mergeSort TelemetrySample.before) :=
  ((List.mergeSort_perm samples TelemetrySample.before).map _).nodup_iff.mpr h

/-- The loop has seen the samples up to the one it is at. -/
theorem take_eq_samplesUpTo {samples : List TelemetrySample} (hids : DistinctIds samples) {place : Nat}
    {last : TelemetrySample} (hplace : (samples.mergeSort TelemetrySample.before)[place]? = some last) :
    (samples.mergeSort TelemetrySample.before).take (place + 1) = samplesUpTo samples last := by
  have hperm := List.mergeSort_perm samples TelemetrySample.before
  have hordered := chronological_mergeSort samples
  have hdistinct := hids.mergeSort
  generalize samples.mergeSort TelemetrySample.before = ordered at hplace hperm hordered hdistinct ⊢
  have htaken : ordered.take (place + 1) = ordered.take place ++ [last] := by
    rw [List.take_add_one, hplace, Option.toList_some]
  have hsplit : ordered = ordered.take (place + 1) ++ ordered.drop (place + 1) :=
    (List.take_append_drop _ _).symm
  have hlast : last ∈ ordered.take (place + 1) := by
    rw [htaken]
    exact List.mem_concat_self
  have hparts := hordered
  rw [Chronological, hsplit, List.pairwise_append] at hparts
  obtain ⟨hfirst, -, hacross⟩ := hparts
  have hbefore : ∀ sample ∈ ordered.take (place + 1), sample.before last = true := by
    rw [htaken, List.pairwise_append] at hfirst
    rw [htaken]
    intro sample hsample
    rcases List.mem_append.mp hsample with hmem | hmem
    · exact hfirst.2.2 sample hmem last List.mem_cons_self
    · rw [List.mem_singleton.mp hmem]
      exact last.before_refl
  have hafter : ∀ sample ∈ ordered.drop (place + 1), ¬sample.before last = true := by
    intro sample hsample hle
    have hsame : sample = last := hdistinct.antisymm (List.mem_of_mem_drop hsample)
      (List.mem_of_mem_take hlast) hle (hacross last hlast sample hsample)
    have hnodup : ordered.Nodup := .of_map _ hdistinct
    rw [hsplit] at hnodup
    exact List.disjoint_of_nodup_append hnodup hlast (hsame ▸ hsample)
  have hfilter : ordered.filter (·.before last) = ordered.take (place + 1) := by
    rw [hsplit, List.filter_append, List.filter_eq_self.mpr hbefore, List.filter_eq_nil_iff.mpr hafter,
      List.append_nil, ← hsplit]
  apply Chronological.eq_of_perm hfirst (chronological_mergeSort _)
  · exact hdistinct.sublist ((List.take_sublist _ _).map _)
  · rw [← hfilter]
    exact (hperm.filter _).trans (List.mergeSort_perm _ _).symm

/-- **One row.** -/
theorem mem_generateFeatures_iff {samples : List TelemetrySample} (hids : DistinctIds samples)
    {sample : TelemetrySample} (hsample : sample ∈ samples) {row : FeatureRow} :
    (row ∈ generateFeatures math options samples ∧ row.sampleId = sample.sampleId) ↔
      featureRow math options (trailingRun math options samples sample) sample = some row := by
  rw [generateFeatures, mem_featureRows (by rfl)]
  constructor
  · rintro ⟨⟨place, owner, hplace, hrow⟩, hid⟩
    have howner : owner ∈ samples := List.mem_mergeSort.mp (List.mem_of_getElem? hplace)
    obtain rfl := hids.eq howner hsample (by rw [← featureRow_sampleId hrow, hid])
    rwa [take_eq_samplesUpTo hids hplace, segmentAfter_eq] at hrow
  · intro hrow
    obtain ⟨place, hplace⟩ := List.mem_iff_getElem?.mp
      ((@List.mem_mergeSort _ TelemetrySample.before _ _).mpr hsample)
    refine ⟨⟨place, sample, hplace, ?_⟩, featureRow_sampleId hrow⟩
    rwa [take_eq_samplesUpTo hids hplace, segmentAfter_eq]

theorem featureRow_iff {run : List TelemetrySample} {sample : TelemetrySample}
    (hfinite : ∀ value ∈ featureValues math run, value.isFinite = true) {row : FeatureRow} :
    featureRow math options run sample = some row ↔
      UsableRun options run ∧ row = ⟨sample.sampleId, sample.timestamp, featureValues math run⟩ := by
  have hall : (featureValues math run).all FloatNumber.isFinite = true := List.all_eq_true.mpr hfinite
  unfold featureRow UsableRun
  dsimp only
  rw [hall, if_pos rfl]
  by_cases hcomplete : (decide (run.length < options.minimumWindow) ||
      !run.all (·.measurementsAreFinite)) = true
  · rw [if_pos hcomplete]
    refine iff_of_false (fun h => by cases h) ?_
    rintro ⟨⟨hlength, hmeasured, -⟩, -⟩
    simp only [Bool.or_eq_true, decide_eq_true_iff, Bool.not_eq_true', List.all_eq_false] at hcomplete
    rcases hcomplete with hshort | ⟨item, hitem, hmissing⟩
    · omega
    · exact hmissing (hmeasured item hitem)
  · rw [if_neg hcomplete]
    simp only [Bool.or_eq_true, decide_eq_true_iff, Bool.not_eq_true', not_or, Bool.not_eq_false,
      List.all_eq_true, Nat.not_lt] at hcomplete
    by_cases hhealthy : (options.healthyWindowsOnly && !run.all (·.isHealthy)) = true
    · rw [if_pos hhealthy]
      refine iff_of_false (fun h => by cases h) ?_
      rintro ⟨⟨-, -, hall_healthy⟩, -⟩
      rw [Bool.and_eq_true, Bool.not_eq_true', List.all_eq_false] at hhealthy
      obtain ⟨honly, item, hitem, hfaulty⟩ := hhealthy
      exact hfaulty (hall_healthy honly item hitem)
    · rw [if_neg hhealthy, Option.some.injEq]
      have hhealth : options.healthyWindowsOnly = true → ∀ item ∈ run, item.isHealthy = true := by
        intro honly
        rw [honly, Bool.true_and, Bool.not_eq_true', Bool.not_eq_false] at hhealthy
        exact List.all_eq_true.mp hhealthy
      constructor
      · rintro rfl
        exact ⟨⟨hcomplete.1, hcomplete.2, hhealth⟩, rfl⟩
      · rintro ⟨-, rfl⟩
        rfl

theorem featureRows_sampleIds (state : FeatureState) (samples : List TelemetrySample) :
    ((featureRows math options state samples).map (·.sampleId)).Sublist (samples.map (·.sampleId)) := by
  induction samples generalizing state with
  | nil => exact .slnil
  | cons sample rest ih =>
      rw [featureRows, List.map_append, List.map_cons]
      cases hrow : featureRow math options (state.push math options sample).segment sample with
      | none => exact (ih _).cons _
      | some row =>
          have hid := featureRow_sampleId hrow
          rw [← hid]
          exact (ih _).cons_cons _

/-- Rows are for distinct samples. -/
theorem nodup_generateFeatures {samples : List TelemetrySample} (hids : DistinctIds samples) :
    ((generateFeatures math options samples).map (·.sampleId)).Nodup :=
  hids.mergeSort.sublist (featureRows_sampleIds _ _)

theorem rowsOf_eq {samples : List TelemetrySample} (hids : DistinctIds samples)
    {sample : TelemetrySample} (hsample : sample ∈ samples) :
    rowsOf math options samples sample =
      (featureRow math options (trailingRun math options samples sample) sample).toList := by
  have hmem : ∀ row, row ∈ rowsOf math options samples sample ↔
      featureRow math options (trailingRun math options samples sample) sample = some row := by
    intro row
    rw [← mem_generateFeatures_iff hids hsample, rowsOf, List.mem_filter, decide_eq_true_iff]
  have hnodup : (rowsOf math options samples sample).Nodup :=
    (List.Nodup.of_map _ (nodup_generateFeatures hids)).filter _
  cases hrow : featureRow math options (trailingRun math options samples sample) sample with
  | none =>
      rw [hrow] at hmem
      exact List.eq_nil_iff_forall_not_mem.mpr fun row hmember => by cases (hmem row).mp hmember
  | some row =>
      rw [hrow] at hmem
      rw [Option.toList_some, ← List.perm_singleton, List.perm_ext_iff_of_nodup hnodup (List.nodup_singleton row)]
      intro other
      rw [hmem, List.mem_singleton, Option.some.injEq, eq_comm]

/-! ### Other samples -/

/-- What is known of the run of a sample that ends with it. -/
structure TrailingRun (math : FloatMath) (options : WindowOptions) (samples : List TelemetrySample)
    (last first : TelemetrySample) (run : List TelemetrySample) : Prop where
  head : run.head? = some first
  chain : run.IsChain fun left right => followsSample math options left right
  length : run.length ≤ options.windowSize
  ordered : Chronological run
  ids : DistinctIds run
  mem_iff : ∀ sample, sample ∈ run ↔
    sample ∈ samples ∧ sample.before last = true ∧ first.before sample = true
  /-- It fills the window, or there is a gap before it. -/
  cut : options.windowSize ≤ run.length ∨
    ∀ sample ∈ samples, sample.before last = true → first.before sample = false →
      ∃ nearest, sample.before nearest = true ∧ isGap math options nearest.timestamp first.timestamp = true

theorem mem_samplesUpTo {samples : List TelemetrySample} {last sample : TelemetrySample} :
    sample ∈ samplesUpTo samples last ↔ sample ∈ samples ∧ sample.before last = true := by
  rw [samplesUpTo, List.mem_mergeSort, List.mem_filter]

theorem DistinctIds.samplesUpTo {samples : List TelemetrySample} (h : DistinctIds samples)
    (last : TelemetrySample) : DistinctIds (samplesUpTo samples last) :=
  DistinctIds.mergeSort (h.sublist (List.filter_sublist.map _))

theorem trailingRun_spec {samples : List TelemetrySample} (hids : DistinctIds samples)
    {last : TelemetrySample} (hlast : last ∈ samples) :
    ∃ first, TrailingRun math options samples last first (trailingRun math options samples last) := by
  have hsize : 0 < options.windowSize := by
    have hsizes := options.sizes
    omega
  have hitems : samplesUpTo samples last ≠ [] :=
    List.ne_nil_of_mem (mem_samplesUpTo.mpr ⟨hlast, last.before_refl⟩)
  have hordered : Chronological (samplesUpTo samples last) := chronological_mergeSort _
  obtain ⟨earlier, run, hrun, hsplit, hnonempty, hchain, hlength, hcut⟩ :=
    rtake_lastRun_spec (followsSample math options) hsize hitems
  rw [trailingRun, hrun]
  obtain ⟨first, rest, rfl⟩ := List.exists_cons_of_ne_nil hnonempty
  have hparts := hordered
  rw [Chronological, hsplit, List.pairwise_append] at hparts
  obtain ⟨hearlier, hlater, hacross⟩ := hparts
  have hmem_parts : ∀ sample, (sample ∈ samples ∧ sample.before last = true) ↔
      sample ∈ earlier ∨ sample ∈ first :: rest := by
    intro sample
    rw [← mem_samplesUpTo, hsplit, List.mem_append]
  have hfirst_le : ∀ sample ∈ first :: rest, first.before sample = true := by
    intro sample hsample
    rcases List.mem_cons.mp hsample with rfl | hmem
    · exact sample.before_refl
    · exact List.rel_of_pairwise_cons hlater hmem
  have hrun_ids : DistinctIds (first :: rest) := by
    have hupTo := hids.samplesUpTo last
    rw [hsplit] at hupTo
    exact hupTo.sublist ((List.sublist_append_right _ _).map _)
  refine ⟨first, rfl, hchain, hlength, hlater, hrun_ids, ?_, ?_⟩
  · intro sample
    constructor
    · intro hsample
      have hin := (hmem_parts sample).mpr (.inr hsample)
      exact ⟨hin.1, hin.2, hfirst_le sample hsample⟩
    · rintro ⟨hsample, hbefore, hfirst⟩
      rcases (hmem_parts sample).mp ⟨hsample, hbefore⟩ with hmem | hmem
      · have hin := (hmem_parts first).mpr (.inr List.mem_cons_self)
        rw [hids.antisymm hsample hin.1 (hacross sample hmem first List.mem_cons_self) hfirst]
        exact List.mem_cons_self
      · exact hmem
  · apply hcut.imp_right
    intro hbroken sample hsample hbefore hstrict
    have hmem : sample ∈ earlier := by
      apply ((hmem_parts sample).mp ⟨hsample, hbefore⟩).resolve_right
      intro hin
      rw [hfirst_le sample hin] at hstrict
      cases hstrict
    have hnonempty := List.ne_nil_of_mem hmem
    refine ⟨earlier.getLast hnonempty, ?_, ?_⟩
    · exact Chronological.before_getLast hearlier hmem
    · have hgap := hbroken _ (List.getLast?_eq_some_getLast hnonempty) first rfl
      rwa [followsSample, Bool.not_eq_false'] at hgap

/-- `>` with a longer time. -/
theorem isGap_mono (hround : Monotone math.round) {earlier later time : Int} (hle : earlier ≤ later)
    (h : isGap math options later time = true) : isGap math options earlier time = true := by
  have hround_le : math.round ((time - later : Int) / 1000000) ≤ math.round ((time - earlier : Int) / 1000000) := by
    apply hround
    have hcast : ((time - later : Int) : ℚ) ≤ ((time - earlier : Int) : ℚ) := by
      exact_mod_cast (by omega : time - later ≤ time - earlier)
    linarith
  unfold isGap FloatMath.totalSeconds FloatMath.literal at h ⊢
  cases hmaximum : options.maximumGapS with
  | finite bound =>
      rw [hmaximum] at h
      have hlong : bound < math.round ((time - later : Int) / 1000000) := by simpa [FloatNumber.less] using h
      simpa [FloatNumber.less] using hlong.trans_le hround_le
  | infinity negative =>
      rw [hmaximum] at h
      exact h
  | nan =>
      rw [hmaximum] at h
      exact h

/-- Samples like those of the run and the same up to the last one. What is before the run stays outside
of it. -/
structure KeepsRun (math : FloatMath) (options : WindowOptions) (samples samples' : List TelemetrySample)
    (last first : TelemetrySample) (run : List TelemetrySample) : Prop where
  within : ∀ sample, first.before sample = true → sample.before last = true →
    (sample ∈ samples' ↔ sample ∈ samples)
  outside : options.windowSize ≤ run.length ∨ ∀ sample ∈ samples', first.before sample = false →
    sample ∈ samples ∨ isGap math options sample.timestamp first.timestamp = true

/-- The run of a sample depends on nothing else. -/
theorem trailingRun_congr (hround : Monotone math.round) {samples samples' : List TelemetrySample}
    (hids' : DistinctIds samples') {last first : TelemetrySample} {run : List TelemetrySample}
    (hrun : TrailingRun math options samples last first run)
    (h : KeepsRun math options samples samples' last first run) :
    trailingRun math options samples' last = run := by
  have hsize : 0 < options.windowSize := by
    have hsizes := options.sizes
    omega
  have hnonempty : run ≠ [] := by
    intro hempty
    have hhead := hrun.head
    rw [hempty] at hhead
    cases hhead
  have hupTo := hids'.samplesUpTo last
  -- the samples before the run come first, and the run after them
  have hsplit : samplesUpTo samples' last =
      (samplesUpTo samples' last).filter (fun sample => !first.before sample) ++ run := by
    have hsame : ((samplesUpTo samples' last).filter fun sample => first.before sample).Perm run := by
      rw [List.perm_ext_iff_of_nodup ((List.Nodup.of_map _ hupTo).filter _) (.of_map _ hrun.ids)]
      intro sample
      rw [List.mem_filter, mem_samplesUpTo, hrun.mem_iff]
      constructor
      · rintro ⟨⟨hsample, hbefore⟩, hafter⟩
        exact ⟨(h.within sample hafter hbefore).mp hsample, hbefore, hafter⟩
      · rintro ⟨hsample, hbefore, hafter⟩
        exact ⟨⟨(h.within sample hafter hbefore).mpr hsample, hbefore⟩, hafter⟩
    apply Chronological.eq_of_perm (chronological_mergeSort _) _ hupTo
    · exact (List.filter_append_perm _ _).symm.trans (List.perm_append_comm.trans (hsame.append_left _))
    · apply List.pairwise_append.mpr
      refine ⟨(chronological_mergeSort _).sublist List.filter_sublist, hrun.ordered, ?_⟩
      intro sample hsample later hlater
      have hstrict : ¬first.before sample = true := by simpa using (List.mem_filter.mp hsample).2
      have htotal := TelemetrySample.before_total sample first
      rw [Bool.or_eq_true] at htotal
      exact sample.before_trans first later (htotal.resolve_right hstrict)
        ((hrun.mem_iff later).mp hlater).2.2
  rw [← segmentAfter_eq, segmentAfter, hsplit]
  apply windowAfter_append_run hsize hnonempty hrun.chain hrun.length
  rcases h.outside with hfull | houtside
  · exact .inl hfull
  rcases hrun.cut with hfull | hcut
  · exact .inl hfull
  · right
    intro nearest hnearest head hhead
    rw [hrun.head] at hhead
    cases hhead
    have hmem := List.mem_filter.mp (List.mem_of_getLast? hnearest)
    have hstrict : first.before nearest = false := by simpa using hmem.2
    obtain ⟨hsample, hbefore⟩ := mem_samplesUpTo.mp hmem.1
    have hgap : isGap math options nearest.timestamp first.timestamp = true := by
      rcases houtside nearest hsample hstrict with hold | hgap
      · obtain ⟨closest, hclosest, hgap⟩ := hcut nearest hold hbefore hstrict
        exact isGap_mono hround (TelemetrySample.timestamp_le hclosest) hgap
      · exact hgap
    rw [followsSample, hgap, Bool.not_true]

/-! ### Causal rows -/

/-- The rows come of the runs of their samples, and of nothing else. -/
structure CausalRows (math : FloatMath) (options : WindowOptions) : Prop where
  rows : ∀ {samples}, DistinctIds samples → ∀ {sample}, sample ∈ samples →
    (∀ value ∈ featureValues math (trailingRun math options samples sample), value.isFinite = true) →
      rowsOf math options samples sample =
        if UsableRun options (trailingRun math options samples sample) then
          [⟨sample.sampleId, sample.timestamp, featureValues math (trailingRun math options samples sample)⟩]
        else []
  owner : ∀ {samples}, ∀ row ∈ generateFeatures math options samples,
    ∃ sample ∈ samples, row.sampleId = sample.sampleId
  unchanged : ∀ {samples samples'}, DistinctIds samples → DistinctIds samples' →
    ∀ {sample first}, sample ∈ samples → (trailingRun math options samples sample).head? = some first →
      KeepsRun math options samples samples' sample first (trailingRun math options samples sample) →
        rowsOf math options samples' sample = rowsOf math options samples sample
  healthy : options.healthyWindowsOnly = true → ∀ {samples}, DistinctIds samples →
    ∀ row ∈ generateFeatures math options samples,
      row ∈ generateFeatures math options (samples.filter (·.isHealthy)) ∧
        ∀ sample ∈ samples, row.sampleId = sample.sampleId →
          ∀ item ∈ trailingRun math options samples sample, item.isHealthy = true

theorem exists_owner {samples : List TelemetrySample} {row : FeatureRow}
    (h : row ∈ generateFeatures math options samples) :
    ∃ sample ∈ samples, row.sampleId = sample.sampleId := by
  have hid := (featureRows_sampleIds _ _).subset (List.mem_map_of_mem h)
  obtain ⟨sample, hsample, hsame⟩ := List.mem_map.mp hid
  exact ⟨sample, List.mem_mergeSort.mp hsample, hsame.symm⟩

theorem rowsOf_congr (hround : Monotone math.round) {samples samples' : List TelemetrySample}
    (hids : DistinctIds samples) (hids' : DistinctIds samples') {sample first : TelemetrySample}
    (hsample : sample ∈ samples) (hfirst : (trailingRun math options samples sample).head? = some first)
    (h : KeepsRun math options samples samples' sample first (trailingRun math options samples sample)) :
    rowsOf math options samples' sample = rowsOf math options samples sample := by
  obtain ⟨head, hrun⟩ := @trailingRun_spec math options _ hids _ hsample
  have hhead := hrun.head
  rw [hfirst] at hhead
  cases hhead
  have hbefore := ((hrun.mem_iff first).mp (List.mem_of_head? hfirst)).2.1
  have hsample' : sample ∈ samples' := (h.within sample hbefore sample.before_refl).mpr hsample
  rw [rowsOf_eq hids' hsample', rowsOf_eq hids hsample, trailingRun_congr hround hids' hrun h]

/-- A row's run is healthy where only healthy windows are wanted. -/
theorem healthy_of_featureRow (hhealthy : options.healthyWindowsOnly = true)
    {run : List TelemetrySample} {sample : TelemetrySample} {row : FeatureRow}
    (h : featureRow math options run sample = some row) : ∀ item ∈ run, item.isHealthy = true := by
  unfold featureRow at h
  split_ifs at h with hincomplete hfaulty
  rw [hhealthy, Bool.true_and, Bool.not_eq_true', Bool.not_eq_false] at hfaulty
  exact List.all_eq_true.mp hfaulty

/-- **Causal features.** -/
theorem generateFeatures_causal (hround : Monotone math.round) : CausalRows math options := by
  refine ⟨?_, fun row hrow => exists_owner hrow, rowsOf_congr hround, ?_⟩
  · intro samples hids sample hsample hfinite
    have hrow := @featureRow_iff math options _ sample hfinite
    rw [rowsOf_eq hids hsample]
    by_cases husable : UsableRun options (trailingRun math options samples sample)
    · rw [if_pos husable, hrow.mpr ⟨husable, rfl⟩, Option.toList_some]
    · have hnone : featureRow math options (trailingRun math options samples sample) sample = none :=
        Option.eq_none_iff_forall_ne_some.mpr fun row h => husable (hrow.mp h).1
      rw [if_neg husable, hnone, Option.toList_none]
  · intro hhealthy samples hids row hrow
    obtain ⟨owner, howner, hid⟩ := exists_owner hrow
    have hfeature := (mem_generateFeatures_iff hids howner).mp ⟨hrow, hid⟩
    have hall := healthy_of_featureRow hhealthy hfeature
    obtain ⟨first, hrun⟩ := @trailingRun_spec math options _ hids _ howner
    constructor
    · have hkept : KeepsRun math options samples (samples.filter (·.isHealthy)) owner first
          (trailingRun math options samples owner) := by
        constructor
        · intro sample hafter hbefore
          rw [List.mem_filter]
          exact and_iff_left_of_imp fun hsample => hall sample ((hrun.mem_iff sample).mpr ⟨hsample, hbefore, hafter⟩)
        · exact .inr fun sample hsample _ => .inl (List.mem_filter.mp hsample).1
      have hids' : DistinctIds (samples.filter (·.isHealthy)) := hids.sublist (List.filter_sublist.map _)
      have hrows := rowsOf_congr hround hids hids' howner hrun.head hkept
      have hmem : row ∈ rowsOf math options (samples.filter (·.isHealthy)) owner := by
        rw [hrows, rowsOf, List.mem_filter, decide_eq_true_iff]
        exact ⟨hrow, hid⟩
      exact (List.mem_filter.mp hmem).1
    · intro sample hsample hsame
      obtain rfl := hids.eq howner hsample (by rw [← hid, hsame])
      exact hall

end Runs

/-! ### A sample before the run -/

/-- Healthy telemetry. -/
def steadySample (sampleId : Nat) (seconds : Int) (vibration : ℚ) : TelemetrySample where
  sampleId := sampleId
  timestamp := seconds * 1000000
  measurements :=
    ⟨some (.finite 40), some (.finite vibration), some (.finite 8), some (.finite 2), some (.finite 1)⟩
  quality := .good
  faultFlags := []

/-- Windows of two or three samples. -/
def smallWindows : WindowOptions := ⟨3, 2, .finite 30, false, by decide⟩

theorem generateFeatures_causal_small : Monotone demoMath.round ∧ CausalRows demoMath smallWindows :=
  ⟨monotone_id, generateFeatures_causal monotone_id⟩

/-- A sample that is added before a short run, without a gap, joins it. -/
theorem added_before_changes :
    DistinctIds [steadySample 1 0 4, steadySample 2 10 1, steadySample 3 20 1] ∧
      (trailingRun demoMath smallWindows [steadySample 2 10 1, steadySample 3 20 1]
        (steadySample 3 20 1)).head? = some (steadySample 2 10 1) ∧
      (steadySample 2 10 1).before (steadySample 1 0 4) = false ∧
      rowsOf demoMath smallWindows [steadySample 2 10 1, steadySample 3 20 1] (steadySample 3 20 1) ≠ [] ∧
      rowsOf demoMath smallWindows [steadySample 1 0 4, steadySample 2 10 1, steadySample 3 20 1]
        (steadySample 3 20 1) ≠
          rowsOf demoMath smallWindows [steadySample 2 10 1, steadySample 3 20 1] (steadySample 3 20 1) := by
  have hshort : Chronological [steadySample 2 10 1, steadySample 3 20 1] := by
    unfold Chronological
    decide
  have hlong : Chronological [steadySample 1 0 4, steadySample 2 10 1, steadySample 3 20 1] := by
    unfold Chronological
    decide
  have hupTo : samplesUpTo [steadySample 2 10 1, steadySample 3 20 1] (steadySample 3 20 1) =
      [steadySample 2 10 1, steadySample 3 20 1] := hshort.mergeSort
  have hrows : (rowsOf demoMath smallWindows [steadySample 2 10 1, steadySample 3 20 1]
      (steadySample 3 20 1)).map (·.values[5]?) = [some (.finite 1)] := by
    rw [rowsOf, generateFeatures, hshort.mergeSort]
    decide +kernel
  have hrows' : (rowsOf demoMath smallWindows
      [steadySample 1 0 4, steadySample 2 10 1, steadySample 3 20 1] (steadySample 3 20 1)).map
        (·.values[5]?) = [some (.finite 2)] := by
    rw [rowsOf, generateFeatures, hlong.mergeSort]
    decide +kernel
  refine ⟨?_, ?_, by decide, ?_, ?_⟩
  · unfold DistinctIds
    decide
  · rw [trailingRun, hupTo]
    decide +kernel
  · intro hempty
    rw [hempty] at hrows
    cases hrows
  · intro hsame
    rw [hsame, hrows] at hrows'
    exact absurd hrows' (by decide)

end IiotMonitoring.AnomalyWorker
