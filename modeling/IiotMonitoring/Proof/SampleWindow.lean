import IiotMonitoring.Firmware.SampleWindow
import IiotMonitoring.Lib.Means
import Mathlib.Analysis.Real.Sqrt

/-!
# What a window of samples says

A window after its samples is a function of the numbers that were accepted and of the statuses of the
other samples, channel by channel. The order of the samples does not show in it.
-/

namespace IiotMonitoring

/-! ### Statuses -/

theorem IiotSensorStatus.code_injective : Function.Injective IiotSensorStatus.code := by
  intro left right h
  rw [← ofCode_code left, h, ofCode_code]

/-- The status with the highest value, starting from a good one. -/
def worstStatus (statuses : List IiotSensorStatus) : IiotSensorStatus := statuses.foldl mergeStatus .good

theorem worstStatus_concat (statuses : List IiotSensorStatus) (status : IiotSensorStatus) :
    worstStatus (statuses ++ [status]) = mergeStatus (worstStatus statuses) status := List.foldl_concat ..

theorem mergeStatus_cases (current next : IiotSensorStatus) :
    (mergeStatus current next = next ∧ current.code ≤ next.code) ∨
      (mergeStatus current next = current ∧ next.code ≤ current.code) := by
  unfold mergeStatus
  split_ifs with hless
  · exact .inl ⟨rfl, UInt32.le_of_lt hless⟩
  · exact .inr ⟨rfl, UInt32.not_lt.mp hless⟩

theorem code_le_worstStatus {statuses : List IiotSensorStatus} {status : IiotSensorStatus}
    (h : status ∈ statuses) : status.code ≤ (worstStatus statuses).code := by
  induction statuses using List.reverseRecOn with
  | nil => cases h
  | append_singleton statuses last ih =>
      rw [worstStatus_concat]
      rcases mergeStatus_cases (worstStatus statuses) last with ⟨hmerged, hle⟩ | ⟨hmerged, hle⟩
      · rw [hmerged]
        rcases List.mem_append.mp h with hmem | hlast
        · exact UInt32.le_trans (ih hmem) hle
        · rw [List.mem_singleton.mp hlast]
          exact UInt32.le_refl _
      · rw [hmerged]
        rcases List.mem_append.mp h with hmem | hlast
        · exact ih hmem
        · rwa [List.mem_singleton.mp hlast]

theorem worstStatus_mem (statuses : List IiotSensorStatus) :
    worstStatus statuses = .good ∨ worstStatus statuses ∈ statuses := by
  induction statuses using List.reverseRecOn with
  | nil => exact .inl rfl
  | append_singleton statuses last ih =>
      rw [worstStatus_concat]
      rcases mergeStatus_cases (worstStatus statuses) last with ⟨hmerged, -⟩ | ⟨hmerged, -⟩
      · rw [hmerged]
        exact .inr List.mem_concat_self
      · rw [hmerged]
        exact ih.imp_right (List.mem_append_left _)

theorem worstStatus_mono {statuses statuses' : List IiotSensorStatus} (h : statuses ⊆ statuses') :
    (worstStatus statuses).code ≤ (worstStatus statuses').code := by
  rcases worstStatus_mem statuses with hgood | hmem
  · rw [hgood]
    exact UInt32.zero_le
  · exact code_le_worstStatus (h hmem)

theorem worstStatus_perm {statuses statuses' : List IiotSensorStatus} (h : statuses.Perm statuses') :
    worstStatus statuses = worstStatus statuses' :=
  IiotSensorStatus.code_injective
    (UInt32.le_antisymm (worstStatus_mono h.subset) (worstStatus_mono h.symm.subset))

/-! ### Readings -/

section Readings

variable {K : Type}

def numberOf? : Except IiotSensorStatus K → Option K
  | .ok number => some number
  | .error _ => none

def statusOf? : Except IiotSensorStatus K → Option IiotSensorStatus
  | .ok _ => none
  | .error status => some status

/-- The numbers that are accepted. -/
def acceptedNumbers (readings : List (Except IiotSensorStatus K)) : List K := readings.filterMap numberOf?

/-- The statuses of the samples that are not. -/
def rejectedStatuses (readings : List (Except IiotSensorStatus K)) : List IiotSensorStatus :=
  readings.filterMap statusOf?

variable {readings : List (Except IiotSensorStatus K)}

theorem mem_acceptedNumbers {number : K} : number ∈ acceptedNumbers readings ↔ .ok number ∈ readings := by
  unfold acceptedNumbers
  rw [List.mem_filterMap]
  constructor
  · rintro ⟨reading, hmem, hnumber⟩
    cases reading with
    | ok number' =>
        cases hnumber
        exact hmem
    | error status => cases hnumber
  · exact fun h => ⟨_, h, rfl⟩

theorem mem_rejectedStatuses {status : IiotSensorStatus} :
    status ∈ rejectedStatuses readings ↔ .error status ∈ readings := by
  unfold rejectedStatuses
  rw [List.mem_filterMap]
  constructor
  · rintro ⟨reading, hmem, hstatus⟩
    cases reading with
    | ok number => cases hstatus
    | error status' =>
        cases hstatus
        exact hmem
  · exact fun h => ⟨_, h, rfl⟩

theorem acceptedNumbers_concat_ok (readings : List (Except IiotSensorStatus K)) (number : K) :
    acceptedNumbers (readings ++ [.ok number]) = acceptedNumbers readings ++ [number] :=
  List.filterMap_append ..

theorem acceptedNumbers_concat_error (readings : List (Except IiotSensorStatus K))
    (status : IiotSensorStatus) :
    acceptedNumbers (readings ++ [.error status]) = acceptedNumbers readings :=
  (List.filterMap_append ..).trans (List.append_nil _)

theorem rejectedStatuses_concat_ok (readings : List (Except IiotSensorStatus K)) (number : K) :
    rejectedStatuses (readings ++ [.ok number]) = rejectedStatuses readings :=
  (List.filterMap_append ..).trans (List.append_nil _)

theorem rejectedStatuses_concat_error (readings : List (Except IiotSensorStatus K))
    (status : IiotSensorStatus) :
    rejectedStatuses (readings ++ [.error status]) = rejectedStatuses readings ++ [status] :=
  List.filterMap_append ..

theorem length_acceptedNumbers_le (readings : List (Except IiotSensorStatus K)) :
    (acceptedNumbers readings).length ≤ readings.length := List.length_filterMap_le _ _

/-- All are accepted, or some status is rejected. -/
theorem length_acceptedNumbers_eq (h : rejectedStatuses readings = []) :
    (acceptedNumbers readings).length = readings.length := by
  induction readings with
  | nil => rfl
  | cons reading rest ih =>
      cases reading with
      | ok number => exact congrArg (· + 1) (ih h)
      | error status => cases h

end Readings

theorem count_concat {K : Type} (numbers : List K) (number : K) :
    UInt16.ofNat (numbers ++ [number]).length = UInt16.ofNat numbers.length + 1 := by
  rw [List.length_append, List.length_singleton, UInt16.ofNat_add]
  rfl

/-! ### The window after its samples -/

section Window

variable {K : Type} [Field K] [LinearOrder K]

/-- The window that the readings make, whatever their order. -/
def windowOf (lowest : K) (expectedSamples : UInt16) (samples : List (IiotSample K)) :
    IiotSampleWindow K :=
  let temperatures := samples.map IiotSample.temperature
  let currents := samples.map (IiotSample.current lowest)
  let vibrations := samples.map IiotSample.vibration
  { temperatureSum := (acceptedNumbers temperatures).sum
    currentSum := (acceptedNumbers currents).sum
    vibrationSquareSum := squareSum (acceptedNumbers vibrations)
    vibrationPeakMps2 := peakOf (acceptedNumbers vibrations)
    temperatureValid := UInt16.ofNat (acceptedNumbers temperatures).length
    currentValid := UInt16.ofNat (acceptedNumbers currents).length
    vibrationValid := UInt16.ofNat (acceptedNumbers vibrations).length
    expectedSamples := if expectedSamples = 0 then 1 else expectedSamples
    temperatureStatus := worstStatus (rejectedStatuses temperatures)
    currentStatus := worstStatus (rejectedStatuses currents)
    vibrationStatus := worstStatus (rejectedStatuses vibrations) }

theorem windowOf_concat (lowest : K) (expectedSamples : UInt16) (samples : List (IiotSample K))
    (sample : IiotSample K) :
    windowOf lowest expectedSamples (samples ++ [sample]) =
      (windowOf lowest expectedSamples samples).add lowest sample := by
  unfold windowOf IiotSampleWindow.add
  simp only [List.map_append, List.map_singleton]
  cases sample.temperature <;> cases sample.current lowest <;> cases sample.vibration <;>
    simp only [acceptedNumbers_concat_ok, acceptedNumbers_concat_error, rejectedStatuses_concat_ok,
      rejectedStatuses_concat_error, IiotSampleWindow.addTemperature, IiotSampleWindow.addCurrent,
      IiotSampleWindow.addVibration, List.sum_append, List.sum_singleton, squareSum_concat,
      peakOf_concat, worstStatus_concat, count_concat]
  all_goals rfl

theorem after_eq (lowest : K) (expectedSamples : UInt16) (samples : List (IiotSample K)) :
    IiotSampleWindow.after lowest expectedSamples samples = windowOf lowest expectedSamples samples := by
  induction samples using List.reverseRecOn with
  | nil => rfl
  | append_singleton samples sample ih =>
      rw [windowOf_concat, ← ih]
      exact List.foldl_concat ..

variable [IsStrictOrderedRing K]

theorem windowOf_perm (lowest : K) (expectedSamples : UInt16) {samples samples' : List (IiotSample K)}
    (h : samples.Perm samples') :
    windowOf lowest expectedSamples samples = windowOf lowest expectedSamples samples' := by
  have haccepted : ∀ channel : IiotSample K → Except IiotSensorStatus K,
      (acceptedNumbers (samples.map channel)).Perm (acceptedNumbers (samples'.map channel)) :=
    fun channel => (h.map channel).filterMap _
  have hrejected : ∀ channel : IiotSample K → Except IiotSensorStatus K,
      worstStatus (rejectedStatuses (samples.map channel)) =
        worstStatus (rejectedStatuses (samples'.map channel)) :=
    fun channel => worstStatus_perm ((h.map channel).filterMap _)
  unfold windowOf
  simp only [(haccepted _).sum_eq, (haccepted _).length_eq, squareSum_perm (haccepted _),
    peakOf_perm (haccepted _), hrejected]

end Window

/-! ### What is made of a channel -/

section Channels

variable {K : Type}

/-- The quality of a channel of `count` samples tells of its readings. -/
structure QualityOf (count : Nat) (readings : List (Except IiotSensorStatus K))
    (quality : IiotSampleQuality) : Prop where
  good : quality.status = .good ↔ ∀ reading ∈ readings, ∃ number, reading = .ok number
  worst : quality.status ≠ .good → .error quality.status ∈ readings ∧
    ∀ status, .error status ∈ readings → status.code ≤ quality.status.code
  valid : quality.validSamples.toNat = (acceptedNumbers readings).length
  valid_le : quality.validSamples.toNat ≤ count
  expected : quality.expectedSamples.toNat = count

theorem qualityOf_readings {count : Nat} (hcount : count < 65536)
    {readings : List (Except IiotSensorStatus K)} (hlength : readings.length = count)
    (hbad : .error .good ∉ readings) :
    QualityOf count readings (sampleQuality (worstStatus (rejectedStatuses readings))
      (UInt16.ofNat (acceptedNumbers readings).length) (UInt16.ofNat count)) := by
  have hle := length_acceptedNumbers_le readings
  have hsmall : (acceptedNumbers readings).length < 65536 := by omega
  have hvalid : (UInt16.ofNat (acceptedNumbers readings).length).toNat =
      (acceptedNumbers readings).length := UInt16.toNat_ofNat_of_lt' hsmall
  have hexpected : (UInt16.ofNat count).toNat = count := UInt16.toNat_ofNat_of_lt' hcount
  by_cases hnone : rejectedStatuses readings = []
  · have hall := length_acceptedNumbers_eq hnone
    have hstatus : (sampleQuality (worstStatus (rejectedStatuses readings))
        (UInt16.ofNat (acceptedNumbers readings).length) (UInt16.ofNat count)).status = .good := by
      unfold sampleQuality
      rw [hnone, hall, hlength]
      exact if_neg fun h => absurd h.2 (UInt16.lt_irrefl _)
    refine ⟨iff_of_true hstatus ?_, fun h => absurd hstatus h, hvalid, hvalid.trans_le (by omega), hexpected⟩
    intro reading hreading
    cases reading with
    | ok number => exact ⟨number, rfl⟩
    | error status =>
        have hmem := mem_rejectedStatuses.mpr hreading
        rw [hnone] at hmem
        cases hmem
  · obtain ⟨first, hfirst⟩ := List.exists_mem_of_ne_nil _ hnone
    have hworst : worstStatus (rejectedStatuses readings) ∈ rejectedStatuses readings := by
      apply (worstStatus_mem _).resolve_left
      intro hgood
      have hle := code_le_worstStatus hfirst
      rw [hgood] at hle
      have hzero : first.code = IiotSensorStatus.good.code := UInt32.le_antisymm hle UInt32.zero_le
      rw [IiotSensorStatus.code_injective hzero] at hfirst
      exact hbad (mem_rejectedStatuses.mp hfirst)
    have hne : worstStatus (rejectedStatuses readings) ≠ .good := by
      intro hgood
      rw [hgood] at hworst
      exact hbad (mem_rejectedStatuses.mp hworst)
    have hstatus : (sampleQuality (worstStatus (rejectedStatuses readings))
        (UInt16.ofNat (acceptedNumbers readings).length) (UInt16.ofNat count)).status =
          worstStatus (rejectedStatuses readings) := if_neg fun h => hne h.1
    refine ⟨iff_of_false (by rwa [hstatus]) ?_, ?_, hvalid, hvalid.trans_le (by omega), hexpected⟩
    · intro hall
      obtain ⟨number, hnumber⟩ := hall _ (mem_rejectedStatuses.mp hworst)
      cases hnumber
    · intro _
      rw [hstatus]
      exact ⟨mem_rejectedStatuses.mp hworst, fun status hmem =>
        code_le_worstStatus (mem_rejectedStatuses.mpr hmem)⟩

variable [Field K] [LinearOrder K]

/-- The mean of the numbers, which lies between two of them. -/
structure MeanOf (numbers : List K) (low high : K) (mean : FloatNumber K) : Prop where
  none : numbers = [] → mean = .nan
  some : numbers ≠ [] → ∃ value, mean = .finite value ∧ (∃ number ∈ numbers, number ≤ value) ∧
    (∃ number ∈ numbers, value ≤ number) ∧ low ≤ value ∧ value ≤ high

variable [IsStrictOrderedRing K]

theorem meanOf_quotient {numbers : List K} {low high : K} (hcount : numbers.length < 65536)
    (hrange : ∀ number ∈ numbers, low ≤ number ∧ number ≤ high) :
    MeanOf numbers low high (quotient numbers.sum (UInt16.ofNat numbers.length)) := by
  have hvalid : (UInt16.ofNat numbers.length).toNat = numbers.length := UInt16.toNat_ofNat_of_lt' hcount
  constructor
  · rintro rfl
    rfl
  · intro h
    have hpositive : 0 < UInt16.ofNat numbers.length := by
      rw [UInt16.lt_iff_toNat_lt, hvalid, UInt16.toNat_zero]
      exact List.length_pos_iff.mpr h
    unfold quotient
    rw [if_pos hpositive, hvalid]
    refine ⟨numbers.sum / numbers.length, rfl, exists_le_mean h, exists_mean_le h, ?_, ?_⟩
    · exact le_mean h fun number hmem => (hrange number hmem).1
    · exact mean_le h fun number hmem => (hrange number hmem).2

/-- `sqrtf` in exact arithmetic. -/
structure ExactRoot (sqrtf : K → K) : Prop where
  nonneg : ∀ square, 0 ≤ square → 0 ≤ sqrtf square
  square : ∀ square, 0 ≤ square → sqrtf square * sqrtf square = square

/-- The vibration of `count` samples with these numbers among them. -/
structure VibrationOf (sqrtf : K → K) (count : Nat) (numbers : List K) (result : WindowMeasurements K) :
    Prop where
  none : numbers = [] → result.vibrationRmsMps2 = .nan ∧ result.vibrationPeakMps2 = .nan ∧
    result.vibrationCrestFactor = .nan
  some : numbers ≠ [] → ∃ rms peak, result.vibrationRmsMps2 = .finite rms ∧
    result.vibrationPeakMps2 = .finite peak ∧ 0 ≤ rms ∧ rms ≤ peak ∧
      peak * peak ≤ result.vibrationQuality.validSamples.toNat * (rms * rms)
  crest : result.vibrationCrestFactor = .nan ∨ ∃ crest, result.vibrationCrestFactor = .finite crest ∧
    1 ≤ crest ∧ crest ≤ sqrtf count ∧ sqrtf count ≤ 100

/-- The numbers of the root mean square, the peak and the crest factor. -/
theorem rms_bounds {sqrtf : K → K} (hroot : ExactRoot sqrtf) {numbers : List K} (h : numbers ≠ []) :
    0 ≤ sqrtf (squareSum numbers / numbers.length) ∧
      sqrtf (squareSum numbers / numbers.length) ≤ peakOf numbers ∧
        peakOf numbers * peakOf numbers ≤ numbers.length *
          (sqrtf (squareSum numbers / numbers.length) * sqrtf (squareSum numbers / numbers.length)) := by
  have hlength := @length_pos_cast K _ _ _ numbers h
  have hmean : 0 ≤ squareSum numbers / numbers.length := div_nonneg (squareSum_nonneg numbers) hlength.le
  have hsquare := hroot.square _ hmean
  refine ⟨hroot.nonneg _ hmean, ?_, ?_⟩
  · apply abs_le_of_sq_le_sq' _ (peakOf_nonneg numbers) |>.2
    rw [sq, sq, hsquare, div_le_iff₀ hlength, mul_comm]
    exact squareSum_le numbers
  · rw [hsquare, mul_div_cancel₀ _ hlength.ne']
    exact peakOf_sq_le h

theorem crest_bounds {sqrtf : K → K} (hroot : ExactRoot sqrtf) {count : Nat} (hcount : count ≤ 6000)
    {valid rms peak : K} (hvalid : valid ≤ count) (hrms : 0 < rms) (hpeak : rms ≤ peak)
    (hsquare : peak * peak ≤ valid * (rms * rms)) :
    1 ≤ peak / rms ∧ peak / rms ≤ sqrtf count ∧ sqrtf count ≤ 100 := by
  have hnonneg : (0 : K) ≤ count := Nat.cast_nonneg count
  have hroot_nonneg := hroot.nonneg _ hnonneg
  have hroot_square := hroot.square _ hnonneg
  have hlarge : (count : K) ≤ 6000 := by exact_mod_cast hcount
  refine ⟨(one_le_div hrms).mpr hpeak, ?_, ?_⟩
  · apply abs_le_of_sq_le_sq' _ hroot_nonneg |>.2
    rw [sq, sq, hroot_square, div_mul_div_comm, div_le_iff₀ (mul_pos hrms hrms)]
    exact hsquare.trans (mul_le_mul_of_nonneg_right hvalid (mul_pos hrms hrms).le)
  · apply abs_le_of_sq_le_sq' _ (by norm_num) |>.2
    rw [sq, hroot_square]
    linarith

end Channels

/-! ### The result of a window -/

section Result

variable {K : Type}

theorem readSample_ne_good (inRange : K → Bool) (status : IiotSensorStatus) (value : FloatNumber K) :
    readSample inRange status value ≠ .error .good := by
  have hstatus : (if status = .good then IiotSensorStatus.outOfRange else status) ≠ .good := by
    split_ifs with hgood
    · decide
    · exact hgood
  intro h
  cases value with
  | finite number =>
      rw [readSample] at h
      by_cases haccepted : (status = .good && inRange number) = true
      · rw [if_pos haccepted] at h
        cases h
      · rw [if_neg haccepted] at h
        exact hstatus (Except.error.inj h)
  | infinity negative => exact hstatus (Except.error.inj h)
  | nan => exact hstatus (Except.error.inj h)

theorem inRange_of_readSample {inRange : K → Bool} {status : IiotSensorStatus} {value : FloatNumber K}
    {number : K} (h : readSample inRange status value = .ok number) : inRange number = true := by
  cases value with
  | finite number' =>
      rw [readSample] at h
      by_cases haccepted : (status = .good && inRange number') = true
      · rw [if_pos haccepted] at h
        cases h
        exact (Bool.and_eq_true_iff.mp haccepted).2
      · rw [if_neg haccepted] at h
        cases h
  | infinity negative => cases h
  | nan => cases h

variable [Field K] [LinearOrder K]

/-- `iiot_sample_window_finish` after the samples of a window for `count` of them. -/
def windowResult (lowest : K) (sqrtf : K → K) (count : Nat) (samples : List (IiotSample K)) :
    WindowMeasurements K :=
  (IiotSampleWindow.after lowest (UInt16.ofNat count) samples).finish sqrtf

/-- Everything that is said of the window of these samples. -/
structure SoundWindow (lowest : K) (sqrtf : K → K) (count : Nat) (samples : List (IiotSample K)) : Prop
    where
  orderFree : ∀ samples', samples.Perm samples' →
    windowResult lowest sqrtf count samples' = windowResult lowest sqrtf count samples
  temperatureQuality : QualityOf count (samples.map (·.temperature))
    (windowResult lowest sqrtf count samples).temperatureQuality
  currentQuality : QualityOf count (samples.map (·.current lowest))
    (windowResult lowest sqrtf count samples).currentQuality
  vibrationQuality : QualityOf count (samples.map (·.vibration))
    (windowResult lowest sqrtf count samples).vibrationQuality
  temperature : MeanOf (acceptedNumbers (samples.map (·.temperature))) (-80) 200
    (windowResult lowest sqrtf count samples).temperatureC
  current : MeanOf (acceptedNumbers (samples.map (·.current lowest))) lowest 10
    (windowResult lowest sqrtf count samples).currentA
  vibration : VibrationOf sqrtf count (acceptedNumbers (samples.map (·.vibration)))
    (windowResult lowest sqrtf count samples)

theorem windowResult_eq (lowest : K) (sqrtf : K → K) {count : Nat} (hpos : 1 ≤ count) (hcount : count < 65536)
    (samples : List (IiotSample K)) :
    windowResult lowest sqrtf count samples =
      { windowOf lowest (UInt16.ofNat count) samples with expectedSamples := UInt16.ofNat count }.finish
        sqrtf := by
  have hne : UInt16.ofNat count ≠ 0 := by
    intro hzero
    have hnat := congrArg UInt16.toNat hzero
    rw [UInt16.toNat_ofNat_of_lt' hcount, UInt16.toNat_zero] at hnat
    omega
  rw [windowResult, after_eq]
  unfold windowOf
  rw [if_neg hne]

variable [IsStrictOrderedRing K]

theorem vibrationOf_window {lowest : K} {sqrtf : K → K} (hroot : ExactRoot sqrtf) {count : Nat} (hpos : 1 ≤ count)
    (hcount : count ≤ 6000) {samples : List (IiotSample K)} (hlength : samples.length = count) :
    VibrationOf sqrtf count (acceptedNumbers (samples.map (·.vibration)))
      (windowResult lowest sqrtf count samples) := by
  have hle := length_acceptedNumbers_le (samples.map IiotSample.vibration)
  rw [List.length_map, hlength] at hle
  rw [windowResult_eq lowest sqrtf hpos (by omega)]
  generalize hnumbers : acceptedNumbers (samples.map IiotSample.vibration) = numbers at hle
  have hsmall : numbers.length < 65536 := by omega
  have hvalid : (UInt16.ofNat numbers.length).toNat = numbers.length := UInt16.toNat_ofNat_of_lt' hsmall
  unfold windowOf IiotSampleWindow.finish
  simp only [hnumbers]
  by_cases hempty : numbers = []
  · subst hempty
    exact ⟨fun _ => ⟨rfl, rfl, rfl⟩, fun h => absurd rfl h, .inl rfl⟩
  · have hsome : 0 < UInt16.ofNat numbers.length := by
      rw [UInt16.lt_iff_toNat_lt, hvalid, UInt16.toNat_zero]
      exact List.length_pos_iff.mpr hempty
    obtain ⟨hnonneg, hpeak, hsquare⟩ := rms_bounds hroot hempty
    rw [if_pos hsome, if_pos hsome, hvalid]
    refine ⟨fun h => absurd h hempty, fun _ => ⟨_, _, rfl, rfl, hnonneg, hpeak, ?_⟩, ?_⟩
    · change _ ≤ ((UInt16.ofNat numbers.length).toNat : K) * _
      rwa [hvalid]
    · unfold crestFactor
      dsimp only
      split_ifs with hrms
      · refine .inr ⟨_, rfl, crest_bounds hroot hcount ?_ (lt_trans (by norm_num) hrms) hpeak hsquare⟩
        exact_mod_cast hle
      · exact .inl rfl

/-- **A window of samples.** Whatever the lower limit of a current is, its mean is not below it. -/
theorem sampleWindow_sound (lowest : K) {sqrtf : K → K} (hroot : ExactRoot sqrtf) {count : Nat}
    (hpos : 1 ≤ count) (hcount : count ≤ 6000) {samples : List (IiotSample K)} (hlength : samples.length = count) :
    SoundWindow lowest sqrtf count samples := by
  have hchannel : ∀ channel : IiotSample K → Except IiotSensorStatus K,
      (acceptedNumbers (samples.map channel)).length < 65536 := by
    intro channel
    have hle := length_acceptedNumbers_le (samples.map channel)
    rw [List.length_map, hlength] at hle
    omega
  have hquality : ∀ channel : IiotSample K → Except IiotSensorStatus K,
      (∀ sample, channel sample ≠ .error .good) → QualityOf count (samples.map channel)
        (sampleQuality (worstStatus (rejectedStatuses (samples.map channel)))
          (UInt16.ofNat (acceptedNumbers (samples.map channel)).length) (UInt16.ofNat count)) := by
    intro channel hgood
    apply qualityOf_readings (by omega) (by rw [List.length_map, hlength])
    intro hmem
    obtain ⟨sample, -, hsample⟩ := List.mem_map.mp hmem
    exact hgood sample hsample
  constructor
  · intro samples' hperm
    rw [windowResult, windowResult, after_eq, after_eq, windowOf_perm _ _ hperm]
  · rw [windowResult_eq lowest sqrtf hpos (by omega)]
    exact hquality _ fun sample => readSample_ne_good _ _ _
  · rw [windowResult_eq lowest sqrtf hpos (by omega)]
    exact hquality _ fun sample => readSample_ne_good _ _ _
  · rw [windowResult_eq lowest sqrtf hpos (by omega)]
    exact hquality _ fun sample => readSample_ne_good _ _ _
  · rw [windowResult_eq lowest sqrtf hpos (by omega)]
    apply meanOf_quotient (hchannel _)
    intro number hmem
    obtain ⟨sample, -, hsample⟩ := List.mem_map.mp (mem_acceptedNumbers.mp hmem)
    simpa using inRange_of_readSample hsample
  · rw [windowResult_eq lowest sqrtf hpos (by omega)]
    apply meanOf_quotient (hchannel _)
    intro number hmem
    obtain ⟨sample, -, hsample⟩ := List.mem_map.mp (mem_acceptedNumbers.mp hmem)
    have hrange := inRange_of_readSample hsample
    rwa [Bool.and_eq_true, decide_eq_true_iff, decide_eq_true_iff] at hrange
  · exact vibrationOf_window hroot hpos hcount hlength

end Result

theorem exactRoot_real : ExactRoot Real.sqrt :=
  ⟨fun square _ => Real.sqrt_nonneg square, fun _ hsquare => Real.mul_self_sqrt hsquare⟩

/-- Two samples, of which the second has no current. -/
theorem sampleWindow_sound_pair : SoundWindow (-(1 / 10)) Real.sqrt 2
    [⟨.finite 40, .good, .finite 1, .good, .finite 3, .good⟩,
      ⟨.finite 42, .good, .nan, .driverError, .finite (-4), .good⟩] :=
  sampleWindow_sound _ exactRoot_real (by decide) (by decide) rfl

end IiotMonitoring
