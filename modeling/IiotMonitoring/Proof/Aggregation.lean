import IiotMonitoring.Firmware.Aggregation
import IiotMonitoring.Proof.ConfigLoad
import IiotMonitoring.Proof.SampleWindow

/-!
# Windows in a stream of samples

The windows that the aggregation fills are the parts of the stream with the expected number of samples,
one after the other.
-/

namespace IiotMonitoring

/-! ### The expected number of samples -/

/-- A valid configuration has from 1 to 6000 samples in a window. -/
theorem IiotConfig.expectedSamples_range {config : IiotConfig} (h : iiotConfigValidate config = true) :
    1 ≤ config.expectedSamples.toNat ∧ config.expectedSamples.toNat ≤ 6000 := by
  obtain ⟨-, -, -, -, ⟨hlow, -, hle, hhigh, -⟩, -⟩ := (iiotConfigValidate_iff config).mp h
  rw [UInt16.le_iff_toNat_le] at hlow hle hhigh
  unfold IiotConfig.expectedSamples
  rw [UInt16.toNat_div]
  have hten : 10 ≤ config.sampleIntervalMs.toNat := hlow
  have hminute : config.telemetryIntervalMs.toNat ≤ 60000 := hhigh
  constructor
  · exact Nat.div_pos hle (by omega)
  · calc config.telemetryIntervalMs.toNat / config.sampleIntervalMs.toNat
        ≤ config.telemetryIntervalMs.toNat / 10 := Nat.div_le_div_left hten (by decide)
      _ ≤ 60000 / 10 := Nat.div_le_div_right hminute

/-! ### The stream -/

namespace Aggregation

variable {K : Type} [Field K] [LinearOrder K] {sqrtf : K → K} {expected : UInt16}

/-- The task with a part of its window. -/
def filling (expected : UInt16) (samples : List (IiotSample K)) : Aggregation K :=
  ⟨.after lowestCurrent expected samples, UInt16.ofNat samples.length⟩

theorem filling_concat (expected : UInt16) (samples : List (IiotSample K)) (sample : IiotSample K) :
    filling expected (samples ++ [sample]) =
      ⟨(filling expected samples).window.add lowestCurrent sample, (filling expected samples).samples + 1⟩ := by
  unfold filling IiotSampleWindow.after
  rw [List.foldl_concat, count_concat]

theorem filling_nil (expected : UInt16) : filling expected ([] : List (IiotSample K)) = start expected := rfl

/-- A sample is added, and the window begins again when it is full. -/
theorem receive_filling {samples : List (IiotSample K)} (sample : IiotSample K)
    (h : samples.length + 1 ≤ expected.toNat) :
    (filling expected samples).receive sqrtf expected sample =
      if samples.length + 1 < expected.toNat then (none, filling expected (samples ++ [sample]))
      else (some ((IiotSampleWindow.after lowestCurrent expected (samples ++ [sample])).finish sqrtf), start expected) := by
  have hbound := expected.toNat_lt
  have hcount : (UInt16.ofNat samples.length + 1).toNat = samples.length + 1 := by
    rw [← count_concat samples sample, List.length_append, List.length_singleton]
    exact UInt16.toNat_ofNat_of_lt' (show samples.length + 1 < 65536 by omega)
  have hless : UInt16.ofNat samples.length + 1 < expected ↔ samples.length + 1 < expected.toNat := by
    rw [UInt16.lt_iff_toNat_lt, hcount]
  have hwindow : (filling expected samples).window.add lowestCurrent sample =
      IiotSampleWindow.after lowestCurrent expected (samples ++ [sample]) := (List.foldl_concat ..).symm
  unfold receive
  rw [filling_concat, hwindow]
  by_cases hroom : samples.length + 1 < expected.toNat
  · rw [if_pos hroom]
    exact if_pos (hless.mpr hroom)
  · rw [if_neg hroom]
    exact if_neg (mt hless.mp hroom)

/-- Too few samples fill no window. -/
theorem measurements_short {samples rest : List (IiotSample K)}
    (h : samples.length + rest.length < expected.toNat) :
    measurements sqrtf expected (filling expected samples) rest = [] := by
  induction rest generalizing samples with
  | nil => rfl
  | cons sample rest ih =>
      rw [List.length_cons] at h
      rw [measurements, receive_filling sample (by omega), if_pos (by omega)]
      apply ih
      rw [List.length_append, List.length_singleton]
      omega

theorem measurements_fill {samples : List (IiotSample K)} (more rest : List (IiotSample K))
    (hmore : more ≠ []) (h : samples.length + more.length = expected.toNat) :
    measurements sqrtf expected (filling expected samples) (more ++ rest) =
      (IiotSampleWindow.after lowestCurrent expected (samples ++ more)).finish sqrtf ::
        measurements sqrtf expected (start expected) rest := by
  induction more generalizing samples with
  | nil => exact absurd rfl hmore
  | cons sample more ih =>
      rw [List.length_cons] at h
      rw [List.cons_append, measurements, receive_filling sample (by omega)]
      cases more with
      | nil =>
          rw [if_neg (by rw [List.length_nil] at h; omega)]
          rfl
      | cons next more =>
          rw [List.length_cons] at h
          have hnext := @ih (samples ++ [sample]) (List.cons_ne_nil next more) (by
            rw [List.length_append, List.length_singleton, List.length_cons]
            omega)
          rw [← List.append_cons] at hnext
          rw [if_pos (by omega)]
          exact hnext

/-- The first window of a stream, if it is long enough for one. -/
theorem measurements_eq (hpos : 1 ≤ expected.toNat) (stream : List (IiotSample K)) :
    measurements sqrtf expected (start expected) stream =
      if stream.length < expected.toNat then []
      else windowResult lowestCurrent sqrtf expected.toNat (stream.take expected.toNat) ::
        measurements sqrtf expected (start expected) (stream.drop expected.toNat) := by
  split_ifs with hshort
  · exact @measurements_short K _ _ sqrtf expected [] stream (by simpa using hshort)
  · have hlength : (stream.take expected.toNat).length = expected.toNat := by
      rw [List.length_take]
      omega
    have hfirst := @measurements_fill K _ _ sqrtf expected [] (stream.take expected.toNat)
      (stream.drop expected.toNat) (List.ne_nil_of_length_pos (by omega)) (by simpa using hlength)
    rw [filling_nil, List.take_append_drop, List.nil_append] at hfirst
    rw [hfirst, windowResult, UInt16.ofNat_toNat]

theorem measurements_append (hpos : 1 ≤ expected.toNat) {samples : List (IiotSample K)}
    (hlength : samples.length = expected.toNat) (rest : List (IiotSample K)) :
    measurements sqrtf expected (start expected) (samples ++ rest) =
      windowResult lowestCurrent sqrtf expected.toNat samples ::
        measurements sqrtf expected (start expected) rest := by
  rw [measurements_eq hpos, if_neg (by rw [List.length_append]; omega), List.take_left' hlength,
    List.drop_left' hlength]

/-- The `index`-th window of a stream. -/
def windowSamples (expected : UInt16) (stream : List (IiotSample K)) (index : Nat) :
    List (IiotSample K) :=
  (stream.drop (index * expected.toNat)).take expected.toNat

/-- Every window that is filled holds the next samples of the stream. -/
theorem measurements_get (hpos : 1 ≤ expected.toNat) {stream : List (IiotSample K)} {index : Nat}
    {result : WindowMeasurements K}
    (h : (measurements sqrtf expected (start expected) stream)[index]? = some result) :
    (windowSamples expected stream index).length = expected.toNat ∧
      result = windowResult lowestCurrent sqrtf expected.toNat (windowSamples expected stream index) := by
  induction index generalizing stream with
  | zero =>
      rw [measurements_eq hpos] at h
      split_ifs at h with hshort
      · cases h
      · rw [List.getElem?_cons_zero, Option.some_inj] at h
        unfold windowSamples
        rw [Nat.zero_mul, List.drop_zero, List.length_take]
        exact ⟨by omega, h.symm⟩
  | succ index ih =>
      rw [measurements_eq hpos] at h
      split_ifs at h with hshort
      · cases h
      · rw [List.getElem?_cons_succ] at h
        have hrest := ih h
        unfold windowSamples at hrest ⊢
        rwa [List.drop_drop, Nat.add_comm, ← Nat.succ_mul] at hrest

end Aggregation

end IiotMonitoring
