import IiotMonitoring.Server.Ingestion
import Mathlib.Data.List.Sort

/-!
# Causal features

`features.py`. A sample's regime, which only the evaluation reads, is left out. Times are in
microseconds.
-/

namespace IiotMonitoring.AnomalyWorker

/-- A Python float. -/
abbrev PyFloat : Type := FloatNumber ℚ

/-- What Python's floats, NumPy and `statistics` compute for the worker, and how floats print. -/
structure FloatMath where
  round : ℚ → ℚ
  add : PyFloat → PyFloat → PyFloat
  sub : PyFloat → PyFloat → PyFloat
  mul : PyFloat → PyFloat → PyFloat
  div : PyFloat → PyFloat → PyFloat
  /-- `mean`, `std` and `max` of an array, and `numpy.dot`. -/
  mean : List PyFloat → PyFloat
  std : List PyFloat → PyFloat
  maximum : List PyFloat → PyFloat
  dot : List PyFloat → List PyFloat → PyFloat
  /-- `statistics.pstdev`. -/
  pstdev : List PyFloat → PyFloat
  /-- The formats `.3g`, `g` and `.1f`. -/
  threeDigits : PyFloat → String
  general : PyFloat → String
  oneDecimal : PyFloat → String

/-- A literal. -/
def FloatMath.literal (math : FloatMath) (value : ℚ) : PyFloat := .finite (math.round value)

/-- `total_seconds` of a difference of times. -/
def FloatMath.totalSeconds (math : FloatMath) (elapsed : Int) : PyFloat :=
  math.literal (elapsed / 1000000)

structure TelemetrySample where
  sampleId : Nat
  timestamp : Int
  measurements : Measurements
  quality : Quality
  faultFlags : List String
  deriving DecidableEq

namespace TelemetrySample

variable (sample : TelemetrySample)

def measurementsAreFinite : Bool :=
  [sample.measurements.temperatureC, sample.measurements.vibrationRmsMps2,
    sample.measurements.vibrationPeakMps2, sample.measurements.vibrationCrestFactor,
    sample.measurements.currentA].all fun value => value.any FloatNumber.isFinite

def isHealthy : Bool :=
  sample.quality = .good && sample.faultFlags.isEmpty && sample.measurementsAreFinite

/-- The key of the sort. -/
def before (left right : TelemetrySample) : Bool :=
  left.timestamp < right.timestamp ||
    (left.timestamp = right.timestamp && left.sampleId ≤ right.sampleId)

end TelemetrySample

structure FeatureRow where
  sampleId : Nat
  timestamp : Int
  values : List PyFloat
  deriving DecidableEq

/-- `FEATURE_SCHEMA_VERSION`. -/
def featureSchemaVersion : Int := 1

/-- `FEATURE_NAMES`. -/
def featureNames : List String :=
  ["temperature_level_c", "temperature_slope_c_per_min", "temperature_std_c", "current_mean_a",
    "current_std_a", "vibration_rms_mean_mps2", "vibration_peak_max_mps2", "vibration_crest_mean",
    "vibration_to_current_ratio"]

/-- The keyword arguments of `generate_features`, which raises `ValueError` for other sizes. -/
structure WindowOptions where
  windowSize : Nat
  minimumWindow : Nat
  maximumGapS : PyFloat
  healthyWindowsOnly : Bool
  sizes : minimumWindow ≤ windowSize ∧ 2 ≤ minimumWindow

/-- Their defaults. -/
def WindowOptions.default : WindowOptions := ⟨12, 6, .finite 30, false, by decide⟩

section Generate

variable (math : FloatMath) (options : WindowOptions)

def slopePerMinute (times values : List PyFloat) : PyFloat :=
  let centered := times.map fun time => math.sub time (math.mean times)
  let denominator := math.dot centered centered
  if denominator.atMost 0 then
    .finite 0
  else
    math.mul
      (math.div (math.dot centered (values.map fun value => math.sub value (math.mean values)))
        denominator)
      (.finite 60)

/-- A column of a segment whose measurements are all there. -/
def column (segment : List TelemetrySample) (field : Measurements → Option PyFloat) : List PyFloat :=
  segment.filterMap fun sample => field sample.measurements

/-- The tuple `values` of a segment. -/
def featureValues (segment : List TelemetrySample) : List PyFloat :=
  let firstTime := (segment.head?.map (·.timestamp)).getD 0
  let times := segment.map fun sample => math.totalSeconds (sample.timestamp - firstTime)
  let temperature := column segment (·.temperatureC)
  let current := column segment (·.currentA)
  let vibrationRms := column segment (·.vibrationRmsMps2)
  let vibrationPeak := column segment (·.vibrationPeakMps2)
  let crest := column segment (·.vibrationCrestFactor)
  let currentMean := math.mean current
  [temperature.getLastD .nan,
    slopePerMinute math times temperature,
    math.std temperature,
    currentMean,
    math.std current,
    math.mean vibrationRms,
    math.maximum vibrationPeak,
    math.mean crest,
    math.div (math.mean vibrationRms) (currentMean.abs.larger (math.literal (1 / 20)))]

/-- What the loop carries from one sample to the next. -/
structure FeatureState where
  segment : List TelemetrySample
  previousTime : Option Int

/-- The gap to the sample before is too long. -/
def isGap (previousTime timestamp : Int) : Bool :=
  options.maximumGapS.less (math.totalSeconds (timestamp - previousTime))

/-- The segment with the sample. -/
def FeatureState.push (state : FeatureState) (sample : TelemetrySample) : FeatureState :=
  let segment :=
    if state.previousTime.any fun previousTime => isGap math options previousTime sample.timestamp then []
    else state.segment
  let segment := segment ++ [sample]
  { segment := if segment.length > options.windowSize then segment.tail else segment
    previousTime := some sample.timestamp }

/-- The row of a segment that ends with the sample, unless it is skipped. -/
def featureRow (segment : List TelemetrySample) (sample : TelemetrySample) : Option FeatureRow :=
  if segment.length < options.minimumWindow || !segment.all (·.measurementsAreFinite) then
    none
  else if options.healthyWindowsOnly && !segment.all (·.isHealthy) then
    none
  else
    let values := featureValues math segment
    if values.all FloatNumber.isFinite then some ⟨sample.sampleId, sample.timestamp, values⟩ else none

/-- The loop over the ordered samples. -/
def featureRows (state : FeatureState) : List TelemetrySample → List FeatureRow
  | [] => []
  | sample :: rest =>
      let next := state.push math options sample
      (featureRow math options next.segment sample).toList ++ featureRows next rest

def generateFeatures (samples : List TelemetrySample) : List FeatureRow :=
  featureRows math options ⟨[], none⟩ (samples.mergeSort TelemetrySample.before)

end Generate

end IiotMonitoring.AnomalyWorker
