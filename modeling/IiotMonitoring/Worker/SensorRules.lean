import IiotMonitoring.Server.Alarms
import IiotMonitoring.Worker.Features

/-!
# Sensor rules

`sensor_rules.py`: what the last sample of a history, and the history behind it, say of the sensors.
-/

namespace IiotMonitoring.AnomalyWorker

variable (math : FloatMath)

/-- The default of `maximum_gap_s`. -/
def maximumGapS : PyFloat := .finite 30

/-- The sample before the last one is too long ago. -/
def gapDiagnostic (previous current : TelemetrySample) : List SensorDiagnostic :=
  let gapS := math.totalSeconds (current.timestamp - previous.timestamp)
  if maximumGapS.less gapS then
    [⟨"SAMPLES_MISSING", "all", "sample gap is " ++ math.oneDecimal gapS ++ " s, above the " ++
      math.oneDecimal maximumGapS ++ " s limit"⟩]
  else
    []

/-- An entry of `bounds`. -/
structure MetricBounds where
  metric : String
  value : Option PyFloat
  minimum : PyFloat
  maximum : PyFloat
  unit : String

def MetricBounds.diagnostic (bounds : MetricBounds) : List SensorDiagnostic :=
  match bounds.value with
  | none => [⟨"SENSOR_MISSING", bounds.metric, bounds.metric ++ " sample is missing"⟩]
  | some value =>
      if value.less bounds.minimum || bounds.maximum.less value then
        [⟨"SENSOR_IMPOSSIBLE_RANGE", bounds.metric, bounds.metric ++ " is " ++
          math.threeDigits value ++ " " ++ bounds.unit ++ ", outside [" ++
          math.general bounds.minimum ++ ", " ++ math.general bounds.maximum ++ "]"⟩]
      else
        []

def metricBounds (current : Measurements) : List MetricBounds :=
  [⟨"temperature", current.temperatureC, .finite (-80), .finite 200, "°C"⟩,
    ⟨"current", current.currentA, math.literal (-1 / 10), .finite 10, "A"⟩,
    ⟨"vibration_rms", current.vibrationRmsMps2, .finite 0, .finite 2000, "m/s²"⟩,
    ⟨"vibration_peak", current.vibrationPeakMps2, .finite 0, .finite 4000, "m/s²"⟩,
    ⟨"crest_factor", current.vibrationCrestFactor, .finite 0, .finite 100, "ratio"⟩]

def relationDiagnostic (current : Measurements) : List SensorDiagnostic :=
  match current.vibrationPeakMps2, current.vibrationRmsMps2 with
  | some peak, some rms =>
      if (math.add peak (math.literal (1 / 1000000000))).less rms then
        [⟨"SENSOR_RELATION_INVALID", "vibration",
          "vibration peak is below vibration RMS for the same aggregation window"⟩]
      else
        []
  | _, _ => []

/-- A metric of `sequences` with its tolerance and its limit. -/
structure MetricSequence where
  metric : String
  field : Measurements → Option PyFloat
  stuckTolerance : PyFloat
  noiseLimit : PyFloat

/-- `max` and `min` of a list of floats. -/
def largest (values : List PyFloat) : PyFloat := values.tail.foldl FloatNumber.larger (values.headD .nan)

def smallest (values : List PyFloat) : PyFloat :=
  values.tail.foldl (fun least value => if value.less least then value else least) (values.headD .nan)

def MetricSequence.diagnostic (sequence : MetricSequence) (recent : List TelemetrySample) :
    List SensorDiagnostic :=
  let nullableValues := recent.map fun sample => sequence.field sample.measurements
  if nullableValues.any Option.isNone then
    []
  else
    let values := nullableValues.filterMap id
    let spread := math.sub (largest values) (smallest values)
    if spread.less sequence.stuckTolerance || spread = sequence.stuckTolerance then
      [⟨"SENSOR_STUCK", sequence.metric, sequence.metric ++ " changed by no more than " ++
        math.general sequence.stuckTolerance ++ " across " ++ toString values.length ++ " samples"⟩]
    else if sequence.noiseLimit.less (math.pstdev values) then
      [⟨"SENSOR_EXCESSIVE_NOISE", sequence.metric, sequence.metric ++ " standard deviation is " ++
        math.threeDigits (math.pstdev values) ++ ", above " ++ math.general sequence.noiseLimit⟩]
    else
      []

def metricSequences : List MetricSequence :=
  [⟨"temperature", (·.temperatureC), math.literal (1 / 1000), .finite 5⟩,
    ⟨"current", (·.currentA), math.literal (1 / 10000), math.literal (8 / 10)⟩,
    ⟨"vibration_rms", (·.vibrationRmsMps2), math.literal (1 / 10000), .finite 12⟩]

/-- An entry of `rates`. -/
structure MetricRate where
  metric : String
  field : Measurements → Option PyFloat
  limit : PyFloat
  unit : String

def MetricRate.diagnostic (rate : MetricRate) (previous current : TelemetrySample) :
    List SensorDiagnostic :=
  let elapsedS := (math.totalSeconds (current.timestamp - previous.timestamp)).larger
    (math.literal (1 / 1000000))
  match rate.field previous.measurements, rate.field current.measurements with
  | some before, some after =>
      let measured := math.div (math.sub after before).abs elapsedS
      if rate.limit.less measured then
        [⟨"SENSOR_RATE_INVALID", rate.metric, rate.metric ++ " rate is " ++
          math.threeDigits measured ++ " " ++ rate.unit ++ ", above " ++ math.general rate.limit⟩]
      else
        []
  | _, _ => []

def metricRates : List MetricRate :=
  [⟨"temperature", (·.temperatureC), .finite 10, "°C/s"⟩,
    ⟨"current", (·.currentA), .finite 3, "A/s"⟩,
    ⟨"vibration_rms", (·.vibrationRmsMps2), .finite 100, "m/s²/s"⟩]

/-- The dictionary `unique`: the first diagnostic of each code and metric, in order. -/
def uniqueDiagnostics (diagnostics : List SensorDiagnostic) : List SensorDiagnostic :=
  diagnostics.foldl
    (fun unique item =>
      if unique.any fun kept => kept.code = item.code && kept.metric = item.metric then unique
      else unique ++ [item])
    []

def detectSensorFailures (history : List TelemetrySample) : List SensorDiagnostic :=
  let ordered := history.mergeSort TelemetrySample.before
  match ordered.reverse with
  | [] => [⟨"SAMPLES_MISSING", "all", "no telemetry samples are available"⟩]
  | current :: earlier =>
      let recent := ordered.drop (ordered.length - 12)
      let paired (diagnostics : TelemetrySample → List SensorDiagnostic) : List SensorDiagnostic :=
        (earlier.head?.map diagnostics).getD []
      uniqueDiagnostics
        (paired (gapDiagnostic math · current) ++
          (metricBounds math current.measurements).flatMap (·.diagnostic math) ++
          relationDiagnostic math current.measurements ++
          (if 8 ≤ recent.length then
            (metricSequences math).flatMap (·.diagnostic math recent)
          else
            []) ++
          paired fun previous => metricRates.flatMap (·.diagnostic math previous current))

end IiotMonitoring.AnomalyWorker
