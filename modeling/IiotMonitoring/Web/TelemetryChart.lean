import IiotMonitoring.Worker.Worker

/-!
# The telemetry chart

From a stored row to a point of the chart: `to_telemetry_view` of the API's `main.py`, and `boundedPoints`
of `telemetry-chart.tsx`. JSON carries the floats unchanged. Times are in microseconds.
-/

namespace IiotMonitoring.Web

open AnomalyWorker (PyFloat TelemetryRow)

/-- `TelemetryView` of the API and `Telemetry` of the web's types. -/
structure TelemetryView where
  messageId : String
  sequence : Nat
  deviceTime : Option Int
  receivedAt : Int
  quality : Quality
  replayed : Bool
  temperatureC : Option PyFloat
  vibrationRmsMps2 : Option PyFloat
  vibrationPeakMps2 : Option PyFloat
  vibrationCrestFactor : Option PyFloat
  currentA : Option PyFloat
  faultFlags : List String
  anomalyScore : Option PyFloat
  anomalyPercentile : Option PyFloat
  anomalyReason : Option String
  deriving DecidableEq

def toTelemetryView (row : TelemetryRow) : TelemetryView where
  messageId := row.telemetry.messageId
  sequence := row.telemetry.sequence
  deviceTime := row.telemetry.deviceTime
  receivedAt := row.telemetry.receivedAt
  quality := row.telemetry.quality
  replayed := row.telemetry.replayed
  temperatureC := row.telemetry.measurements.temperatureC
  vibrationRmsMps2 := row.telemetry.measurements.vibrationRmsMps2
  vibrationPeakMps2 := row.telemetry.measurements.vibrationPeakMps2
  vibrationCrestFactor := row.telemetry.measurements.vibrationCrestFactor
  currentA := row.telemetry.measurements.currentA
  faultFlags := row.telemetry.faultFlags
  anomalyScore := row.anomalyScore
  anomalyPercentile := row.anomalyPercentile
  anomalyReason := row.anomalyReason

inductive MetricKey where
  | temperatureC | vibrationRmsMps2 | currentA
  deriving DecidableEq, Repr

/-- `row[metric]`. -/
def MetricKey.value (row : TelemetryView) : MetricKey → Option PyFloat
  | temperatureC => row.temperatureC
  | vibrationRmsMps2 => row.vibrationRmsMps2
  | currentA => row.currentA

structure ChartPoint where
  value : Option PyFloat
  anomaly : Bool
  deriving DecidableEq

/-- `new Date(received_at).getTime()`, in milliseconds. -/
def getTime (row : TelemetryView) : Int := row.receivedAt / 1000

/-- The default of `limit`. -/
def defaultLimit : Nat := 240

/-- The double that the literal `0.99` denotes. -/
def markerPercentile : ℚ := 4458563631096791 / 4503599627370496

/-- `Math.max(1, Math.ceil(length / limit))`, for a limit that is not zero. -/
def stride (length limit : Nat) : Nat := max 1 ((length + limit - 1) / limit)

/-- The rows that `boundedPoints` keeps, by the sort, the filter and the slice. -/
def keptRows (rows : List TelemetryView) (limit : Nat) : List TelemetryView :=
  let chronological := rows.mergeSort fun left right => getTime left ≤ getTime right
  let kept := (chronological.zipIdx.filter fun row =>
    row.2 % stride chronological.length limit = 0 || row.2 = chronological.length - 1).map Prod.fst
  kept.drop (kept.length - limit)

/-- The point of a row. -/
def chartPoint (metric : MetricKey) (row : TelemetryView) : ChartPoint where
  value := metric.value row
  anomaly := row.anomalyPercentile.any (·.atLeast markerPercentile)

def boundedPoints (rows : List TelemetryView) (metric : MetricKey) (limit : Nat) : List ChartPoint :=
  (keptRows rows limit).map (chartPoint metric)

end IiotMonitoring.Web
