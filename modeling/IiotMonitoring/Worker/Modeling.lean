import IiotMonitoring.Server.Alarms
import IiotMonitoring.Worker.Features

/-!
# Scoring

The part of `modeling.py` that scores feature rows. Exceptions are results.
-/

namespace IiotMonitoring.AnomalyWorker

/-! ### Exceptions -/

/-- The classes of exceptions that are told apart. -/
inductive PyException where
  | artifactError | jsonDecodeError | unicodeDecodeError | valueError | notFittedError | osError
  | keyError | indexError | typeError | eofError | attributeError | importError | unpicklingError
  | overflowError | recursionError | other
  deriving DecidableEq, Repr

structure PyError where
  kind : PyException
  message : String
  deriving DecidableEq, Repr

namespace PyException

/-- An instance of `ValueError`. -/
def isValueError (kind : PyException) : Bool :=
  kind ∈ [artifactError, jsonDecodeError, unicodeDecodeError, valueError, notFittedError]

end PyException

/-- `except` with a tuple of classes, and `raise ArtifactError(message)` in its body. -/
def recast {α : Type} (caught : PyException → Bool) (message : String) :
    Except PyError α → Except PyError α
  | .ok value => .ok value
  | .error error => .error (if caught error.kind then ⟨.artifactError, message⟩ else error)

/-! ### Models -/

structure ModelMetadata where
  deviceId : Text
  assetClass : Text
  modelVersion : Text
  featureSchemaVersion : Int
  featureNames : List Text
  trainingStart : Text
  trainingEnd : Text
  trainingSampleCount : Int
  validationSampleCount : Int
  contamination : PyFloat
  randomSeed : Int
  sklearnVersion : Text
  createdAt : Text
  scoreDirection : Text
  baselinePolicy : Text
  artifactChecksum : Text
  deriving DecidableEq

/-- An `IsolationForest`: what its methods answer for a matrix. -/
structure Estimator where
  scoreSamples : List (List PyFloat) → Except PyError (List PyFloat)
  predict : List (List PyFloat) → Except PyError (List Int)

/-- A NumPy array of floats, its items in order. -/
structure NdArray where
  shape : List Nat
  items : List PyFloat
  deriving DecidableEq

/-- A feature's 1st, 50th and 99th percentile. -/
structure Quantiles where
  low : PyFloat
  median : PyFloat
  high : PyFloat
  deriving DecidableEq

structure ModelBundle where
  estimator : Estimator
  referenceScores : NdArray
  featureQuantiles : List (String × Quantiles)
  metadata : ModelMetadata

structure ScoreResult where
  sampleId : Nat
  rawAnomalyScore : PyFloat
  empiricalPercentile : PyFloat
  anomalous : Bool
  reason : String
  deriving DecidableEq

/-- What the alarms depend on. -/
def ScoreResult.verdict (result : ScoreResult) : IiotMonitoring.ScoreResult :=
  ⟨result.sampleId, result.anomalous, result.reason⟩

/-! ### Results -/

variable (math : FloatMath)

/-- `_percentile`: `searchsorted` takes an array of one dimension. -/
def percentile (reference : NdArray) (score : PyFloat) : Except PyError PyFloat :=
  if reference.shape.length ≠ 1 then
    .error ⟨.valueError, "object too deep for desired array"⟩
  else
    let place := reference.items.countP fun value => !score.less value
    .ok (math.mul (math.div (.finite place) (.finite reference.items.length)) (.finite 100))

/-- `_FEATURE_LABELS`, in the order of the features. -/
def featureLabels : List (String × String) :=
  [("temperature level", "°C"), ("temperature slope", "°C/min"), ("temperature variation", "°C"),
    ("current mean", "A"), ("current variation", "A"), ("vibration RMS", "m/s²"),
    ("vibration peak", "m/s²"), ("crest factor", "ratio"), ("vibration/current ratio", "m/s²/A")]

/-- `bundle.feature_quantiles[name]`. -/
def ModelBundle.quantiles (bundle : ModelBundle) (name : String) : Except PyError Quantiles :=
  match bundle.featureQuantiles.lookup name with
  | some quantiles => .ok quantiles
  | none => .error ⟨.keyError, name⟩

/-- An entry of `evidence`, where the value is outside the quantiles. -/
def featureEvidence (value : PyFloat) (quantiles : Quantiles) (label unit : String) :
    List (PyFloat × String) :=
  let span := ((math.sub quantiles.high quantiles.low).larger
    (math.mul quantiles.median.abs (math.literal (1 / 20)))).larger (math.literal (1 / 1000000))
  let isOutside := fun (side percentile : String) (bound : PyFloat) =>
    label ++ " " ++ math.threeDigits value ++ " " ++ unit ++ " is " ++ side ++ " its healthy " ++
      percentile ++ " percentile " ++ math.threeDigits bound ++ " " ++ unit
  if quantiles.high.less value then
    [(math.div (math.sub value quantiles.high) span, isOutside "above" "99th" quantiles.high)]
  else if value.less quantiles.low then
    [(math.div (math.sub quantiles.low value) span, isOutside "below" "1st" quantiles.low)]
  else
    []

/-- The order of pairs. -/
def evidenceLess (left right : PyFloat × String) : Bool :=
  left.1.less right.1 || (left.1 = right.1 && left.2 < right.2)

/-- The text for the evidence, in descending order. -/
def evidenceReason (evidence : List (PyFloat × String)) (anomalous : Bool) : String :=
  let ordered := evidence.mergeSort fun left right => !evidenceLess left right
  if !evidence.isEmpty then
    sliceTo 300 ("; ".intercalate ((ordered.take 2).map (·.2)))
  else if anomalous then
    "multivariate feature combination is outside the healthy model region"
  else
    "features remain within the healthy validation-score distribution"

/-- `_reason`. -/
def anomalyReason (row : FeatureRow) (bundle : ModelBundle) (anomalous : Bool) :
    Except PyError String := do
  let evidence ← (featureNames.zip (row.values.zip featureLabels)).mapM
    fun (name, value, label, unit) => do
      let quantiles ← bundle.quantiles name
      return featureEvidence math value quantiles label unit
  return evidenceReason evidence.flatten anomalous

/-- The result of one row with its score and prediction. -/
def scoreRow (bundle : ModelBundle) (row : FeatureRow) (score : PyFloat) (prediction : Int) :
    Except PyError ScoreResult := do
  let percentile ← percentile math bundle.referenceScores score
  let anomalous := prediction = -1 || percentile.atLeast 99
  let reason ← anomalyReason math row bundle anomalous
  return ⟨row.sampleId, score, percentile, anomalous, reason⟩

def schemaMatches (metadata : ModelMetadata) : Bool :=
  metadata.featureSchemaVersion = featureSchemaVersion && metadata.featureNames = featureNames.map codes

/-- `zip` with `strict` raises at the end of the shortest. -/
def strictly {α : Type} (lengths : Bool) (results : α) : Except PyError α :=
  if lengths then .ok results else .error ⟨.valueError, "zip() arguments differ in length"⟩

def scoreRows (bundle : ModelBundle) (rows : List FeatureRow) :
    Except PyError (List ScoreResult) :=
  if !schemaMatches bundle.metadata then
    .error ⟨.artifactError, "MODEL_FEATURE_SCHEMA_MISMATCH"⟩
  else if rows.isEmpty then
    .ok []
  else do
    let scores ← bundle.estimator.scoreSamples (rows.map (·.values))
    let predictions ← bundle.estimator.predict (rows.map (·.values))
    let results ← (rows.zip ((scores.map FloatNumber.neg).zip predictions)).mapM
      fun (row, score, prediction) => scoreRow math bundle row score prediction
    strictly (scores.length = rows.length && predictions.length = rows.length) results

end IiotMonitoring.AnomalyWorker
