import IiotMonitoring.Lib.Calendar
import IiotMonitoring.Lib.JsonLayout
import IiotMonitoring.Lib.Program
import IiotMonitoring.Worker.Worker
import Mathlib.Logic.Function.Basic

/-!
# Training

`train_model`, `save_bundle` and `train_and_register`. A call issues its operations on the model root and
on the registry one at a time, so that it can be cut between any two of them. What NumPy, scikit-learn
and Joblib compute is a parameter.
-/

namespace IiotMonitoring.AnomalyWorker

/-! ### Times -/

/-- `_isoformat`, of an instant in microseconds since 1970. -/
def isoformat (value : Int) : String :=
  let date := dateFrom 0 (value / 86400000000 + 719528).toNat
  let microsecond := (value % 86400000000).toNat
  let second := microsecond / 1000000
  String.ofList (fixedDigits 4 date.year ++
    (timeText (date.month + 1) (date.day + 1) (second / 3600) (second % 3600 / 60) (second % 60) ++
      ((if microsecond % 1000000 = 0 then [] else '.' :: fixedDigits 6 (microsecond % 1000000)) ++
        ['Z'])))

example : isoformat 1786406400250000 = "2026-08-11T00:00:00.250000Z" := by decide +kernel

/-! ### `train_model` -/

/-- What training calls in the packages, and two ways floats print. -/
structure Trainer where
  /-- `IsolationForest(...).fit(matrix)` with a contamination and a seed. -/
  fit : PyFloat → Int → List (List PyFloat) → Except PyError Estimator
  /-- `np.quantile(column, [0.01, 0.5, 0.99])`. -/
  quantiles : List PyFloat → Quantiles
  /-- `joblib.dump` of a bundle's payload. -/
  dump : Estimator → NdArray → List (String × Quantiles) → List UInt8
  /-- The format `.8g`. -/
  eightDigits : PyFloat → String
  /-- `float.__repr__` of a number. -/
  literal : ℚ → JsonNumber

/-- `DEFAULT_RANDOM_SEED`. -/
def defaultRandomSeed : Int := 20260811

/-- The arguments of `train_model` but the samples. -/
structure TrainingRequest where
  deviceId : String
  assetClass : String
  baselineStart : Int
  baselineEnd : Int
  minimumFeatureRows : Nat
  contamination : PyFloat
  randomSeed : Int
  createdAt : Int

/-- The keyword arguments of `generate_features` in training. -/
def WindowOptions.healthy : WindowOptions := { WindowOptions.default with healthyWindowsOnly := true }

/-- A check that raises `TrainingError`. -/
def require (condition : Bool) (message : String) : Except PyError Unit :=
  if condition then .ok () else .error ⟨.valueError, message⟩

section Train

variable (math : FloatMath) {P : Type} (runtime : Runtime P) (trainer : Trainer)

/-- `_model_version`. -/
def modelVersion (deviceId : String) (start finish : Int) (contamination : PyFloat) (seed : Int) : Text :=
  let value := deviceId ++ "|" ++ isoformat start ++ "|" ++ isoformat finish ++ "|" ++
    toString featureSchemaVersion ++ "|" ++ trainer.eightDigits contamination ++ "|" ++ toString seed
  codes "iforest-v1-" ++ (runtime.sha256 value.toUTF8.toList).take 12

/-- The rows to train on: `max(int(len(rows) * 0.8), minimum_feature_rows * 3 // 4)`. -/
def splitAt (count minimumFeatureRows : Nat) : Except PyError Nat := do
  let part ← intOfFloat (math.mul (.finite count) (math.literal (4 / 5)))
  return (max part (minimumFeatureRows * 3 / 4 : Nat)).toNat

/-- The quantiles of each column. -/
def trainedQuantiles (matrix : List (List PyFloat)) : List (String × Quantiles) :=
  featureNames.zipIdx.map fun (name, index) =>
    (name, trainer.quantiles (matrix.map fun values => values.getD index .nan))

def trainedMetadata (request : TrainingRequest) (training validation : Nat) : ModelMetadata where
  deviceId := codes request.deviceId
  assetClass := codes request.assetClass
  modelVersion := modelVersion runtime trainer request.deviceId request.baselineStart
    request.baselineEnd request.contamination request.randomSeed
  featureSchemaVersion := featureSchemaVersion
  featureNames := featureNames.map codes
  trainingStart := codes (isoformat request.baselineStart)
  trainingEnd := codes (isoformat request.baselineEnd)
  trainingSampleCount := training
  validationSampleCount := validation
  contamination := request.contamination
  randomSeed := request.randomSeed
  sklearnVersion := runtime.sklearnVersion
  createdAt := codes (isoformat request.createdAt)
  scoreDirection := codes "higher_is_more_anomalous; not a probability"
  baselinePolicy := codes "quality=good, no fault flags, causal healthy-only rolling windows"
  artifactChecksum := []

/-- The two matrices. -/
def trainingMatrices (samples : List TelemetrySample) (request : TrainingRequest) :
    Except PyError (List (List PyFloat) × List (List PyFloat)) := do
  require (request.baselineStart < request.baselineEnd) "TRAINING_WINDOW_INVALID"
  require (request.contamination.atLeast (runtime.round (1 / 1000)) &&
    request.contamination.atMost (runtime.round (1 / 5))) "CONTAMINATION_OUT_OF_RANGE"
  let selected := samples.filter fun item =>
    request.baselineStart ≤ item.timestamp && item.timestamp ≤ request.baselineEnd
  let rows := generateFeatures math .healthy selected
  require (request.minimumFeatureRows ≤ rows.length)
    ("MODEL_NOT_READY: " ++ toString rows.length ++ " healthy feature rows; minimum is " ++
      toString request.minimumFeatureRows)
  let split ← splitAt math rows.length request.minimumFeatureRows
  require (max 20 (request.minimumFeatureRows / 10) + split ≤ rows.length)
    "MODEL_NOT_READY: healthy validation split is too small"
  return ((rows.take split).map (·.values), (rows.drop split).map (·.values))

/-- `train_model`. -/
def trainModel (samples : List TelemetrySample) (request : TrainingRequest) :
    Except PyError ModelBundle := do
  let (training, validation) ← trainingMatrices math runtime samples request
  let estimator ← trainer.fit request.contamination request.randomSeed training
  let scores ← estimator.scoreSamples validation
  return {
    estimator := estimator
    referenceScores := ⟨[scores.length], scores.map FloatNumber.neg⟩
    featureQuantiles := trainedQuantiles trainer training
    metadata := trainedMetadata runtime trainer request training.length validation.length }

end Train

/-! ### Files and registry -/

/-- The directories under the model root, with the contents of their files. -/
abbrev ModelTree : Type := List String → Option (String → Option (List UInt8))

namespace ModelTree

variable (tree : ModelTree)

/-- The content of a file, or `FileNotFoundError`. -/
def read (directory : List String) (name : String) : Except PyError (List UInt8) :=
  match (tree directory).bind fun files => files name with
  | some bytes => .ok bytes
  | none => .error ⟨.osError, "No such file or directory"⟩

def artifacts (directory : List String) : ArtifactDirectory where
  metadata := tree.read directory "metadata.json"
  artifact := tree.read directory "model.joblib"

/-- The tree with the files of a directory changed. -/
def change (directory : List String)
    (files : (String → Option (List UInt8)) → String → Option (List UInt8)) : ModelTree :=
  Function.update tree directory ((tree directory).map files)

end ModelTree

/-- A part of a path, after the parts before it. -/
def enter (parts : List String) (part : String) : List String :=
  if part = "" ∨ part = "." then parts
  else if part = ".." then parts.dropLast
  else parts ++ [part]

/-- `(root / path).resolve()`, where nothing is a link. -/
def resolvePath (root : List String) (path : String) : List String :=
  let parts := (path.toList.splitOn '/').map String.ofList
  parts.foldl enter (if path.toList.head? = some '/' then [] else root)

/-- The columns that `_register_bundle` writes, as far as `AnomalyModel` has them. -/
structure RegistryEntry where
  deviceId : String
  modelVersion : String
  artifactPath : String
  artifactChecksum : String
  createdAt : Int
  deriving DecidableEq

namespace RegistryEntry

variable (entry : RegistryEntry)

/-- The entry of the same device and version. -/
def isOf (model : AnomalyModel) : Bool :=
  model.deviceId = entry.deviceId && model.modelVersion = entry.modelVersion

def write (model : AnomalyModel) : AnomalyModel :=
  { model with
    status := "ready"
    artifactPath := entry.artifactPath
    artifactChecksum := entry.artifactChecksum
    createdAt := entry.createdAt
    diagnostic := none }

def newModel (id : Nat) : AnomalyModel where
  id := id
  deviceId := entry.deviceId
  modelVersion := entry.modelVersion
  status := "ready"
  artifactPath := entry.artifactPath
  artifactChecksum := entry.artifactChecksum
  createdAt := entry.createdAt
  lastScoredAt := none
  diagnostic := none

end RegistryEntry

/-- What a call of `train_and_register` changes. Keys are given out in order. -/
structure TrainingState where
  tree : ModelTree
  models : List AnomalyModel
  nextModelId : Nat

inductive TrainingOp where
  /-- `mkdir(parents=True, exist_ok=False)`. -/
  | mkdir (directory : List String)
  | write (directory : List String) (name : String) (bytes : List UInt8)
  /-- `os.replace`. -/
  | replace (directory : List String) (source target : String)
  | read (directory : List String) (name : String)
  /-- The transaction of `_register_bundle`. -/
  | register (entry : RegistryEntry)

namespace TrainingOp

/-- The answer of `mkdir` is false for `FileExistsError`. -/
abbrev Res : TrainingOp → Type
  | mkdir _ => Bool
  | write .. | replace .. => Unit
  | read .. => Except PyError (List UInt8)
  | register _ => AnomalyModel

/-- What an operation answers and does, where the disk has room. -/
def perform : (op : TrainingOp) → TrainingState → Res op × TrainingState
  | mkdir directory, state =>
      if (state.tree directory).isSome then
        (false, state)
      else
        (true, { state with tree := Function.update state.tree directory (some fun _ => none) })
  | write directory name bytes, state =>
      ((), { state with
        tree := state.tree.change directory fun files => Function.update files name (some bytes) })
  | replace directory source target, state =>
      ((), { state with
        tree := state.tree.change directory fun files =>
          Function.update (Function.update files target (files source)) source none })
  | read directory name, state => (state.tree.read directory name, state)
  | register entry, state =>
      match state.models.find? entry.isOf with
      | some model =>
          (entry.write model, { state with models := writeModel state.models (entry.write model) })
      | none =>
          (entry.newModel state.nextModelId,
            { state with
              models := state.models ++ [entry.newModel state.nextModelId]
              nextModelId := state.nextModelId + 1 })

/-- Every operation is answered so. -/
def Answers (op : TrainingOp) (state : TrainingState) (answer : Res op) (state' : TrainingState) : Prop :=
  perform op state = (answer, state')

end TrainingOp

/-- Operations in order. -/
abbrev TrainingProgram : Type → Type := Program TrainingOp TrainingOp.Res

namespace TrainingProgram

def mkdir (directory : List String) : TrainingProgram Bool := Program.perform (TrainingOp.mkdir directory)

def write (directory : List String) (name : String) (bytes : List UInt8) : TrainingProgram Unit :=
  Program.perform (TrainingOp.write directory name bytes)

def replace (directory : List String) (source target : String) : TrainingProgram Unit :=
  Program.perform (TrainingOp.replace directory source target)

def read (directory : List String) (name : String) : TrainingProgram (Except PyError (List UInt8)) :=
  Program.perform (TrainingOp.read directory name)

def register (entry : RegistryEntry) : TrainingProgram AnomalyModel := Program.perform (TrainingOp.register entry)

end TrainingProgram

/-! ### `save_bundle` -/

section Save

variable {P : Type} (runtime : Runtime P) (trainer : Trainer)

/-- A float in JSON. -/
def floatJson : PyFloat → Json
  | .finite value => .number (trainer.literal value)
  | .infinity false => .nonFinite .infinity
  | .infinity true => .nonFinite .negativeInfinity
  | .nan => .nonFinite .nan

def intJson (value : Int) : Json := .number ⟨value < 0, value.natAbs, none, none⟩

/-- `asdict(metadata)`. -/
def ModelMetadata.asDict (metadata : ModelMetadata) : List (Text × Json) :=
  [(codes "device_id", .string metadata.deviceId),
    (codes "asset_class", .string metadata.assetClass),
    (codes "model_version", .string metadata.modelVersion),
    (codes "feature_schema_version", intJson metadata.featureSchemaVersion),
    (codes "feature_names", .array (metadata.featureNames.map .string)),
    (codes "training_start", .string metadata.trainingStart),
    (codes "training_end", .string metadata.trainingEnd),
    (codes "training_sample_count", intJson metadata.trainingSampleCount),
    (codes "validation_sample_count", intJson metadata.validationSampleCount),
    (codes "contamination", floatJson trainer metadata.contamination),
    (codes "random_seed", intJson metadata.randomSeed),
    (codes "sklearn_version", .string metadata.sklearnVersion),
    (codes "created_at", .string metadata.createdAt),
    (codes "score_direction", .string metadata.scoreDirection),
    (codes "baseline_policy", .string metadata.baselinePolicy),
    (codes "artifact_checksum", .string metadata.artifactChecksum)]

/-- `sort_keys` of an object. -/
def sortKeys (members : List (Text × Json)) : List (Text × Json) :=
  members.mergeSort fun left right => decide (left.1 ≤ right.1)

/-- The text of `metadata.json`. -/
def metadataText (metadata : ModelMetadata) : Text :=
  (Json.object (sortKeys (metadata.asDict trainer))).layOut (.indented 2) 0 ++ [10]

/-- `save_bundle`, where `none` is `FileExistsError`. -/
def saveBundle (bundle : ModelBundle) (directory : List String) :
    TrainingProgram (Except PyError (Option ModelBundle)) := do
  let made ← TrainingProgram.mkdir directory
  if made then
    TrainingProgram.write directory "model.joblib.tmp"
      (trainer.dump bundle.estimator bundle.referenceScores bundle.featureQuantiles)
    TrainingProgram.replace directory "model.joblib.tmp" "model.joblib"
    match ← TrainingProgram.read directory "model.joblib" with
    | .error error => return .error error
    | .ok bytes =>
        let metadata := { bundle.metadata with
          artifactChecksum := codes "sha256:" ++ runtime.sha256 bytes }
        TrainingProgram.write directory "metadata.json.tmp" (plainBytes (metadataText trainer metadata))
        TrainingProgram.replace directory "metadata.json.tmp" "metadata.json"
        return .ok (some { bundle with metadata })
  else
    return .ok none

end Save

/-! ### `train_and_register` -/

/-- A call, with the tables and the clock as it finds them. -/
structure TrainingCall where
  devices : String → Option Device
  rows : List TelemetryRow
  deviceId : String
  baselineStart : Int
  baselineEnd : Int
  contamination : PyFloat
  now : Int

/-- What all calls share. -/
structure Training (P : Type) where
  math : FloatMath
  runtime : Runtime P
  trainer : Trainer
  root : List String
  minimumFeatureRows : Nat

namespace Training

variable {P : Type} (training : Training P) (call : TrainingCall)

/-- The rows that the query finds. -/
def telemetry : List TelemetryRow :=
  (call.rows.filter fun row =>
    row.telemetry.deviceId = call.deviceId && call.baselineStart ≤ row.receivedAt &&
      row.receivedAt ≤ call.baselineEnd).mergeSort TelemetryRow.before

def request (device : Device) : TrainingRequest where
  deviceId := device.id
  assetClass := device.assetClass
  baselineStart := call.baselineStart
  baselineEnd := call.baselineEnd
  minimumFeatureRows := training.minimumFeatureRows
  contamination := call.contamination
  randomSeed := defaultRandomSeed
  createdAt := call.now

/-- The call up to `save_bundle`. -/
def train : Except PyError ModelBundle :=
  match call.devices call.deviceId with
  | none => .error ⟨.valueError, "DEVICE_NOT_FOUND"⟩
  | some device =>
      trainModel training.math training.runtime training.trainer
        ((telemetry call).map (·.sample)) (training.request call device)

/-- The string of a text that is written to the database. -/
def databaseText (text : Text) : Except PyError String :=
  match textString text with
  | some string => .ok string
  | none => .error ⟨.valueError, "surrogates not allowed"⟩

/-- `_parse_utc`. -/
def parseUtc (text : Text) : Except PyError Int := training.runtime.readInstant (replaceZ text)

/-- What `_register_bundle` writes, with the path below the root. -/
def registryEntry (metadata : ModelMetadata) (path : List String) : Except PyError RegistryEntry := do
  let deviceId ← databaseText metadata.deviceId
  let modelVersion ← databaseText metadata.modelVersion
  let _ ← training.parseUtc metadata.trainingStart
  let _ ← training.parseUtc metadata.trainingEnd
  let artifactChecksum ← databaseText metadata.artifactChecksum
  let createdAt ← training.parseUtc metadata.createdAt
  return ⟨deviceId, modelVersion, "/".intercalate path, artifactChecksum, createdAt⟩

/-- `_register_bundle`. -/
def registerBundle (metadata : ModelMetadata) (path : List String) : TrainingProgram (Except PyError AnomalyModel) :=
  match training.registryEntry metadata path with
  | .error error => return .error error
  | .ok entry => do
      let model ← TrainingProgram.register entry
      return .ok model

/-- `load_bundle`. -/
def loadBundleFrom (directory : List String) : TrainingProgram (Except PyError ModelBundle) := do
  let metadata ← TrainingProgram.read directory "metadata.json"
  let artifact ← TrainingProgram.read directory "model.joblib"
  return loadBundle training.runtime ⟨metadata, artifact⟩

/-- The bundle in a directory that exists, which has to be the one of the version. -/
def existingBundle (deviceId : String) (version : Text) (directory : List String) :
    TrainingProgram (Except PyError ModelBundle) := do
  match ← training.loadBundleFrom directory with
  | .error error => return .error error
  | .ok saved =>
      if saved.metadata.deviceId = codes deviceId ∧ saved.metadata.modelVersion = version then
        return .ok saved
      else
        return .error ⟨.artifactError, "MODEL_EXISTING_ARTIFACT_MISMATCH"⟩

/-- The part of a path that a text is. -/
def pathPart (text : Text) : String := String.ofList (text.map Char.ofNat)

/-- The path of a bundle below the root. -/
def bundlePath (metadata : ModelMetadata) : List String :=
  [pathPart metadata.deviceId, pathPart metadata.modelVersion]

/-- The call after training. -/
def storeBundle (bundle : ModelBundle) : TrainingProgram (Except PyError AnomalyModel) := do
  let path := bundlePath bundle.metadata
  let directory := training.root ++ path
  match ← saveBundle training.runtime training.trainer bundle directory with
  | .error error => return .error error
  | .ok (some saved) => training.registerBundle saved.metadata path
  | .ok none =>
      match ← training.existingBundle call.deviceId bundle.metadata.modelVersion directory with
      | .error error => return .error error
      | .ok saved => training.registerBundle saved.metadata path

/-- `train_and_register`. -/
def trainAndRegister : TrainingProgram (Except PyError AnomalyModel) :=
  match training.train call with
  | .error error => return .error error
  | .ok bundle => training.storeBundle call bundle

/-- The model root as scoring reads it. -/
def files (state : TrainingState) : ModelFiles where
  root := training.root
  resolve := fun path => .ok (resolvePath training.root path)
  directory := state.tree.artifacts

end Training

end IiotMonitoring.AnomalyWorker
