import IiotMonitoring.Server.Ingestor
import IiotMonitoring.Worker.Artifact
import IiotMonitoring.Worker.SensorRules

/-!
# The scoring worker

`worker.py`: which rows a call handles, with which rows before them, and what it writes. A call is one
transaction; one that raises writes nothing.
-/

namespace IiotMonitoring.AnomalyWorker

/-! ### Tables -/

/-- A row of `telemetry` with its key and the columns that scoring writes. -/
structure TelemetryRow where
  id : Nat
  telemetry : Telemetry
  anomalyScore : Option PyFloat
  anomalyPercentile : Option PyFloat
  anomalyReason : Option String
  deriving DecidableEq

/-- A row of `anomaly_models`, without the columns that only training writes. -/
structure AnomalyModel where
  id : Nat
  deviceId : String
  modelVersion : String
  status : String
  artifactPath : String
  artifactChecksum : String
  createdAt : Int
  lastScoredAt : Option Int
  diagnostic : Option String
  deriving DecidableEq

structure LoggedError extends ErrorLog where
  createdAt : Int
  deriving DecidableEq

structure WorkerTables where
  rows : List TelemetryRow
  alarms : List Alarm
  models : List AnomalyModel
  errors : List LoggedError

/-- The tables as the alarm functions take them, which read alarms only. -/
def WorkerTables.database (tables : WorkerTables) : Database where
  telemetry := tables.rows.map (·.telemetry)
  devices := fun _ => none
  thresholds := fun _ => none
  alarms := tables.alarms

/-! ### The model -/

/-- The file system under the model root: `(root / path).resolve()`, and what the directories hold. -/
structure ModelFiles where
  root : List String
  resolve : String → Except PyError (List String)
  directory : List String → ArtifactDirectory

structure Settings where
  files : ModelFiles
  modelStaleAfterDays : Nat

/-- The readings of the clock that a call takes. -/
structure ScoringClock where
  now : Int
  loggedAt : Int
  scoredAt : Int
  openedAt : Int
  sensorNow : Int
  anomalyNow : Int

/-- What `_load_ready_bundle` returns, with the registry row as it leaves it. -/
inductive Loaded where
  | notRegistered
  | unusable (registry : AnomalyModel) (code : String)
  | ready (registry : AnomalyModel) (bundle : ModelBundle)

namespace Loaded

def isReady : Loaded → Bool
  | notRegistered | unusable .. => false
  | ready .. => true

def registry? : Loaded → Option AnomalyModel
  | notRegistered => none
  | unusable registry _ | ready registry _ => some registry

/-- `model_error or "MODEL_NOT_READY"`, where there is no bundle. -/
def code : Loaded → String
  | notRegistered | ready .. => "MODEL_NOT_READY"
  | unusable _ code => code

def detail (loaded : Loaded) : String :=
  loaded.code ++ ": deterministic sensor and threshold rules remain active"

end Loaded

section Load

variable {P : Type} (runtime : Runtime P) (settings : Settings)

/-- `_trusted_artifact_directory`. -/
def trustedArtifactDirectory (model : AnomalyModel) : Except PyError ArtifactDirectory := do
  let candidate ← settings.files.resolve model.artifactPath
  demand (settings.files.root.isPrefixOf candidate) "MODEL_ARTIFACT_PATH_INVALID"
  return settings.files.directory candidate

/-- `_latest_registry`. -/
def latestRegistry (models : List AnomalyModel) (deviceId : String) : Option AnomalyModel :=
  ((models.filter (·.deviceId = deviceId)).mergeSort fun left right =>
    right.createdAt < left.createdAt ||
      (right.createdAt = left.createdAt && right.id ≤ left.id)).head?

/-- The body of the `try` statement, where `none` is a stale model. -/
def currentBundle (registry : AnomalyModel) (deviceId : String) (now : Int) :
    Except PyError (Option ModelBundle) := do
  let directory ← trustedArtifactDirectory settings registry
  let bundle ← loadBundle runtime directory
  demand (bundle.metadata.deviceId = codes deviceId &&
    bundle.metadata.modelVersion = codes registry.modelVersion) "MODEL_REGISTRY_MISMATCH"
  demand (bundle.metadata.artifactChecksum = codes registry.artifactChecksum)
    "MODEL_REGISTRY_CHECKSUM_MISMATCH"
  let stale ← modelIsStale runtime bundle.metadata now settings.modelStaleAfterDays
  return if stale then none else some bundle

/-- `except (ArtifactError, OSError, ValueError)`. -/
def caughtByLoading (kind : PyException) : Bool := kind = .osError || kind.isValueError

/-- `str(exc)[:48] or "MODEL_ARTIFACT_INVALID"`. -/
def PyError.code (error : PyError) : String :=
  let code := sliceTo 48 error.message
  if code.isEmpty then "MODEL_ARTIFACT_INVALID" else code

def loadReadyBundle (models : List AnomalyModel) (deviceId : String) (now : Int) :
    Except PyError Loaded :=
  match latestRegistry models deviceId with
  | none => .ok .notRegistered
  | some registry =>
      match currentBundle runtime settings registry deviceId now with
      | .ok (some bundle) =>
          .ok (.ready { registry with status := "ready", diagnostic := none } bundle)
      | .ok none =>
          .ok (.unusable
            { registry with
              status := "stale"
              diagnostic := some "MODEL_STALE: retraining is required" }
            "MODEL_STALE")
      | .error error =>
          if caughtByLoading error.kind then
            .ok (.unusable
              { registry with
                status := "error"
                diagnostic := some (sliceTo 300 (error.code ++ ": deterministic rules remain active")) }
              error.code)
          else
            .error error

end Load

/-! ### Queries -/

/-- `MAX_BATCH_ROWS`. -/
def maxBatchRows : Nat := 500

/-- `CONTEXT_ROWS`. -/
def contextSize : Nat := 12

namespace TelemetryRow

variable (row : TelemetryRow)

def receivedAt : Int := row.telemetry.receivedAt

/-- The order of `received_at` and `id`. -/
def before (left right : TelemetryRow) : Bool :=
  left.receivedAt < right.receivedAt || (left.receivedAt = right.receivedAt && left.id ≤ right.id)

/-- `telemetry_sample`. -/
def sample : TelemetrySample where
  sampleId := row.id
  timestamp := row.telemetry.deviceTime.getD row.receivedAt
  measurements := row.telemetry.measurements
  quality := row.telemetry.quality
  faultFlags := row.telemetry.faultFlags

end TelemetryRow

/-- `LIKE` with a pattern and `%`: an underscore stands for any character. -/
def likePrefix : List Char → List Char → Bool
  | [], _ => true
  | _ :: _, [] => false
  | wanted :: pattern, char :: text => (wanted = '_' || wanted = char) && likePrefix pattern text

/-- `anomaly_reason.startswith("FEATURE_WINDOW_NOT_READY")`. -/
def isWaiting (reason : String) : Bool := likePrefix "FEATURE_WINDOW_NOT_READY".toList reason.toList

/-- The row is still to be handled in a mode. -/
def isTarget (deviceId : String) (modelReady : Bool) (row : TelemetryRow) : Bool :=
  row.telemetry.deviceId = deviceId && row.anomalyScore.isNone &&
    if modelReady then !row.anomalyReason.any isWaiting else row.anomalyReason.isNone

/-- `_targets`. -/
def targets (rows : List TelemetryRow) (deviceId : String) (modelReady : Bool) : List TelemetryRow :=
  ((rows.filter (isTarget deviceId modelReady)).mergeSort TelemetryRow.before).take maxBatchRows

/-- `_context_rows`, between the times of the first and the last target. -/
def contextRows (rows : List TelemetryRow) (deviceId : String) (first last : Int) :
    List TelemetryRow :=
  let earlier := ((rows.filter fun row =>
    row.telemetry.deviceId = deviceId && row.receivedAt < first).mergeSort
      fun left right => right.before left).take (contextSize - 1)
  let batch := (rows.filter fun row =>
    row.telemetry.deviceId = deviceId && first ≤ row.receivedAt && row.receivedAt ≤ last).mergeSort
      TelemetryRow.before
  earlier.reverse ++ batch

/-! ### One call -/

/-- `entries.get(key)` of a dictionary that the entries fill in order. -/
def lookupLast {β : Type} (entries : List (Nat × β)) (key : Nat) : Option β :=
  entries.reverse.lookup key

section Score

variable (math : FloatMath)

/-- `samples[max(0, index - CONTEXT_ROWS + 1) : index + 1]`. -/
def trailing (samples : List TelemetrySample) (index : Nat) : List TelemetrySample :=
  (samples.take (index + 1)).drop (index + 1 - contextSize)

/-- `diagnostics_by_id`. -/
def diagnosticsById (samples : List TelemetrySample) (targetIds : List Nat) :
    List (Nat × List SensorDiagnostic) :=
  (samples.zipIdx.filter fun sample => sample.1.sampleId ∈ targetIds).map fun sample =>
    (sample.1.sampleId, detectSensorFailures math (trailing samples sample.2))

/-- `results`, empty where there is no bundle. -/
def resultsById (loaded : Loaded) (samples : List TelemetrySample) (targetIds : List Nat) :
    Except PyError (List (Nat × ScoreResult)) :=
  match loaded with
  | .notRegistered | .unusable .. => .ok []
  | .ready _ bundle => do
      let results ← scoreRows math bundle (generateFeatures math .default samples)
      return (results.filter (·.sampleId ∈ targetIds)).map fun result => (result.sampleId, result)

/-- A target with what is found for it. -/
structure Judged where
  row : TelemetryRow
  diagnostics : List SensorDiagnostic
  result : Option ScoreResult

namespace Judged

variable (judged : Judged)

def reason (otherwise : String) : String :=
  if judged.diagnostics.isEmpty then otherwise else diagnosticReason judged.diagnostics

/-- The row as the loop over the targets leaves it. -/
def written (loaded : Loaded) : TelemetryRow :=
  if loaded.isReady then
    match judged.result with
    | none =>
        { judged.row with
          anomalyReason := some "FEATURE_WINDOW_NOT_READY: waiting for causal context" }
    | some result =>
        { judged.row with
          anomalyScore := some result.rawAnomalyScore
          anomalyPercentile := some result.empiricalPercentile
          anomalyReason := some (judged.reason result.reason) }
  else
    { judged.row with anomalyReason := some (judged.reason loaded.detail) }

/-- What the alarms depend on. -/
def target : ScoringTarget := ⟨judged.row.id, judged.diagnostics, judged.result.map (·.verdict)⟩

end Judged

/-- What is found for each target. -/
def judge (rows : List TelemetryRow) (deviceId : String) (loaded : Loaded)
    (targets : List TelemetryRow) (first last : Int) : Except PyError (List Judged) := do
  let samples := (contextRows rows deviceId first last).map (·.sample)
  let targetIds := targets.map (·.id)
  let results ← resultsById math loaded samples targetIds
  targets.mapM fun row =>
    match lookupLast (diagnosticsById math samples targetIds) row.id with
    | some diagnostics => .ok ⟨row, diagnostics, lookupLast results row.id⟩
    | none => .error ⟨.keyError, toString row.id⟩

/-- `_log_diagnostic`, at most once an hour for a device and code. -/
def logDiagnostic (errors : List LoggedError) (deviceId code severity detail : String) (now : Int) :
    List LoggedError :=
  if errors.any fun error => error.component = "anomaly-worker" && error.deviceId = some deviceId &&
      error.errorCode = code && now - 3600000000 ≤ error.createdAt then
    errors
  else
    errors ++ [⟨⟨"anomaly-worker", code, severity, some deviceId, sliceTo 300 detail⟩, now⟩]

/-- The changed registry row in its table. -/
def writeModel (models : List AnomalyModel) (registry : Option AnomalyModel) : List AnomalyModel :=
  match registry with
  | none => models
  | some registry => models.map fun model => if model.id = registry.id then registry else model

/-- The changed telemetry rows in their table. -/
def writeRows (rows written : List TelemetryRow) : List TelemetryRow :=
  rows.map fun row => (written.find? (·.id = row.id)).getD row

/-- The arguments of `_set_alarm` and of the event. -/
def scoring (deviceId : String) (loaded : Loaded) (clock : ScoringClock) (judged : List Judged) :
    Scoring where
  deviceId := deviceId
  modelReady := loaded.isReady
  modelVersion := loaded.registry?.map (·.modelVersion)
  modelStatus := (loaded.registry?.map (·.status)).getD "model_not_ready"
  targets := judged.map (·.target)
  openedAt := clock.openedAt
  sensorNow := clock.sensorNow
  anomalyNow := clock.anomalyNow

/-- What a call that found targets leaves. -/
def settled (tables : WorkerTables) (deviceId : String) (loaded : Loaded) (clock : ScoringClock)
    (judged : List Judged) (alarms : List Alarm) : WorkerTables where
  rows := writeRows tables.rows (judged.map (·.written loaded))
  alarms := alarms
  models := writeModel tables.models (loaded.registry?.map fun registry =>
    if loaded.isReady then { registry with lastScoredAt := some clock.scoredAt } else registry)
  errors :=
    if loaded.isReady then tables.errors
    else
      logDiagnostic tables.errors deviceId loaded.code
        (if loaded.code = "MODEL_NOT_READY" then "info" else "warning") loaded.detail clock.loggedAt

/-- The rest of the call. -/
def finish (tables : WorkerTables) (deviceId : String) (loaded : Loaded) (clock : ScoringClock)
    (judged : List Judged) : Except PyError (Nat × WorkerTables) :=
  match IiotMonitoring.scoreDeviceOnce tables.database (scoring deviceId loaded clock judged) with
  | (none, _) => .error ⟨.valueError, "live event exceeds bounded PostgreSQL notification size"⟩
  | (some processed, database) =>
      .ok (processed, settled tables deviceId loaded clock judged database.alarms)

/-- The call after the model is loaded. -/
def scoreLoaded (tables : WorkerTables) (deviceId : String) (loaded : Loaded)
    (clock : ScoringClock) : Except PyError (Nat × WorkerTables) :=
  let targets := targets tables.rows deviceId loaded.isReady
  match targets.head?, targets.getLast? with
  | some first, some last => do
      let judged ← judge math tables.rows deviceId loaded targets first.receivedAt last.receivedAt
      finish tables deviceId loaded clock judged
  | _, _ => .ok (0, { tables with models := writeModel tables.models loaded.registry? })

variable {P : Type} (runtime : Runtime P) (settings : Settings)

def scoreDeviceOnce (tables : WorkerTables) (deviceId : String) (clock : ScoringClock) :
    Except PyError (Nat × WorkerTables) := do
  let loaded ← loadReadyBundle runtime settings tables.models deviceId clock.now
  scoreLoaded math tables deviceId loaded clock

/-- `run_once` over the devices in order, each with the readings of its call. An exception ends it; what
the calls before it wrote is committed. -/
def runOnce (tables : WorkerTables) : List (String × ScoringClock) → Except PyError Nat × WorkerTables
  | [] => (.ok 0, tables)
  | (deviceId, clock) :: rest =>
      match scoreDeviceOnce math runtime settings tables deviceId clock with
      | .error error => (.error error, tables)
      | .ok (scored, tables) =>
          let (processed, tables) := runOnce tables rest
          (processed.map (scored + ·), tables)

end Score

end IiotMonitoring.AnomalyWorker
