import IiotMonitoring.Lib.JsonSchema
import IiotMonitoring.Server.Contract
import IiotMonitoring.Worker.Modeling

/-!
# Artifacts

The part of `modeling.py` that reads an artifact directory. What Joblib unpickles may be any object, so
its type and what Python does with it are parameters; so are the texts that Python itself makes.
-/

namespace IiotMonitoring.AnomalyWorker

/-- The files of an artifact directory: `metadata.json` and `model.joblib`, as reading them ends. -/
structure ArtifactDirectory where
  metadata : Except PyError (List UInt8)
  artifact : Except PyError (List UInt8)

/-- What the code calls in Python and its packages. `P` is the type of the objects Joblib makes. -/
structure Runtime (P : Type) where
  limits : JsonLimits
  /-- The texts of `UnicodeDecodeError`, and of the `ValueError` of an integer that is too long. -/
  unicodeMessage : List UInt8 → String
  digitsMessage : Text → String
  /-- `str` of a value that is no string. -/
  repr : Json → Except PyError Text
  /-- `int` and `float` of a text, which raise `ValueError` otherwise. -/
  readInt : Text → Option Int
  readFloat : Text → Option PyFloat
  /-- The double nearest to a number that is in range. -/
  round : ℚ → ℚ
  /-- `datetime.fromisoformat` and `astimezone(UTC)`. -/
  readInstant : Text → Except PyError Int
  /-- `hashlib.sha256(...).hexdigest()`. -/
  sha256 : List UInt8 → Text
  sklearnVersion : Text
  /-- `joblib.load`. -/
  unpickle : List UInt8 → Except PyError P
  /-- `payload[key]`. -/
  item : P → String → Except PyError P
  /-- `np.asarray(value, dtype=np.float64)`. -/
  floatArray : P → Except PyError NdArray
  /-- `isinstance` of `IsolationForest` and of `dict`. -/
  isolationForest : P → Option Estimator
  dictItems : P → Option (List (P × P))
  /-- The string that a key is equal to. -/
  keyText : P → Option String
  /-- What `for value in values` runs over, and `float(value)`. -/
  iterate : P → Except PyError (List P)
  toFloat : P → Except PyError PyFloat

section Conversions

variable {P : Type} (runtime : Runtime P)

/-- Numbers from here on are not in the range of doubles. -/
def doubleBound : ℚ := 2 ^ 1024 - 2 ^ 970

def exceedsDouble (value : ℚ) : Bool := value ≤ -doubleBound || doubleBound ≤ value

/-- The float a literal with fraction or exponent denotes. -/
def floatOf (value : ℚ) : PyFloat :=
  if exceedsDouble value then .infinity (value < 0) else .finite (runtime.round value)

def truncate (value : ℚ) : Int := if value < 0 then value.ceil else value.floor

/-- `int` of a float. -/
def intOfFloat : PyFloat → Except PyError Int
  | .finite value => .ok (truncate value)
  | .infinity _ => .error ⟨.overflowError, "cannot convert float infinity to integer"⟩
  | .nan => .error ⟨.valueError, "cannot convert float NaN to integer"⟩

/-- `int(value)`. -/
def readInteger : Json → Except PyError Int
  | .bool value => .ok (if value then 1 else 0)
  | .number number =>
      if number.isInteger then .ok (truncate number.value)
      else intOfFloat (floatOf runtime number.value)
  | .nonFinite literal => intOfFloat literal.float
  | .string text =>
      match runtime.readInt text with
      | some value => .ok value
      | none => .error ⟨.valueError, "invalid literal for int()"⟩
  | .null | .array _ | .object _ => .error ⟨.typeError, "int() argument"⟩

/-- `float(value)`. -/
def readNumber : Json → Except PyError PyFloat
  | .bool value => .ok (.finite (if value then 1 else 0))
  | .number number =>
      if number.isInteger && exceedsDouble number.value then
        .error ⟨.overflowError, "int too large to convert to float"⟩
      else
        .ok (floatOf runtime number.value)
  | .nonFinite literal => .ok literal.float
  | .string text =>
      match runtime.readFloat text with
      | some value => .ok value
      | none => .error ⟨.valueError, "could not convert string to float"⟩
  | .null | .array _ | .object _ => .error ⟨.typeError, "float() argument"⟩

/-- `str(value)`. -/
def readText : Json → Except PyError Text
  | .string text => .ok text
  | value => runtime.repr value

/-- What `for item in value` runs over. -/
def iterateJson : Json → Except PyError (List Json)
  | .array items => .ok items
  | .string text => .ok (text.map fun code => .string [code])
  | .object members => .ok ((members.map Prod.fst).eraseDups.map .string)
  | .null | .bool _ | .number _ | .nonFinite _ => .error ⟨.typeError, "object is not iterable"⟩

end Conversions

section Metadata

variable {P : Type} (runtime : Runtime P)

/-- `value[key]`. -/
def member (members : List (Text × Json)) (key : String) : Except PyError Json :=
  match findMember (codes key) members with
  | some value => .ok value
  | none => .error ⟨.keyError, key⟩

/-- The call of `cls` in `from_dict`. -/
def readMetadata (members : List (Text × Json)) : Except PyError ModelMetadata := do
  let deviceId ← member members "device_id" >>= readText runtime
  let assetClass ← member members "asset_class" >>= readText runtime
  let modelVersion ← member members "model_version" >>= readText runtime
  let featureSchemaVersion ← member members "feature_schema_version" >>= readInteger runtime
  let featureNames ← member members "feature_names" >>= iterateJson >>= (·.mapM (readText runtime))
  let trainingStart ← member members "training_start" >>= readText runtime
  let trainingEnd ← member members "training_end" >>= readText runtime
  let trainingSampleCount ← member members "training_sample_count" >>= readInteger runtime
  let validationSampleCount ← member members "validation_sample_count" >>= readInteger runtime
  let contamination ← member members "contamination" >>= readNumber runtime
  let randomSeed ← member members "random_seed" >>= readInteger runtime
  let sklearnVersion ← member members "sklearn_version" >>= readText runtime
  let createdAt ← member members "created_at" >>= readText runtime
  let scoreDirection ← member members "score_direction" >>= readText runtime
  let baselinePolicy ← member members "baseline_policy" >>= readText runtime
  let artifactChecksum ← member members "artifact_checksum" >>= readText runtime
  return {
    deviceId, assetClass, modelVersion, featureSchemaVersion, featureNames, trainingStart, trainingEnd,
    trainingSampleCount, validationSampleCount, contamination, randomSeed, sklearnVersion, createdAt,
    scoreDirection, baselinePolicy, artifactChecksum }

/-- `except (KeyError, TypeError, ValueError)`. -/
def caughtByFromDict (kind : PyException) : Bool :=
  kind = .keyError || kind = .typeError || kind.isValueError

def ModelMetadata.isValid (metadata : ModelMetadata) : Bool :=
  !metadata.deviceId.isEmpty && !metadata.modelVersion.isEmpty && 1 ≤ metadata.trainingSampleCount &&
    20 ≤ metadata.validationSampleCount && metadata.contamination.atLeast (runtime.round (1 / 1000)) &&
    metadata.contamination.atMost (runtime.round (1 / 5)) &&
    (codes "sha256:").isPrefixOf metadata.artifactChecksum

/-- A check that raises `ArtifactError`. -/
def demand (condition : Bool) (code : String) : Except PyError Unit :=
  if condition then .ok () else .error ⟨.artifactError, code⟩

/-- `from_dict`. -/
def fromDict (members : List (Text × Json)) : Except PyError ModelMetadata := do
  let metadata ← recast caughtByFromDict "MODEL_METADATA_INVALID" (readMetadata runtime members)
  demand (metadata.isValid runtime) "MODEL_METADATA_INVALID"
  return metadata

end Metadata

section Load

variable {P : Type} (runtime : Runtime P)

/-- `read_text(encoding="utf-8")`. -/
def readUtf8 (bytes : List UInt8) : Except PyError Text :=
  match (decodeUtf8 bytes).filter isUnicode with
  | some text => .ok text
  | none => .error ⟨.unicodeDecodeError, runtime.unicodeMessage bytes⟩

/-- `json.loads` of a text. -/
def loadsText (text : Text) : Except PyError Json :=
  match parseJson runtime.limits text with
  | .ok value => .ok value
  | .error .malformed => .error ⟨.jsonDecodeError, "JSONDecodeError"⟩
  | .error .nesting => .error ⟨.recursionError, "maximum recursion depth exceeded"⟩
  | .error .digits => .error ⟨.valueError, runtime.digitsMessage text⟩

/-- `except (OSError, json.JSONDecodeError)`. -/
def caughtByReading (kind : PyException) : Bool := kind = .osError || kind = .jsonDecodeError

/-- `isinstance(raw_metadata, dict)`. -/
def asObject : Json → Except PyError (List (Text × Json))
  | .object members => .ok members
  | _ => .error ⟨.artifactError, "MODEL_METADATA_INVALID"⟩

/-- `except` of the classes that unpickling is known to raise. -/
def caughtByUnpickling (kind : PyException) : Bool :=
  kind ∈ [.osError, .keyError, .typeError, .eofError, .attributeError, .importError,
    .unpicklingError] || kind.isValueError

/-- The three entries of the payload. -/
structure Payload (P : Type) where
  estimator : P
  referenceScores : NdArray
  quantiles : P

def readPayload (bytes : List UInt8) : Except PyError (Payload P) := do
  let payload ← runtime.unpickle bytes
  let estimator ← runtime.item payload "estimator"
  let referenceScores ← runtime.item payload "reference_scores" >>= runtime.floatArray
  let quantiles ← runtime.item payload "feature_quantiles"
  return ⟨estimator, referenceScores, quantiles⟩

/-- The estimator and the dictionary, where the payload has them and enough scores. -/
def checkPayload (payload : Payload P) : Except PyError (Estimator × List (P × P)) :=
  match runtime.isolationForest payload.estimator, runtime.dictItems payload.quantiles with
  | some estimator, some items =>
      if payload.referenceScores.items.length < 20 then
        .error ⟨.artifactError, "MODEL_ARTIFACT_INVALID"⟩
      else
        .ok (estimator, items)
  | _, _ => .error ⟨.artifactError, "MODEL_ARTIFACT_INVALID"⟩

/-- `set(quantiles) == set(FEATURE_NAMES)`. -/
def hasFeatureKeys (items : List (P × P)) : Bool :=
  items.all (fun item => (runtime.keyText item.1).any (· ∈ featureNames)) &&
    featureNames.all fun name => items.any fun item => runtime.keyText item.1 = some name

/-- `tuple(float(value) for value in values)` and the checks on it. -/
def parseQuantiles (values : P) : Except PyError Quantiles := do
  let parsed ← runtime.iterate values >>= (·.mapM runtime.toFloat)
  match parsed with
  | [low, median, high] =>
      if parsed.all FloatNumber.isFinite then .ok ⟨low, median, high⟩
      else .error ⟨.artifactError, "MODEL_ARTIFACT_INVALID"⟩
  | _ => .error ⟨.artifactError, "MODEL_ARTIFACT_INVALID"⟩

/-- The loop that fills `parsed_quantiles`. -/
def parseItems (items : List (P × P)) : Except PyError (List (String × Quantiles)) :=
  items.mapM fun (key, values) => do
    let quantiles ← parseQuantiles runtime values
    return ((runtime.keyText key).getD "", quantiles)

def loadMetadata (directory : ArtifactDirectory) : Except PyError ModelMetadata := do
  let raw ← recast caughtByReading "MODEL_METADATA_UNREADABLE"
    (directory.metadata >>= readUtf8 runtime >>= loadsText runtime)
  let members ← asObject raw
  let metadata ← fromDict runtime members
  demand (schemaMatches metadata) "MODEL_FEATURE_SCHEMA_MISMATCH"
  demand (metadata.sklearnVersion = runtime.sklearnVersion) "MODEL_LIBRARY_VERSION_MISMATCH"
  return metadata

/-- `load_bundle`. -/
def loadBundle (directory : ArtifactDirectory) : Except PyError ModelBundle := do
  let metadata ← loadMetadata runtime directory
  let bytes ← recast (· = .osError) "MODEL_ARTIFACT_UNREADABLE" directory.artifact
  demand (codes "sha256:" ++ runtime.sha256 bytes = metadata.artifactChecksum)
    "MODEL_ARTIFACT_CHECKSUM_MISMATCH"
  let payload ← recast caughtByUnpickling "MODEL_ARTIFACT_INVALID" (readPayload runtime bytes)
  let (estimator, items) ← checkPayload runtime payload
  demand (payload.referenceScores.items.all FloatNumber.isFinite && hasFeatureKeys runtime items)
    "MODEL_ARTIFACT_INVALID"
  let featureQuantiles ← parseItems runtime items
  return ⟨estimator, payload.referenceScores, featureQuantiles, metadata⟩

/-- `created_at.replace("Z", "+00:00")`. -/
def replaceZ (text : Text) : Text := text.flatMap fun code => if code = 90 then codes "+00:00" else [code]

def modelIsStale (metadata : ModelMetadata) (now : Int) (maximumAgeDays : Nat) :
    Except PyError Bool := do
  let created ← runtime.readInstant (replaceZ metadata.createdAt)
  return now - created > maximumAgeDays * 86400000000

end Load

end IiotMonitoring.AnomalyWorker
