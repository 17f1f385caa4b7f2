import IiotMonitoring.Lib.Exceptions
import IiotMonitoring.Worker.Worker

/-!
# What a loaded model is

A bundle that is loaded has the expected schema and all quantiles, so that scoring with it can only
raise in the estimator and at the reference scores.
-/

namespace IiotMonitoring.AnomalyWorker

@[simp]
theorem demand_ok {condition : Bool} {code : String} :
    demand condition code = .ok () ↔ condition = true := by
  cases condition with
  | false =>
      constructor
      · intro h
        cases h
      · intro h
        cases h
  | true => exact ⟨fun _ => rfl, fun _ => rfl⟩

theorem bind_demand {α : Type} {condition : Bool} {code : String} {next : Unit → Except PyError α}
    {result : α} :
    demand condition code >>= next = .ok result ↔ condition = true ∧ next () = .ok result := by
  rw [bind_eq_ok]
  constructor
  · rintro ⟨done, hcondition, hnext⟩
    exact ⟨demand_ok.mp hcondition, hnext⟩
  · exact fun h => ⟨(), demand_ok.mpr h.1, h.2⟩

theorem recast_ok {α : Type} {caught : PyException → Bool} {message : String}
    {attempt : Except PyError α} {value : α} :
    recast caught message attempt = .ok value ↔ attempt = .ok value := by
  cases attempt with
  | error error =>
      constructor
      · intro h
        cases h
      · intro h
        cases h
  | ok value' => exact Iff.rfl

section Bundle

variable {P : Type} {runtime : Runtime P}

theorem loadMetadata_schema {directory : ArtifactDirectory} {metadata : ModelMetadata}
    (h : loadMetadata runtime directory = .ok metadata) : schemaMatches metadata = true := by
  obtain ⟨raw, -, h⟩ := bind_eq_ok.mp h
  obtain ⟨members, -, h⟩ := bind_eq_ok.mp h
  obtain ⟨read, -, h⟩ := bind_eq_ok.mp h
  obtain ⟨hschema, h⟩ := bind_demand.mp h
  obtain ⟨-, hlast⟩ := bind_demand.mp h
  cases hlast
  exact hschema

/-- Every key with a name gets its quantiles. -/
theorem parseItems_lookup {items : List (P × P)} {parsed : List (String × Quantiles)}
    (h : parseItems runtime items = .ok parsed) {item : P × P} (hitem : item ∈ items) {name : String}
    (hname : runtime.keyText item.1 = some name) : (parsed.lookup name).isSome := by
  have hresults := mapM_results h
  rw [List.lookup_isSome_iff]
  clear h
  induction hresults with
  | nil => cases hitem
  | cons hhead hrest ih =>
      rcases List.mem_cons.mp hitem with rfl | hlater
      · obtain ⟨quantiles, -, hparsed⟩ := bind_eq_ok.mp hhead
        cases hparsed
        exact ⟨_, List.mem_cons_self, by rw [hname]; exact BEq.rfl⟩
      · obtain ⟨entry, hentry, hsame⟩ := ih hlater
        exact ⟨entry, List.mem_cons_of_mem _ hentry, hsame⟩

/-- What `load_bundle` has checked. -/
structure ModelBundle.Checked (bundle : ModelBundle) : Prop where
  schema : schemaMatches bundle.metadata = true
  quantiles : ∀ name ∈ featureNames, ∃ quantiles, bundle.quantiles name = .ok quantiles

/-- What of the bundle is an object of the payload. -/
structure ModelBundle.Unpickled (runtime : Runtime P) (bundle : ModelBundle) : Prop where
  estimator : ∃ object, runtime.isolationForest object = some bundle.estimator
  referenceScores : ∃ object, runtime.floatArray object = .ok bundle.referenceScores

theorem readPayload_scores {bytes : List UInt8} {payload : Payload P}
    (h : readPayload runtime bytes = .ok payload) :
    ∃ object, runtime.floatArray object = .ok payload.referenceScores := by
  obtain ⟨read, -, h⟩ := bind_eq_ok.mp h
  obtain ⟨estimator, -, h⟩ := bind_eq_ok.mp h
  obtain ⟨scores, hscores, h⟩ := bind_eq_ok.mp h
  obtain ⟨object, -, harray⟩ := bind_eq_ok.mp hscores
  obtain ⟨quantiles, -, hlast⟩ := bind_eq_ok.mp h
  cases hlast
  exact ⟨object, harray⟩

theorem checkPayload_estimator {payload : Payload P} {estimator : Estimator} {items : List (P × P)}
    (h : checkPayload runtime payload = .ok (estimator, items)) :
    runtime.isolationForest payload.estimator = some estimator := by
  rw [checkPayload] at h
  split at h
  · rename_i hforest _
    split at h
    · cases h
    · cases h
      exact hforest
  · cases h

theorem loadBundle_checked {directory : ArtifactDirectory} {bundle : ModelBundle}
    (h : loadBundle runtime directory = .ok bundle) :
    bundle.Checked ∧ bundle.Unpickled runtime := by
  obtain ⟨metadata, hmetadata, h⟩ := bind_eq_ok.mp h
  obtain ⟨bytes, -, h⟩ := bind_eq_ok.mp h
  obtain ⟨-, h⟩ := bind_demand.mp h
  obtain ⟨payload, hpayload, h⟩ := bind_eq_ok.mp h
  obtain ⟨⟨estimator, items⟩, hforest, h⟩ := bind_eq_ok.mp h
  obtain ⟨hkeys, h⟩ := bind_demand.mp h
  obtain ⟨parsed, hparsed, hlast⟩ := bind_eq_ok.mp h
  cases hlast
  refine ⟨⟨loadMetadata_schema hmetadata, ?_⟩, ⟨_, checkPayload_estimator hforest⟩,
    readPayload_scores (recast_ok.mp hpayload)⟩
  intro name hname
  have hfeatures := (Bool.and_eq_true_iff.mp hkeys).2
  rw [hasFeatureKeys, Bool.and_eq_true, List.all_eq_true, List.all_eq_true] at hfeatures
  obtain ⟨item, hitem, hkey⟩ := List.any_eq_true.mp (hfeatures.2 name hname)
  have hsome := parseItems_lookup hparsed hitem (of_decide_eq_true hkey)
  obtain ⟨quantiles, hquantiles⟩ := Option.isSome_iff_exists.mp hsome
  refine ⟨quantiles, ?_⟩
  rw [ModelBundle.quantiles]
  dsimp only
  rw [hquantiles]

theorem currentBundle_checked {settings : Settings} {registry : AnomalyModel} {deviceId : String}
    {now : Int} {bundle : ModelBundle}
    (h : currentBundle runtime settings registry deviceId now = .ok (some bundle)) :
    bundle.Checked ∧ bundle.Unpickled runtime := by
  obtain ⟨directory, -, h⟩ := bind_eq_ok.mp h
  obtain ⟨loaded, hloaded, h⟩ := bind_eq_ok.mp h
  obtain ⟨-, h⟩ := bind_demand.mp h
  obtain ⟨-, h⟩ := bind_demand.mp h
  obtain ⟨stale, -, hlast⟩ := bind_eq_ok.mp h
  cases stale with
  | true => cases hlast
  | false =>
      cases hlast
      exact loadBundle_checked hloaded

end Bundle

/-! ### Scoring with it -/

section Score

variable (math : FloatMath) {bundle : ModelBundle}

/-- The reference scores are an array of one dimension. -/
def ModelBundle.Flat (bundle : ModelBundle) : Prop := bundle.referenceScores.shape.length = 1

theorem percentile_flat {reference : NdArray} (hflat : reference.shape.length = 1)
    (score : PyFloat) : ∃ place, percentile math reference score = .ok place :=
  ⟨_, if_neg (not_not.mpr hflat)⟩

theorem anomalyReason_succeeds (hchecked : bundle.Checked) (row : FeatureRow) (anomalous : Bool) :
    ∃ reason, anomalyReason math row bundle anomalous = .ok reason := by
  rw [anomalyReason]
  have hevidence : ∃ evidence, (featureNames.zip (row.values.zip featureLabels)).mapM
      (fun entry => do
        let quantiles ← bundle.quantiles entry.1
        return featureEvidence math entry.2.1 quantiles entry.2.2.1 entry.2.2.2) = .ok evidence := by
    apply mapM_succeeds
    intro entry hentry
    obtain ⟨quantiles, hquantiles⟩ := hchecked.quantiles entry.1 (List.of_mem_zip hentry).1
    rw [hquantiles]
    exact ⟨_, rfl⟩
  obtain ⟨evidence, hevidence⟩ := hevidence
  exact ⟨_, bind_eq_ok.mpr ⟨evidence, hevidence, rfl⟩⟩

theorem scoreRow_succeeds (hchecked : bundle.Checked) (hflat : bundle.Flat) (row : FeatureRow)
    (score : PyFloat) (prediction : Int) :
    ∃ result, scoreRow math bundle row score prediction = .ok result := by
  obtain ⟨place, hplace⟩ := percentile_flat math hflat score
  rw [scoreRow, hplace, ok_bind]
  obtain ⟨reason, hreason⟩ := anomalyReason_succeeds math hchecked row
    (prediction = -1 || place.atLeast 99)
  exact ⟨_, bind_eq_ok.mpr ⟨reason, hreason, rfl⟩⟩

/-- The estimator answers one score and one prediction for each row of the matrix. -/
structure Estimator.Answers (estimator : Estimator) (matrix : List (List PyFloat)) : Prop where
  scores : ∃ scores, estimator.scoreSamples matrix = .ok scores ∧ scores.length = matrix.length
  predictions : ∃ predictions, estimator.predict matrix = .ok predictions ∧
    predictions.length = matrix.length

theorem scoreRows_succeeds (hchecked : bundle.Checked) {rows : List FeatureRow}
    (hflat : rows ≠ [] → bundle.Flat)
    (hanswers : rows ≠ [] → bundle.estimator.Answers (rows.map (·.values))) :
    ∃ results, scoreRows math bundle rows = .ok results := by
  rw [scoreRows, hchecked.schema]
  by_cases hrows : rows = []
  · rw [hrows]
    exact ⟨[], rfl⟩
  · obtain ⟨⟨scores, hscores, hcount⟩, predictions, hpredictions, hcount'⟩ := hanswers hrows
    rw [List.length_map] at hcount hcount'
    obtain ⟨results, hresults⟩ := @mapM_succeeds _ _ _
      (fun entry => scoreRow math bundle entry.1 entry.2.1 entry.2.2)
      (rows.zip ((scores.map FloatNumber.neg).zip predictions))
      fun entry _ => scoreRow_succeeds math hchecked (hflat hrows) entry.1 entry.2.1 entry.2.2
    have hsome : rows.isEmpty = false := List.isEmpty_eq_false_iff.mpr hrows
    rw [hsome, hscores, hpredictions, ok_bind, ok_bind]
    refine ⟨results, bind_eq_ok.mpr ⟨results, hresults, ?_⟩⟩
    simp [strictly, hcount, hcount']

end Score

/-! ### The outcome of loading -/

section Loaded

variable {P : Type} {runtime : Runtime P} {settings : Settings} {models : List AnomalyModel}
  {deviceId : String} {now : Int} {loaded : Loaded}

theorem loadReadyBundle_nil :
    loadReadyBundle runtime settings [] deviceId now = .ok .notRegistered := by
  have hnone : latestRegistry [] deviceId = none := by
    rw [latestRegistry, List.filter_nil, List.mergeSort_nil]
    rfl
  rw [loadReadyBundle, hnone]

/-- The outcomes of loading, by what the body of the `try` statement did. -/
theorem loadReadyBundle_cases (h : loadReadyBundle runtime settings models deviceId now = .ok loaded) :
    (latestRegistry models deviceId = none ∧ loaded = .notRegistered) ∨
      ∃ registry, latestRegistry models deviceId = some registry ∧
        ((∃ bundle, currentBundle runtime settings registry deviceId now = .ok (some bundle) ∧
            loaded = .ready { registry with status := "ready", diagnostic := none } bundle) ∨
          (∀ bundle, currentBundle runtime settings registry deviceId now ≠ .ok (some bundle)) ∧
            ∃ status code diagnostic, (status = "stale" ∨ status = "error") ∧
              loaded = .unusable { registry with status, diagnostic } code) := by
  rw [loadReadyBundle] at h
  cases hregistry : latestRegistry models deviceId with
  | none =>
      rw [hregistry] at h
      cases h
      exact .inl ⟨rfl, rfl⟩
  | some registry =>
      right
      refine ⟨registry, rfl, ?_⟩
      rw [hregistry] at h
      dsimp only at h
      cases hbundle : currentBundle runtime settings registry deviceId now with
      | ok found =>
          rw [hbundle] at h
          cases found with
          | none =>
              cases h
              exact .inr ⟨fun _ hsome => (by cases hsome), _, _, _, .inl rfl, rfl⟩
          | some bundle =>
              cases h
              exact .inl ⟨bundle, rfl, rfl⟩
      | error error =>
          rw [hbundle] at h
          dsimp only at h
          split at h
          · cases h
            exact .inr ⟨fun _ hsome => (by cases hsome), _, _, _, .inr rfl, rfl⟩
          · cases h

end Loaded

/-! ### A model that loads -/

/-- Objects as Joblib unpickles them. -/
inductive DemoObject where
  | text (value : String)
  | number (value : PyFloat)
  | list (items : List DemoObject)
  | dict (entries : List (DemoObject × DemoObject))
  | forest

def DemoObject.number? : DemoObject → Option PyFloat
  | number value => some value
  | _ => none

/-- The estimator that scores a row by its first feature. -/
def demoEstimator : Estimator where
  scoreSamples := fun matrix => .ok (matrix.map fun values => (values.headD (.finite 0)).neg)
  predict := fun matrix => .ok (matrix.map fun _ => 1)

def demoPayload : DemoObject :=
  .dict
    [(.text "estimator", .forest),
      (.text "reference_scores", .list (List.replicate 20 (.number (.finite 40)))),
      (.text "feature_quantiles", .dict (featureNames.map fun name =>
        (.text name, .list [.number (.finite 0), .number (.finite 50), .number (.finite 100)])))]

def demoRuntime : Runtime DemoObject where
  limits := ⟨1000, 4300⟩
  unicodeMessage := fun _ => "'utf-8' codec can't decode byte"
  digitsMessage := fun _ => "Exceeds the limit (4300 digits)"
  repr := fun value => .ok value.print
  readInt := fun _ => none
  readFloat := fun _ => none
  round := id
  readInstant := fun _ => .ok 1786406400000000
  sha256 := fun _ => codes "5d41"
  sklearnVersion := codes "1.7.2"
  unpickle := fun _ => .ok demoPayload
  item := fun object key =>
    match object with
    | .dict entries =>
        match entries.find? fun entry => match entry.1 with
          | .text text => text = key
          | _ => false with
        | some entry => .ok entry.2
        | none => .error ⟨.keyError, key⟩
    | _ => .error ⟨.typeError, "object is not subscriptable"⟩
  floatArray := fun object =>
    match object with
    | .list items => .ok ⟨[items.length], items.filterMap DemoObject.number?⟩
    | _ => .error ⟨.typeError, "float() argument"⟩
  isolationForest := fun object =>
    match object with
    | .forest => some demoEstimator
    | _ => none
  dictItems := fun object =>
    match object with
    | .dict entries => some entries
    | _ => none
  keyText := fun object =>
    match object with
    | .text text => some text
    | _ => none
  iterate := fun object =>
    match object with
    | .list items => .ok items
    | _ => .error ⟨.typeError, "object is not iterable"⟩
  toFloat := fun object =>
    match object with
    | .number value => .ok value
    | _ => .error ⟨.typeError, "float() argument"⟩

def jsonText (value : String) : Json := .string (codes value)

def demoMetadata (trainingSampleCount : Json) : Json :=
  .object
    [(codes "device_id", jsonText "motor-01"),
      (codes "asset_class", jsonText "dc-motor"),
      (codes "model_version", jsonText "iforest-v1-0a"),
      (codes "feature_schema_version", .number (.ofNat 1)),
      (codes "feature_names", .array (featureNames.map jsonText)),
      (codes "training_start", jsonText "2026-08-10T08:00:00Z"),
      (codes "training_end", jsonText "2026-08-10T09:00:00Z"),
      (codes "training_sample_count", trainingSampleCount),
      (codes "validation_sample_count", .number (.ofNat 40)),
      (codes "contamination", .number ⟨false, 0, some ⟨(Fin.last 9).rev, [Fin.last 9]⟩, none⟩),
      (codes "random_seed", .number (.ofNat 20260811)),
      (codes "sklearn_version", jsonText "1.7.2"),
      (codes "created_at", jsonText "2026-08-11T00:00:00Z"),
      (codes "score_direction", jsonText "higher_is_more_anomalous; not a probability"),
      (codes "baseline_policy", jsonText "quality=good"),
      (codes "artifact_checksum", jsonText "sha256:5d41")]

def demoSettings (trainingSampleCount : Json) : Settings where
  files :=
    { root := ["models"]
      resolve := fun path => .ok ["models", path]
      directory := fun _ =>
        { metadata := .ok (plainBytes (demoMetadata trainingSampleCount).print)
          artifact := .ok [] } }
  modelStaleAfterDays := 30

def demoModel : AnomalyModel where
  id := 1
  deviceId := "motor-01"
  modelVersion := "iforest-v1-0a"
  status := "ready"
  artifactPath := "motor-01"
  artifactChecksum := "sha256:5d41"
  createdAt := 0
  lastScoredAt := none
  diagnostic := none

/-- Arithmetic without rounding. -/
def demoMath : FloatMath where
  round := id
  add := lift (· + ·)
  sub := lift (· - ·)
  mul := lift (· * ·)
  div := lift (· / ·)
  mean := fun values => lift (· / ·) (values.foldl (lift (· + ·)) (.finite 0)) (.finite values.length)
  -- the readings below do not vary
  std := fun _ => .finite 0
  pstdev := fun _ => .finite 0
  maximum := fun values => values.foldl FloatNumber.larger (.finite 0)
  dot := fun left right => (List.zipWith (lift (· * ·)) left right).foldl (lift (· + ·)) (.finite 0)
  threeDigits := fun _ => "50"
  general := fun _ => "50"
  oneDecimal := fun _ => "50.0"
where
  lift (op : ℚ → ℚ → ℚ) : PyFloat → PyFloat → PyFloat
    | .finite left, .finite right => .finite (op left right)
    | _, _ => .nan

theorem demo_ready : ((loadReadyBundle demoRuntime (demoSettings (.number (.ofNat 200))) [demoModel]
    "motor-01" 1786406400000001).toOption.map Loaded.isReady) = some true := by
  decide +kernel

theorem demoEstimator_answers (matrix : List (List PyFloat)) : demoEstimator.Answers matrix :=
  ⟨⟨_, rfl, List.length_map _⟩, ⟨_, rfl, List.length_map _⟩⟩

theorem demo_unpickled {bundle : ModelBundle} (h : bundle.Unpickled demoRuntime) :
    bundle.estimator = demoEstimator ∧ bundle.Flat := by
  constructor
  · obtain ⟨object, hobject⟩ := h.estimator
    cases object with
    | forest => exact (Option.some.inj hobject).symm
    | text value => cases hobject
    | number value => cases hobject
    | list items => cases hobject
    | dict entries => cases hobject
  · obtain ⟨object, hobject⟩ := h.referenceScores
    cases object with
    | list items =>
        rw [ModelBundle.Flat, ← Except.ok.inj hobject]
        rfl
    | text value => cases hobject
    | number value => cases hobject
    | forest => cases hobject
    | dict entries => cases hobject

end IiotMonitoring.AnomalyWorker
