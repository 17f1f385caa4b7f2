import IiotMonitoring.Proof.ContractFields
import IiotMonitoring.Proof.MetadataFile

/-!
# What training saves

A bundle that training returns is loaded again from the files that `save_bundle` leaves, with the
checksum of its artifact, and its registry entry leads to them.
-/

namespace IiotMonitoring.AnomalyWorker

/-! ### What training returns -/

section Train

variable {math : FloatMath} {options : WindowOptions}

theorem bind_require {α : Type} {condition : Bool} {message : String} {next : Unit → Except PyError α}
    {result : α} :
    require condition message >>= next = .ok result ↔ condition = true ∧ next () = .ok result := by
  rw [bind_eq_ok]
  cases condition with
  | false =>
      constructor
      · rintro ⟨done, hraised, -⟩
        cases hraised
      · rintro ⟨hfalse, -⟩
        cases hfalse
  | true => exact ⟨fun ⟨_, _, hnext⟩ => ⟨rfl, hnext⟩, fun h => ⟨(), rfl, h.2⟩⟩

theorem featureRow_values {segment : List TelemetrySample} {sample : TelemetrySample} {row : FeatureRow}
    (h : featureRow math options segment sample = some row) :
    row.values.length = featureNames.length ∧ row.values.all FloatNumber.isFinite = true := by
  rw [featureRow] at h
  split_ifs at h with hshort hhealthy
  obtain ⟨hfinite, rfl⟩ := Option.ite_some_none_eq_some.mp h
  exact ⟨rfl, hfinite⟩

theorem featureRows_values {state : FeatureState} {samples : List TelemetrySample} {row : FeatureRow}
    (h : row ∈ featureRows math options state samples) :
    row.values.length = featureNames.length ∧ row.values.all FloatNumber.isFinite = true := by
  induction samples generalizing state with
  | nil => cases h
  | cons sample rest ih =>
      rw [featureRows, List.mem_append, Option.mem_toList] at h
      cases h with
      | inl hhead => exact featureRow_values hhead
      | inr hrest => exact ih hrest

theorem length_featureRows_le (state : FeatureState) (samples : List TelemetrySample) :
    (featureRows math options state samples).length ≤ samples.length := by
  induction samples generalizing state with
  | nil => exact Nat.le_refl 0
  | cons sample rest ih =>
      have hrest := ih (state.push math options sample)
      have hhead : (featureRow math options (state.push math options sample).segment
          sample).toList.length ≤ 1 := Option.length_toList_le
      rw [featureRows, List.length_append, List.length_cons]
      omega

variable {P : Type} {runtime : Runtime P} {samples : List TelemetrySample} {request : TrainingRequest}
  {training validation : List (List PyFloat)}

/-- The gates of training. -/
theorem trainingMatrices_cases
    (h : trainingMatrices math runtime samples request = .ok (training, validation)) :
    request.contamination.atLeast (runtime.round (1 / 1000)) = true ∧
      request.contamination.atMost (runtime.round (1 / 5)) = true ∧
      20 ≤ validation.length ∧ training.length + validation.length ≤ samples.length ∧
      ∀ values ∈ training, values.length = featureNames.length ∧
        values.all FloatNumber.isFinite = true := by
  rw [trainingMatrices, bind_require] at h
  obtain ⟨-, h⟩ := h
  rw [bind_require, Bool.and_eq_true] at h
  obtain ⟨⟨hlow, hhigh⟩, h⟩ := h
  dsimp only at h
  rw [bind_require, bind_eq_ok] at h
  obtain ⟨-, split, -, h⟩ := h
  rw [bind_require, decide_eq_true_eq] at h
  obtain ⟨henough, h⟩ := h
  cases h
  have hrows := @length_featureRows_le math .healthy ⟨[], none⟩
    ((samples.filter fun item =>
      request.baselineStart ≤ item.timestamp && item.timestamp ≤ request.baselineEnd).mergeSort
        TelemetrySample.before)
  rw [List.length_mergeSort] at hrows
  have hselected := List.length_filter_le (fun item : TelemetrySample =>
    request.baselineStart ≤ item.timestamp && item.timestamp ≤ request.baselineEnd) samples
  rw [generateFeatures] at henough ⊢
  refine ⟨hlow, hhigh, ?_, ?_, ?_⟩
  · rw [List.length_map, List.length_drop]
    omega
  · rw [List.length_map, List.length_map, List.length_take, List.length_drop]
    omega
  · intro values hvalues
    obtain ⟨row, hrow, rfl⟩ := List.mem_map.mp hvalues
    exact featureRows_values (List.mem_of_mem_take hrow)

theorem trainModel_cases {trainer : Trainer} {bundle : ModelBundle}
    (h : trainModel math runtime trainer samples request = .ok bundle) :
    ∃ training validation estimator scores,
      trainingMatrices math runtime samples request = .ok (training, validation) ∧
      trainer.fit request.contamination request.randomSeed training = .ok estimator ∧
      estimator.scoreSamples validation = .ok scores ∧
      bundle = {
        estimator := estimator
        referenceScores := ⟨[scores.length], scores.map FloatNumber.neg⟩
        featureQuantiles := trainedQuantiles trainer training
        metadata := trainedMetadata runtime trainer request training.length validation.length } := by
  obtain ⟨⟨training, validation⟩, hmatrices, h⟩ := bind_eq_ok.mp h
  obtain ⟨estimator, hfit, h⟩ := bind_eq_ok.mp h
  obtain ⟨scores, hscores, h⟩ := bind_eq_ok.mp h
  cases h
  exact ⟨training, validation, estimator, scores, hmatrices, hfit, hscores, rfl⟩

end Train

/-! ### What the packages promise -/

/-- A lower-case hexadecimal digit. -/
def isHexDigit (code : Nat) : Prop := (48 ≤ code ∧ code ≤ 57) ∨ (97 ≤ code ∧ code ≤ 102)

/-- What training relies on: an estimator is fitted to some rows and scores every row with a number,
quantiles of numbers are numbers, a digest is in hexadecimal, and short documents can be read. -/
structure Trainer.Documented {P : Type} (trainer : Trainer) (runtime : Runtime P) : Prop where
  fit_rows : ∀ contamination seed matrix estimator,
    trainer.fit contamination seed matrix = .ok estimator → matrix ≠ []
  scores : ∀ contamination seed matrix estimator rows scores,
    trainer.fit contamination seed matrix = .ok estimator → estimator.scoreSamples rows = .ok scores →
      scores.length = rows.length ∧ scores.all FloatNumber.isFinite = true
  quantiles : ∀ column : List PyFloat, column ≠ [] → column.all FloatNumber.isFinite = true →
    (trainer.quantiles column).low.isFinite = true ∧ (trainer.quantiles column).median.isFinite = true ∧
      (trainer.quantiles column).high.isFinite = true
  hexdigest : ∀ bytes, ∀ code ∈ runtime.sha256 bytes, isHexDigit code
  sklearnVersion : isUnicode runtime.sklearnVersion = true
  nesting : 2 ≤ runtime.limits.nesting
  digits : 8 ≤ runtime.limits.digits

/-- `joblib.load` gives back the payload that was dumped. -/
structure Runtime.Restores {P : Type} (runtime : Runtime P) (bytes : List UInt8) (bundle : ModelBundle) :
    Prop where
  payload : ∃ payload estimator scores quantiles items, runtime.unpickle bytes = .ok payload ∧
    runtime.item payload "estimator" = .ok estimator ∧
    runtime.item payload "reference_scores" = .ok scores ∧
    runtime.item payload "feature_quantiles" = .ok quantiles ∧
    runtime.isolationForest estimator = some bundle.estimator ∧
    runtime.floatArray scores = .ok bundle.referenceScores ∧ runtime.dictItems quantiles = some items ∧
    List.Forall₂ (fun item (entry : String × Quantiles) =>
      runtime.keyText item.1 = some entry.1 ∧ ∃ values, runtime.iterate item.2 = .ok values ∧
        values.mapM runtime.toFloat = .ok [entry.2.low, entry.2.median, entry.2.high])
      items bundle.featureQuantiles

namespace Training

variable {P : Type} (training : Training P)

/-- `joblib.dump` of a bundle. -/
def dumped (bundle : ModelBundle) : List UInt8 :=
  training.trainer.dump bundle.estimator bundle.referenceScores bundle.featureQuantiles

/-- The instant is read back from its text. -/
def ReadsBack (instant : Int) : Prop := training.parseUtc (codes (isoformat instant)) = .ok instant

/-- A call for a device whose id is an identifier, whose values are read back from their texts. -/
structure Fits (call : TrainingCall) : Prop where
  identifier : identifierPattern (codes call.deviceId) = true
  device : ∀ device, call.devices call.deviceId = some device → device.id = call.deviceId
  rows : call.rows.length < 10 ^ training.runtime.limits.digits
  start : training.ReadsBack call.baselineStart
  finish : training.ReadsBack call.baselineEnd
  now : training.ReadsBack call.now
  contamination : ∀ value, call.contamination = .finite value →
    training.trainer.Prints training.runtime value
  restores : ∀ bundle, training.train call = .ok bundle →
    training.runtime.Restores (training.dumped bundle) bundle

/-- The version of a call's model. -/
def version (call : TrainingCall) : String :=
  pathPart (modelVersion training.runtime training.trainer call.deviceId call.baselineStart
    call.baselineEnd call.contamination defaultRandomSeed)

/-- The bundle as `save_bundle` returns it. -/
def saved (bundle : ModelBundle) : ModelBundle :=
  { bundle with
    metadata := { bundle.metadata with
      artifactChecksum := codes "sha256:" ++ training.runtime.sha256 (training.dumped bundle) } }

/-- The files that `save_bundle` leaves. -/
def savedFiles (bundle : ModelBundle) (name : String) : Option (List UInt8) :=
  if name = "metadata.json" then
    some (plainBytes (metadataText training.trainer (training.saved bundle).metadata))
  else if name = "model.joblib" then
    some (training.dumped bundle)
  else
    none

variable {training} {call : TrainingCall} {bundle : ModelBundle}

theorem isUnicode_hex {text : Text} (h : ∀ code ∈ text, isHexDigit code) : isUnicode text = true := by
  unfold isUnicode
  rw [List.all_eq_true]
  intro code hcode
  rw [decide_eq_true_eq, Nat.isValidChar]
  have hdigit := h code hcode
  unfold isHexDigit at hdigit
  omega

theorem isUnicode_append {left right : Text} (hleft : isUnicode left = true)
    (hright : isUnicode right = true) : isUnicode (left ++ right) = true := by
  unfold isUnicode at *
  rw [List.all_append, hleft, hright, Bool.and_self]

theorem codes_pathPart {text : Text} (h : isUnicode text = true) : codes (pathPart text) = text :=
  codes_ofList h

theorem pathPart_codes (part : String) : pathPart (codes part) = part :=
  codes_injective (codes_pathPart (isUnicode_codes part))

theorem isUnicode_version (hdocumented : training.trainer.Documented training.runtime)
    (deviceId : String) (start finish : Int) (contamination : PyFloat) (seed : Int) :
    isUnicode (modelVersion training.runtime training.trainer deviceId start finish contamination
      seed) = true :=
  isUnicode_append (isUnicode_codes _)
    (isUnicode_hex fun code hcode => hdocumented.hexdigest _ code (List.mem_of_mem_take hcode))

/-! ### Loading it again -/

/-- A call that trains, by the parts of its bundle. -/
structure Trained (training : Training P) (call : TrainingCall) (bundle : ModelBundle) where
  device : Device
  matrix : List (List PyFloat)
  validation : List (List PyFloat)
  scores : List PyFloat
  hid : device.id = call.deviceId
  hlow : call.contamination.atLeast (training.runtime.round (1 / 1000)) = true
  hhigh : call.contamination.atMost (training.runtime.round (1 / 5)) = true
  hvalidation : 20 ≤ validation.length
  hcount : matrix.length + validation.length ≤ call.rows.length
  hvalues : ∀ values ∈ matrix, values.length = featureNames.length ∧
    values.all FloatNumber.isFinite = true
  hfit : training.trainer.fit call.contamination defaultRandomSeed matrix = .ok bundle.estimator
  hscores : bundle.estimator.scoreSamples validation = .ok scores
  hreference : bundle.referenceScores = ⟨[scores.length], scores.map FloatNumber.neg⟩
  hquantiles : bundle.featureQuantiles = trainedQuantiles training.trainer matrix
  hmetadata : bundle.metadata = trainedMetadata training.runtime training.trainer
    (training.request call device) matrix.length validation.length

theorem train_cases (hfits : training.Fits call) (h : training.train call = .ok bundle) :
    Nonempty (Trained training call bundle) := by
  rw [train] at h
  cases hdevice : call.devices call.deviceId with
  | none =>
      rw [hdevice] at h
      cases h
  | some device =>
      rw [hdevice] at h
      obtain ⟨matrix, validation, estimator, scores, hmatrices, hfit, hscores, rfl⟩ := trainModel_cases h
      obtain ⟨hlow, hhigh, hvalidation, hcount, hvalues⟩ := trainingMatrices_cases hmatrices
      have hrows : (telemetry call).length ≤ call.rows.length := by
        rw [telemetry, List.length_mergeSort]
        exact List.length_filter_le _ call.rows
      rw [List.length_map] at hcount
      exact ⟨{
        device, matrix, validation, scores, hlow, hhigh, hvalidation, hvalues, hfit, hscores
        hid := hfits.device device hdevice
        hcount := hcount.trans hrows
        hreference := rfl
        hquantiles := rfl
        hmetadata := rfl }⟩

namespace Trained

variable (htrained : Trained training call bundle)
  (hdocumented : training.trainer.Documented training.runtime) (hfits : training.Fits call)

include htrained

theorem deviceId_eq : bundle.metadata.deviceId = codes call.deviceId := by
  rw [htrained.hmetadata, ← htrained.hid]
  rfl

theorem hasFeatureKeys_restored {items : List (P × P)}
    (hitems : List.Forall₂ (fun item (entry : String × Quantiles) =>
      training.runtime.keyText item.1 = some entry.1) items bundle.featureQuantiles) :
    hasFeatureKeys training.runtime items = true := by
  have hnames : bundle.featureQuantiles.map Prod.fst = featureNames := by
    rw [htrained.hquantiles, trainedQuantiles, List.map_map]
    rfl
  have hkeys : items.map (fun item => training.runtime.keyText item.1) = featureNames.map some := by
    rw [← hnames, List.map_map]
    exact List.forall₂_eq_eq_eq ▸ List.forall₂_map_left_iff.mpr (List.forall₂_map_right_iff.mpr hitems)
  rw [hasFeatureKeys, Bool.and_eq_true, List.all_eq_true, List.all_eq_true]
  constructor
  · intro item hitem
    have hkey : training.runtime.keyText item.1 ∈ featureNames.map some :=
      hkeys ▸ List.mem_map_of_mem hitem
    obtain ⟨name, hname, hsame⟩ := List.mem_map.mp hkey
    rw [← hsame]
    exact decide_eq_true hname
  · intro name hname
    have hkey : some name ∈ items.map fun item => training.runtime.keyText item.1 :=
      hkeys ▸ List.mem_map_of_mem hname
    obtain ⟨item, hitem, hsame⟩ := List.mem_map.mp hkey
    exact List.any_eq_true.mpr ⟨item, hitem, decide_eq_true hsame⟩

include hdocumented

theorem modelVersion_eq : bundle.metadata.modelVersion = codes (training.version call) := by
  rw [htrained.hmetadata, version, codes_pathPart (isUnicode_version hdocumented ..), ← htrained.hid]
  rfl

theorem bundlePath_eq : bundlePath bundle.metadata = [call.deviceId, training.version call] := by
  rw [bundlePath, htrained.deviceId_eq, htrained.modelVersion_eq hdocumented, pathPart_codes,
    pathPart_codes]

/-- The quantiles of a trained matrix are numbers. -/
theorem quantiles_finite : ∀ entry ∈ bundle.featureQuantiles, entry.2.low.isFinite = true ∧
    entry.2.median.isFinite = true ∧ entry.2.high.isFinite = true := by
  intro entry hentry
  rw [htrained.hquantiles, trainedQuantiles] at hentry
  obtain ⟨⟨name, index⟩, hplace, rfl⟩ := List.mem_map.mp hentry
  have hindex := (List.mem_zipIdx' hplace).1
  apply hdocumented.quantiles
  · exact mt List.map_eq_nil_iff.mp (hdocumented.fit_rows _ _ _ _ htrained.hfit)
  · rw [List.all_map, List.all_eq_true]
    intro values hvalues
    obtain ⟨hlength, hfinite⟩ := htrained.hvalues values hvalues
    have hplaced : index < values.length := hlength ▸ hindex
    rw [Function.comp_apply, List.getD_eq_getElem?_getD, List.getElem?_eq_getElem hplaced]
    exact List.all_eq_true.mp hfinite _ (List.getElem_mem hplaced)

theorem scores_finite : 20 ≤ bundle.referenceScores.items.length ∧
    bundle.referenceScores.items.all FloatNumber.isFinite = true := by
  obtain ⟨hlength, hfinite⟩ := hdocumented.scores _ _ _ _ _ _ htrained.hfit htrained.hscores
  rw [htrained.hreference]
  constructor
  · rw [List.length_map, hlength]
    exact htrained.hvalidation
  · rw [List.all_map]
    refine Eq.trans ?_ hfinite
    congr 1
    funext value
    cases value <;> rfl

theorem parseItems_restored {items : List (P × P)} (hitems : List.Forall₂
      (fun item (entry : String × Quantiles) =>
        training.runtime.keyText item.1 = some entry.1 ∧
          ∃ values, training.runtime.iterate item.2 = .ok values ∧
            values.mapM training.runtime.toFloat = .ok [entry.2.low, entry.2.median, entry.2.high])
      items bundle.featureQuantiles) :
    parseItems training.runtime items = .ok bundle.featureQuantiles := by
  have hfinite := htrained.quantiles_finite hdocumented
  generalize bundle.featureQuantiles = entries at hitems hfinite
  rw [parseItems]
  induction hitems with
  | nil => rfl
  | @cons item entry items entries hhead hrest ih =>
      obtain ⟨key, object⟩ := item
      rw [List.forall_mem_cons] at hfinite
      obtain ⟨hname, values, hvalues, hfloats⟩ := hhead
      have hparsed : parseQuantiles training.runtime object = .ok entry.2 := by
        obtain ⟨hlow, hmedian, hhigh⟩ := hfinite.1
        rw [parseQuantiles, hvalues, ok_bind, hfloats, ok_bind]
        simp [hlow, hmedian, hhigh]
      rw [List.mapM_cons]
      refine bind_eq_ok.mpr ⟨entry, ?_, bind_eq_ok.mpr ⟨entries, ih hfinite.2, rfl⟩⟩
      refine bind_eq_ok.mpr ⟨entry.2, hparsed, ?_⟩
      rw [show training.runtime.keyText key = some entry.1 from hname]
      rfl

include hfits

theorem saved_writable :
    (training.saved bundle).metadata.Writable training.trainer training.runtime := by
  have hversion := isUnicode_version hdocumented htrained.device.id call.baselineStart call.baselineEnd
    call.contamination defaultRandomSeed
  have hchecksum : isUnicode (codes "sha256:" ++ training.runtime.sha256 (training.dumped bundle)) =
      true :=
    isUnicode_append (isUnicode_codes _) (isUnicode_hex (hdocumented.hexdigest _))
  have hcount := htrained.hcount
  have hrows := hfits.rows
  have hseed : 10 ^ 8 ≤ 10 ^ training.runtime.limits.digits :=
    Nat.pow_le_pow_right (show 0 < 10 by decide) hdocumented.digits
  constructor
  · rw [saved, htrained.hmetadata]
    simp only [List.forall_mem_cons]
    exact ⟨isUnicode_codes _, isUnicode_codes _, hversion, isUnicode_codes _, isUnicode_codes _,
      hdocumented.sklearnVersion, isUnicode_codes _, isUnicode_codes _, isUnicode_codes _, hchecksum,
      List.forall_mem_nil _⟩
  · rw [saved, htrained.hmetadata]
    intro name hname
    obtain ⟨name, -, rfl⟩ := List.mem_map.mp hname
    exact isUnicode_codes name
  · rw [saved, htrained.hmetadata]
    simp only [List.forall_mem_cons]
    refine ⟨?_, ?_, ?_, ?_, List.forall_mem_nil _⟩
    · exact Nat.lt_of_lt_of_le (show featureSchemaVersion.natAbs < 10 ^ 8 by decide) hseed
    · exact (Int.natAbs_natCast _).trans_lt (by omega)
    · exact (Int.natAbs_natCast _).trans_lt (by omega)
    · exact Nat.lt_of_lt_of_le (show defaultRandomSeed.natAbs < 10 ^ 8 by decide) hseed
  · have hlow := htrained.hlow
    have hhigh := htrained.hhigh
    rw [saved, htrained.hmetadata]
    show ∃ value, call.contamination = .finite value ∧ _
    cases hvalue : call.contamination with
    | finite value => exact ⟨value, rfl, hfits.contamination value hvalue⟩
    | infinity negative =>
        rw [hvalue] at hlow hhigh
        cases negative with
        | false => cases hhigh
        | true => cases hlow
    | nan =>
        rw [hvalue] at hlow
        cases hlow

theorem saved_valid : (training.saved bundle).metadata.isValid training.runtime = true := by
  have hrows : 1 ≤ htrained.matrix.length :=
    List.length_pos_iff.mpr (hdocumented.fit_rows _ _ _ _ htrained.hfit)
  have hid : call.deviceId ≠ "" := by
    intro hempty
    have hidentifier := hfits.identifier
    rw [hempty] at hidentifier
    cases hidentifier
  have hdevice : (codes htrained.device.id).isEmpty = false := by
    rw [htrained.hid, List.isEmpty_eq_false_iff]
    intro hnil
    exact hid (codes_injective hnil)
  rw [saved, htrained.hmetadata, ModelMetadata.isValid]
  simp only [trainedMetadata, request, hdevice, htrained.hlow, htrained.hhigh, Bool.not_false,
    Bool.true_and, Bool.and_true, Bool.and_eq_true]
  refine ⟨⟨⟨?_, ?_⟩, ?_⟩, ?_⟩
  · rfl
  · exact decide_eq_true (Int.ofNat_le.mpr hrows)
  · exact decide_eq_true (Int.ofNat_le.mpr htrained.hvalidation)
  · exact List.isPrefixOf_iff_prefix.mpr (List.prefix_append _ _)

/-- **A saved bundle is loaded.** -/
theorem loadBundle_saved (hrestores : training.runtime.Restores (training.dumped bundle) bundle)
    {directory : ArtifactDirectory}
    (hmetadata : directory.metadata =
      .ok (plainBytes (metadataText training.trainer (training.saved bundle).metadata)))
    (hartifact : directory.artifact = .ok (training.dumped bundle)) :
    loadBundle training.runtime directory = .ok (training.saved bundle) := by
  have hloaded : loadMetadata training.runtime directory = .ok (training.saved bundle).metadata := by
    have hschema : schemaMatches (training.saved bundle).metadata = true := by
      rw [saved, htrained.hmetadata]
      rfl
    have hsklearn : (training.saved bundle).metadata.sklearnVersion = training.runtime.sklearnVersion := by
      rw [saved, htrained.hmetadata]
      rfl
    exact loadMetadata_saved (htrained.saved_writable hdocumented hfits)
      (Nat.lt_of_lt_of_le (by decide) hdocumented.digits) hdocumented.nesting
      (htrained.saved_valid hdocumented hfits) hschema hsklearn hmetadata
  obtain ⟨payload, estimator, scores, quantiles, items, hunpickle, hestimator, hscores, hquantiles,
    hforest, harray, hdict, hitems⟩ := hrestores.payload
  obtain ⟨henough, hfinite⟩ := htrained.scores_finite hdocumented
  have hread : readPayload training.runtime (training.dumped bundle) =
      .ok ⟨estimator, bundle.referenceScores, quantiles⟩ := by
    rw [readPayload, hunpickle, ok_bind, hestimator, ok_bind, hscores, ok_bind, harray, ok_bind,
      hquantiles, ok_bind]
    rfl
  have hchecked : checkPayload training.runtime ⟨estimator, bundle.referenceScores, quantiles⟩ =
      .ok (bundle.estimator, items) := by
    rw [checkPayload, hforest, hdict]
    exact if_neg (Nat.not_lt.mpr henough)
  have hkeys := htrained.hasFeatureKeys_restored (hitems.imp fun _ _ h => h.1)
  rw [loadBundle, hloaded, ok_bind, hartifact]
  refine bind_eq_ok.mpr ⟨_, rfl, ?_⟩
  refine bind_demand.mpr ⟨decide_eq_true rfl, ?_⟩
  refine bind_eq_ok.mpr ⟨_, recast_ok.mpr hread, ?_⟩
  refine bind_eq_ok.mpr ⟨_, hchecked, ?_⟩
  refine bind_demand.mpr ⟨by rw [hfinite, hkeys]; rfl, ?_⟩
  refine bind_eq_ok.mpr ⟨_, htrained.parseItems_restored hdocumented hitems, ?_⟩
  rfl

end Trained

/-! ### The registry entry -/

/-- The registry entry of a bundle that a call saves. -/
def entry (training : Training P) (call : TrainingCall) (bundle : ModelBundle) : RegistryEntry where
  deviceId := call.deviceId
  modelVersion := training.version call
  artifactPath := "/".intercalate [call.deviceId, training.version call]
  artifactChecksum := pathPart (training.saved bundle).metadata.artifactChecksum
  createdAt := call.now

theorem databaseText_codes (string : String) : databaseText (codes string) = .ok string := by
  rw [databaseText, textString_iff.mpr rfl]

section Entry

variable (htrained : Trained training call bundle)
  (hdocumented : training.trainer.Documented training.runtime) (hfits : training.Fits call)

include hdocumented

theorem codes_checksum (bundle : ModelBundle) :
    codes (pathPart (training.saved bundle).metadata.artifactChecksum) =
      (training.saved bundle).metadata.artifactChecksum :=
  codes_pathPart (isUnicode_append (isUnicode_codes _) (isUnicode_hex (hdocumented.hexdigest _)))

include htrained hfits

theorem registryEntry_saved :
    training.registryEntry (training.saved bundle).metadata [call.deviceId, training.version call] =
      .ok (training.entry call bundle) := by
  have hdevice : (training.saved bundle).metadata.deviceId = codes call.deviceId := htrained.deviceId_eq
  have hversion : (training.saved bundle).metadata.modelVersion = codes (training.version call) :=
    htrained.modelVersion_eq hdocumented
  have hstart : (training.saved bundle).metadata.trainingStart = codes (isoformat call.baselineStart) := by
    rw [saved, htrained.hmetadata]
    rfl
  have hfinish : (training.saved bundle).metadata.trainingEnd = codes (isoformat call.baselineEnd) := by
    rw [saved, htrained.hmetadata]
    rfl
  have hcreated : (training.saved bundle).metadata.createdAt = codes (isoformat call.now) := by
    rw [saved, htrained.hmetadata]
    rfl
  have hchecksum := databaseText_codes (pathPart (training.saved bundle).metadata.artifactChecksum)
  rw [codes_checksum hdocumented bundle] at hchecksum
  rw [registryEntry, hdevice, databaseText_codes, ok_bind, hversion, databaseText_codes, ok_bind, hstart,
    hfits.start, ok_bind, hfinish, hfits.finish, ok_bind, hchecksum, ok_bind, hcreated, hfits.now, ok_bind]
  rfl

end Entry

/-! ### The path of an artifact -/

/-- A part of a path that names an entry of a directory. -/
structure IsPathPart (part : String) : Prop where
  noSlash : '/' ∉ part.toList
  nonempty : part ≠ ""
  notHere : part ≠ "."
  notParent : part ≠ ".."

theorem enter_pathPart {part : String} (h : IsPathPart part) (parts : List String) :
    enter parts part = parts ++ [part] := by
  rw [enter, if_neg (by rintro (hnone | hhere); exacts [h.nonempty hnone, h.notHere hhere]),
    if_neg h.notParent]

theorem resolvePath_two {first second : String} (hfirst : IsPathPart first) (hsecond : IsPathPart second)
    (root : List String) : resolvePath root ("/".intercalate [first, second]) = root ++ [first, second] := by
  have htext : ("/".intercalate [first, second]).toList = first.toList ++ '/' :: second.toList := by
    simp
  have hparts : (first.toList ++ '/' :: second.toList).splitOn '/' = [first.toList, second.toList] := by
    rw [List.splitOn_append_cons_self, List.splitOn_eq_singleton hfirst.noSlash,
      List.splitOn_eq_singleton hsecond.noSlash]
    rfl
  have hrelative : (first.toList ++ '/' :: second.toList).head? ≠ some '/' := by
    cases hhead : first.toList with
    | nil => exact absurd (String.toList_inj.mp hhead) hfirst.nonempty
    | cons head tail =>
        rintro hsame
        obtain rfl := Option.some.inj hsame
        exact hfirst.noSlash (hhead ▸ List.mem_cons_self)
  rw [resolvePath, htext, hparts]
  simp only [List.map_cons, List.map_nil, List.foldl_cons, List.foldl_nil, String.ofList_toList,
    if_neg hrelative, enter_pathPart hfirst, enter_pathPart hsecond, List.append_assoc,
    List.singleton_append]

theorem isPathPart_of_codes {part : String} (hslash : 47 ∉ codes part) (hnil : codes part ≠ [])
    (hdot : (codes part).head? ≠ some 46) : IsPathPart part where
  noSlash := fun h => hslash (List.mem_map.mpr ⟨'/', h, rfl⟩)
  nonempty := by
    rintro rfl
    exact hnil rfl
  notHere := by
    rintro rfl
    exact hdot rfl
  notParent := by
    rintro rfl
    exact hdot rfl

theorem isPathPart_identifier {id : String} (h : identifierPattern (codes id) = true) : IsPathPart id := by
  have hlower : ∀ code, isLowerAlphanumeric code = true → code ≠ 47 ∧ code ≠ 46 := by
    intro code hcode
    unfold isLowerAlphanumeric at hcode
    simp only [Bool.or_eq_true, Bool.and_eq_true, decide_eq_true_eq] at hcode
    omega
  cases hcodes : codes id with
  | nil =>
      rw [hcodes] at h
      cases h
  | cons head tail =>
      rw [hcodes, identifierPattern, Bool.and_eq_true, Bool.and_eq_true, List.all_eq_true] at h
      obtain ⟨⟨hhead, htail⟩, -⟩ := h
      apply isPathPart_of_codes
      · rw [hcodes, List.mem_cons, not_or]
        refine ⟨(hlower head hhead).1.symm, ?_⟩
        intro hslash
        have hcode := htail 47 hslash
        cases hcode
      · rw [hcodes]
        exact List.cons_ne_nil head tail
      · rw [hcodes]
        exact fun hdot => (hlower head hhead).2 (Option.some.inj hdot)

theorem isPathPart_version (hdocumented : training.trainer.Documented training.runtime)
    (call : TrainingCall) : IsPathPart (training.version call) := by
  have hcodes : codes (training.version call) = _ := codes_pathPart (isUnicode_version hdocumented ..)
  rw [modelVersion] at hcodes
  apply isPathPart_of_codes
  · rw [hcodes, List.mem_append, not_or]
    refine ⟨by decide, ?_⟩
    intro hslash
    have hdigit := hdocumented.hexdigest _ 47 (List.mem_of_mem_take hslash)
    unfold isHexDigit at hdigit
    omega
  · rw [hcodes]
    exact List.cons_ne_nil _ _
  · rw [hcodes]
    intro hdot
    cases hdot

/-- The entry leads to the directory. -/
theorem trustedArtifactDirectory_entry (hdocumented : training.trainer.Documented training.runtime)
    (hfits : training.Fits call) (state : TrainingState) (days : Nat) {model : AnomalyModel}
    (hpath : model.artifactPath = (training.entry call bundle).artifactPath) :
    trustedArtifactDirectory ⟨training.files state, days⟩ model =
      .ok (state.tree.artifacts (training.root ++ [call.deviceId, training.version call])) := by
  have hresolve : (training.files state).resolve model.artifactPath =
      .ok (training.root ++ [call.deviceId, training.version call]) := by
    rw [hpath, files]
    exact congrArg _ (resolvePath_two (isPathPart_identifier hfits.identifier)
      (isPathPart_version hdocumented call) training.root)
  rw [trustedArtifactDirectory, hresolve, ok_bind]
  exact bind_demand.mpr ⟨List.isPrefixOf_iff_prefix.mpr (List.prefix_append _ _), rfl⟩

end Training

end IiotMonitoring.AnomalyWorker
