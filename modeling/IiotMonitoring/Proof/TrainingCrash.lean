import IiotMonitoring.Lib.Run
import IiotMonitoring.Proof.ScoringProgress
import IiotMonitoring.Proof.TrainingRuns

/-!
# Training after a crash

A call that was cut between `mkdir` and the rename of the metadata leaves a directory that no later call
for its version can load. Every other cut is made good by calling again.
-/

namespace IiotMonitoring.AnomalyWorker

/-- A call of `train_and_register` with the operations that it came to. -/
structure TrainingAttempt where
  call : TrainingCall
  trace : List (Program.Answered TrainingOp.Res)

/-- The call was cut, or it finished. -/
def Training.Attempts {P : Type} (training : Training P) (state : TrainingState)
    (attempt : TrainingAttempt) (state' : TrainingState) : Prop :=
  ∃ outcome, Program.Exec TrainingOp.Answers (training.trainAndRegister attempt.call) state attempt.trace
    outcome state'

/-- The attempt made the directory and was cut before the metadata was renamed. -/
def TrainingAttempt.Abandons (attempt : TrainingAttempt) (directory : List String) : Prop :=
  MakesDirectory directory attempt.trace ∧ ¬ Publishes directory attempt.trace

/-- An empty model root and an empty registry. -/
def TrainingState.empty : TrainingState := ⟨fun _ => none, [], 1⟩

namespace Training

variable {P : Type} {training : Training P} {call : TrainingCall} {bundle : ModelBundle}
  {state : TrainingState}

/-- The call returns a row whose artifact directory loads, with the checksum and version of the row. -/
def Registers (training : Training P) (call : TrainingCall) (state : TrainingState) : Prop :=
  ∃ model state', (training.trainAndRegister call).run TrainingOp.perform state = (.ok model, state') ∧
    ∀ days, ∃ directory loaded,
      trustedArtifactDirectory ⟨training.files state', days⟩ model = .ok directory ∧
      loadBundle training.runtime directory = .ok loaded ∧
      loaded.metadata.artifactChecksum = codes model.artifactChecksum ∧
      loaded.metadata.modelVersion = codes model.modelVersion

/-! ### The call after it -/

section Call

variable (hdocumented : training.trainer.Documented training.runtime)

theorem run_train (htrain : training.train call = .ok bundle) :
    training.trainAndRegister call = training.storeBundle call bundle := by
  rw [trainAndRegister, htrain]

include hdocumented

/-- A bundle that a call saved is loaded from its directory. -/
theorem load_savedFiles (hfits : training.Fits call) (htrain : training.train call = .ok bundle)
    {tree : ModelTree} {directory : List String}
    (hfiles : tree directory = some (training.savedFiles bundle)) :
    loadBundle training.runtime (tree.artifacts directory) = .ok (training.saved bundle) := by
  obtain ⟨htrained⟩ := train_cases hfits htrain
  apply htrained.loadBundle_saved hdocumented hfits (hfits.restores bundle htrain)
  · exact ModelTree.read_eq hfiles rfl
  · exact ModelTree.read_eq hfiles rfl

theorem directory_eq (hfits : training.Fits call) (htrain : training.train call = .ok bundle) :
    training.directory bundle = training.root ++ [call.deviceId, training.version call] := by
  obtain ⟨htrained⟩ := train_cases hfits htrain
  rw [directory, htrained.bundlePath_eq hdocumented]

/-- Registering what is in the directory of a call, whichever call saved it. -/
theorem registers_of_run (hfits : training.Fits call) (htrain : training.train call = .ok bundle)
    {savedBy : TrainingCall} {saved : ModelBundle} (hfits' : training.Fits savedBy)
    (htrain' : training.train savedBy = .ok saved)
    (hsame : training.directory saved = training.directory bundle) {state' : TrainingState}
    (hfiles : state'.tree (training.directory bundle) = some (training.savedFiles saved))
    (hrun : (training.storeBundle call bundle).run TrainingOp.perform state =
      (training.registerBundle (training.saved saved).metadata (bundlePath bundle.metadata)).run
        TrainingOp.perform state') : training.Registers call state := by
  obtain ⟨htrained⟩ := train_cases hfits htrain
  obtain ⟨htrained'⟩ := train_cases hfits' htrain'
  have hdirectory := directory_eq hdocumented hfits' htrain'
  have hpath : bundlePath bundle.metadata = [savedBy.deviceId, training.version savedBy] := by
    rw [hsame, directory] at hdirectory
    exact List.append_cancel_left hdirectory
  have hentry := registryEntry_saved htrained' hdocumented hfits'
  obtain ⟨hdevice, hversion, hartifact, hchecksum, htree⟩ :=
    perform_register (training.entry savedBy saved) state'
  rw [hpath, registerBundle, hentry] at hrun
  refine ⟨_, _, (congrArg (fun program => Program.run TrainingOp.perform program state)
    (run_train htrain)).trans hrun, ?_⟩
  intro days
  refine ⟨_, training.saved saved, trustedArtifactDirectory_entry hdocumented hfits' _ days hartifact,
    ?_, ?_, ?_⟩
  · rw [← hdirectory, hsame]
    apply load_savedFiles hdocumented hfits' htrain'
    exact (congrFun htree _).trans hfiles
  · exact (codes_checksum hdocumented saved).symm.trans (congrArg codes hchecksum.symm)
  · exact (htrained'.modelVersion_eq hdocumented).trans (congrArg codes hversion.symm)

theorem registers_new (hfits : training.Fits call) (htrain : training.train call = .ok bundle)
    (hnew : state.tree (training.directory bundle) = none) : training.Registers call state :=
  registers_of_run hdocumented hfits htrain hfits htrain rfl (Function.update_self ..)
    (run_storeBundle_new hnew)

theorem registers_existing (hfits : training.Fits call) (htrain : training.train call = .ok bundle)
    {savedBy : TrainingCall} {saved : ModelBundle} (hfits' : training.Fits savedBy)
    (htrain' : training.train savedBy = .ok saved)
    (hsame : training.directory saved = training.directory bundle)
    (hfiles : state.tree (training.directory bundle) = some (training.savedFiles saved)) :
    training.Registers call state := by
  obtain ⟨htrained⟩ := train_cases hfits htrain
  obtain ⟨htrained'⟩ := train_cases hfits' htrain'
  have hparts : [savedBy.deviceId, training.version savedBy] =
      [call.deviceId, training.version call] := by
    rw [directory_eq hdocumented hfits htrain, directory_eq hdocumented hfits' htrain'] at hsame
    exact List.append_cancel_left hsame
  obtain ⟨hdevice, hrest⟩ := List.cons.inj hparts
  have hversion := (List.cons.inj hrest).1
  apply registers_of_run hdocumented hfits htrain hfits' htrain' hsame hfiles
  apply run_storeBundle_loaded
  · rw [hfiles]
    rfl
  · exact load_savedFiles hdocumented hfits' htrain' hfiles
  · exact htrained'.deviceId_eq.trans (congrArg codes hdevice)
  · rw [htrained.modelVersion_eq hdocumented, ← hversion]
    exact htrained'.modelVersion_eq hdocumented

end Call

/-- A directory without metadata stops every call for its version. -/
theorem not_registers (htrain : training.train call = .ok bundle)
    {files : String → Option (List UInt8)} (hfiles : files "metadata.json" = none)
    (hpart : state.tree (training.directory bundle) = some files) : ¬ training.Registers call state := by
  rintro ⟨model, state', hrun, -⟩
  have hexists : (state.tree (training.directory bundle)).isSome = true := by
    rw [hpart]
    rfl
  have hload : loadBundle training.runtime (state.tree.artifacts (training.directory bundle)) =
      .error ⟨.artifactError, "MODEL_METADATA_UNREADABLE"⟩ := by
    have hread : state.tree.read (training.directory bundle) "metadata.json" =
        .error ⟨.osError, "No such file or directory"⟩ := by
      rw [ModelTree.read, hpart, Option.bind_some, hfiles]
    rw [loadBundle, loadMetadata, ModelTree.artifacts, hread]
    rfl
  rw [run_train htrain, run_storeBundle_error hexists hload] at hrun
  cases hrun

/-! ### Any number of attempts -/

/-- What is in a directory after attempts. -/
inductive Left (training : Training P) (attempts : List TrainingAttempt) (state : TrainingState)
    (directory : List String) : Prop where
  | absent (hnone : state.tree directory = none)
      (hmade : ∀ attempt ∈ attempts, ¬ MakesDirectory directory attempt.trace)
  | whole (attempt : TrainingAttempt) (bundle : ModelBundle) (hmem : attempt ∈ attempts)
      (htrain : training.train attempt.call = .ok bundle)
      (hdirectory : training.directory bundle = directory)
      (hfiles : state.tree directory = some (training.savedFiles bundle))
      (hnone : ∀ attempt ∈ attempts, ¬ attempt.Abandons directory)
  | part (files : String → Option (List UInt8)) (hfiles : state.tree directory = some files)
      (hmetadata : files "metadata.json" = none) (hsome : ∃ attempt ∈ attempts, attempt.Abandons directory)

/-- An attempt that does not make the directory leaves it as it is. -/
theorem Left.keep {attempts : List TrainingAttempt} {directory : List String}
    (h : training.Left attempts state directory) {attempt : TrainingAttempt} {state' : TrainingState}
    (hmade : ¬ MakesDirectory directory attempt.trace)
    (hsame : state'.tree directory = state.tree directory) :
    training.Left (attempts ++ [attempt]) state' directory := by
  cases h with
  | absent hnone hothers =>
      refine .absent (hsame.trans hnone) ?_
      rw [List.forall_mem_append, List.forall_mem_singleton]
      exact ⟨hothers, hmade⟩
  | whole earlier bundle hmem htrain hdirectory hfiles hothers =>
      refine .whole earlier bundle (List.mem_append_left _ hmem) htrain hdirectory (hsame.trans hfiles) ?_
      rw [List.forall_mem_append, List.forall_mem_singleton]
      exact ⟨hothers, fun habandons => hmade habandons.1⟩
  | part files hfiles hmetadata hsome =>
      obtain ⟨earlier, hmem, habandons⟩ := hsome
      exact .part files (hsame.trans hfiles) hmetadata
        ⟨earlier, List.mem_append_left _ hmem, habandons⟩

theorem Left.step {attempts : List TrainingAttempt} {attempt : TrainingAttempt} {state' : TrainingState}
    (h : ∀ directory, training.Left attempts state directory)
    (hstep : training.Attempts state attempt state') (directory : List String) :
    training.Left (attempts ++ [attempt]) state' directory := by
  obtain ⟨outcome, hrun⟩ := hstep
  rcases exec_trainAndRegister hrun with
    ⟨htree, hmakes⟩ | ⟨bundle, files, htrain, hnew, hmakes, htree, hfiles⟩
  · exact (h directory).keep (hmakes directory) (congrFun htree directory)
  by_cases hown : directory = training.directory bundle
  · -- the attempt makes this directory, so no earlier one has
    have hmade := (hmakes directory).mpr hown
    subst hown
    have hothers : ∀ earlier ∈ attempts, ¬ MakesDirectory (training.directory bundle) earlier.trace := by
      cases h (training.directory bundle) with
      | absent hnone hothers => exact hothers
      | whole earlier bundle' hmem htrain' hdirectory hsaved hothers =>
          rw [hnew] at hsaved
          cases hsaved
      | part files' hpart hmetadata hsome =>
          rw [hnew] at hpart
          cases hpart
    have hplace : state'.tree (training.directory bundle) = some files := by
      rw [htree, Function.update_self]
    rcases hfiles with ⟨hpart, hmetadata⟩ | ⟨hwhole, rfl⟩
    · exact .part files hplace hmetadata
        ⟨attempt, List.mem_append_right _ (List.mem_singleton_self _), hmade, hpart⟩
    · refine .whole attempt bundle (List.mem_append_right _ (List.mem_singleton_self _)) htrain rfl
        hplace ?_
      rw [List.forall_mem_append, List.forall_mem_singleton]
      exact ⟨fun earlier hmem habandons => hothers earlier hmem habandons.1,
        fun habandons => habandons.2 hwhole⟩
  · refine (h directory).keep ((hmakes directory).not.mpr hown) ?_
    rw [htree, Function.update_of_ne hown]

theorem left_attempts {attempts : List TrainingAttempt}
    (hruns : Trail training.Attempts TrainingState.empty attempts state) (directory : List String) :
    training.Left attempts state directory := by
  have hall := hruns.invariant (fun attempts state => ∀ directory, training.Left attempts state directory)
    (fun directory => .absent rfl (List.forall_mem_nil _))
    fun attempts state attempt state' h hstep directory => Left.step h hstep directory
  exact hall directory

/-- **Training again.** After any attempts, cut or not, a call that trains returns a row that can be
loaded if and only if no attempt was cut between making its directory and renaming the metadata. -/
theorem registers_iff (hdocumented : training.trainer.Documented training.runtime)
    {attempts : List TrainingAttempt}
    (hruns : Trail training.Attempts TrainingState.empty attempts state)
    (hattempts : ∀ attempt ∈ attempts, training.Fits attempt.call) (hfits : training.Fits call)
    (htrain : training.train call = .ok bundle) :
    training.Registers call state ↔
      ∀ attempt ∈ attempts, ¬ attempt.Abandons (training.directory bundle) := by
  cases left_attempts hruns (training.directory bundle) with
  | absent hnone hmade =>
      exact iff_of_true (registers_new hdocumented hfits htrain hnone)
        fun attempt hmem habandons => hmade attempt hmem habandons.1
  | whole attempt saved hmem htrain' hdirectory hfiles hothers =>
      exact iff_of_true (registers_existing hdocumented hfits htrain (hattempts attempt hmem) htrain'
        hdirectory hfiles) hothers
  | part files hfiles hmetadata hsome =>
      obtain ⟨attempt, hmem, habandons⟩ := hsome
      exact iff_of_false (not_registers htrain hmetadata hfiles)
        fun hothers => hothers attempt hmem habandons

/-! ### A call that is cut after `mkdir` -/

/-- A row every ten seconds, all alike. -/
def demoBaseline : List TelemetryRow :=
  (List.range 101).map fun place =>
    demoTables.demoRow (place + 1) (1786406400000000 + place * 10000000) none

/-- The features of twelve such rows. -/
def demoFeatures : List PyFloat :=
  [.finite 40, .finite 0, .finite 0, .finite 1, .finite 0, .finite 2, .finite 4, .finite 2, .finite 2]

/-- An estimator that was fitted to rows that are all alike. -/
def demoForest : Estimator where
  scoreSamples := fun matrix => .ok (matrix.map fun _ => .finite (-1 / 2))
  predict := fun matrix => .ok (matrix.map fun _ => 1)

/-- Training on rows that are all alike, with contamination 0.09. -/
def demoTrainer : Trainer where
  fit := fun _ _ matrix =>
    if matrix.isEmpty then .error ⟨.valueError, "Found array with 0 sample(s)"⟩ else .ok demoForest
  quantiles := fun column =>
    ⟨column.headD (.finite 0), column.headD (.finite 0), column.headD (.finite 0)⟩
  dump := fun _ _ _ => [128, 4]
  eightDigits := fun _ => "0.09"
  literal := fun _ => ⟨false, 0, some ⟨(Fin.last 9).rev, [Fin.last 9]⟩, none⟩

def demoQuantiles : List (String × Quantiles) :=
  List.zipWith (fun name value => (name, ⟨value, value, value⟩)) featureNames demoFeatures

def demoTrainedPayload : DemoObject :=
  .dict
    [(.text "estimator", .forest),
      (.text "reference_scores", .list (List.replicate 20 (.number (.finite (1 / 2))))),
      (.text "feature_quantiles", .dict (demoQuantiles.map fun (name, quantiles) =>
        (.text name, .list [.number quantiles.low, .number quantiles.median, .number quantiles.high])))]

/-- The digests of the dump and of what two versions are made from. -/
def demoDigest (bytes : List UInt8) : Text :=
  if bytes = [128, 4] then
    codes "057cbbfb4f5936e7b5e66856bf25d1fb46a0413143c0e7528ba137d2c2d024d1"
  else if bytes = "motor-01|2026-08-11T00:00:00Z|2026-08-11T00:16:40Z|1|0.09|20260811".toUTF8.toList then
    codes "ba2545bff670a8de1dadfecf671a5a3758f9fc528230ebfa53a680b3fad43b94"
  else
    codes "321a5e8ddada367754c07821bc4944c0ad0fd02554f626a1aa2b6112eebe10a3"

def demoInstants : List Int :=
  [1786406399000000, 1786406400000000, 1786407400000000, 1786407500000000, 1786407600000000,
    1786407700000000]

/-- Reading the times of the calls below. -/
def demoReadInstant (text : Text) : Except PyError Int :=
  match demoInstants.find? fun instant => replaceZ (codes (isoformat instant)) = text with
  | some instant => .ok instant
  | none => .error ⟨.valueError, "Invalid isoformat string"⟩

def demoTraining : Training DemoObject where
  math := demoMath
  runtime :=
    { demoRuntime with
      readInstant := demoReadInstant
      sha256 := demoDigest
      unpickle := fun _ => .ok demoTrainedPayload
      isolationForest := fun object =>
        match object with
        | .forest => some demoForest
        | _ => none }
  trainer := demoTrainer
  root := ["models"]
  minimumFeatureRows := 50

def demoMotor : Device := Device.new "motor-01" "workshop-demo"

/-- A call for the rows. -/
def demoTrainingCall (baselineStart now : Int) : TrainingCall where
  devices := fun id => if id = "motor-01" then some demoMotor else none
  rows := demoBaseline
  deviceId := "motor-01"
  baselineStart := baselineStart
  baselineEnd := 1786407400000000
  contamination := .finite (9 / 100)
  now := now

def demoBundle (baselineStart now : Int) : ModelBundle where
  estimator := demoForest
  referenceScores := ⟨[20], List.replicate 20 (.finite (1 / 2))⟩
  featureQuantiles := demoQuantiles
  metadata := trainedMetadata demoTraining.runtime demoTrainer
    (demoTraining.request (demoTrainingCall baselineStart now) demoMotor) 76 20

theorem demo_featureRows : (featureRows demoMath .healthy ⟨[], none⟩
    (demoBaseline.map (·.sample))).map (·.values) = List.replicate 96 demoFeatures := by
  decide +kernel

theorem demo_before : demoBaseline.Pairwise fun left right =>
    left.receivedAt < right.receivedAt := by
  rw [demoBaseline, List.pairwise_map]
  apply List.pairwise_lt_range.imp
  intro left right hlt
  show (1786406400000000 + left * 10000000 : Int) < 1786406400000000 + right * 10000000
  omega

theorem demo_between {row : TelemetryRow} (hrow : row ∈ demoBaseline) :
    row.telemetry.deviceId = "motor-01" ∧ 1786406400000000 ≤ row.receivedAt ∧
      row.receivedAt ≤ 1786407400000000 := by
  obtain ⟨place, hplace, rfl⟩ := List.mem_map.mp hrow
  rw [List.mem_range] at hplace
  refine ⟨rfl, ?_, ?_⟩
  · show (1786406400000000 : Int) ≤ 1786406400000000 + place * 10000000
    omega
  · show (1786406400000000 + place * 10000000 : Int) ≤ 1786407400000000
    omega

theorem demo_generateFeatures :
    (generateFeatures demoMath .healthy (demoBaseline.map (·.sample))).map (·.values) =
      List.replicate 96 demoFeatures := by
  have hsorted : (demoBaseline.map (·.sample)).Pairwise fun left right =>
      left.before right = true := by
    rw [List.pairwise_map]
    apply demo_before.imp_of_mem
    intro left right hleft hright hlt
    obtain ⟨leftPlace, -, rfl⟩ := List.mem_map.mp hleft
    obtain ⟨rightPlace, -, rfl⟩ := List.mem_map.mp hright
    exact Bool.or_eq_true_iff.mpr (.inl (decide_eq_true hlt))
  rw [generateFeatures, List.mergeSort_of_pairwise hsorted]
  exact demo_featureRows

theorem demo_matrices {request : TrainingRequest} (hstart : request.baselineStart ≤ 1786406400000000)
    (hend : request.baselineEnd = 1786407400000000) (hminimum : request.minimumFeatureRows = 50)
    (hcontamination : request.contamination = .finite (9 / 100)) :
    trainingMatrices demoMath demoTraining.runtime (demoBaseline.map (·.sample)) request =
      .ok (List.replicate 76 demoFeatures, List.replicate 20 demoFeatures) := by
  have hselected : ((demoBaseline.map (·.sample)).filter fun item =>
      request.baselineStart ≤ item.timestamp && item.timestamp ≤ request.baselineEnd) =
      demoBaseline.map (·.sample) := by
    rw [List.filter_eq_self]
    intro sample hsample
    obtain ⟨row, hrow, rfl⟩ := List.mem_map.mp hsample
    obtain ⟨-, hfirst, hlast⟩ := demo_between hrow
    obtain ⟨place, -, rfl⟩ := List.mem_map.mp hrow
    rw [Bool.and_eq_true, decide_eq_true_eq, decide_eq_true_eq, hend]
    exact ⟨hstart.trans hfirst, hlast⟩
  have hwindow : request.baselineStart < request.baselineEnd := by
    rw [hend]
    exact hstart.trans_lt (by decide)
  have hrange : (request.contamination.atLeast (demoTraining.runtime.round (1 / 1000)) &&
      request.contamination.atMost (demoTraining.runtime.round (1 / 5))) = true := by
    rw [hcontamination]
    decide +kernel
  have hlength := congrArg List.length demo_generateFeatures
  rw [List.length_map, List.length_replicate] at hlength
  have hsplit : splitAt demoMath 96 50 = .ok 76 := by
    decide +kernel
  rw [trainingMatrices]
  refine bind_require.mpr ⟨decide_eq_true hwindow, ?_⟩
  refine bind_require.mpr ⟨hrange, ?_⟩
  dsimp only
  rw [hselected, hlength, hminimum, hsplit]
  refine bind_require.mpr ⟨rfl, ?_⟩
  rw [ok_bind]
  refine bind_require.mpr ⟨rfl, ?_⟩
  rw [List.map_take, List.map_drop, demo_generateFeatures, List.take_replicate, List.drop_replicate]
  rfl

theorem demo_telemetry {call : TrainingCall} (hrows : call.rows = demoBaseline)
    (hdevice : call.deviceId = "motor-01") (hstart : call.baselineStart ≤ 1786406400000000)
    (hend : call.baselineEnd = 1786407400000000) : Training.telemetry call = demoBaseline := by
  have hall : (call.rows.filter fun row =>
      row.telemetry.deviceId = call.deviceId && call.baselineStart ≤ row.receivedAt &&
        row.receivedAt ≤ call.baselineEnd) = demoBaseline := by
    rw [hrows, List.filter_eq_self]
    intro row hrow
    obtain ⟨hsame, hfirst, hlast⟩ := demo_between hrow
    rw [Bool.and_eq_true, Bool.and_eq_true, decide_eq_true_eq, decide_eq_true_eq, decide_eq_true_eq, hend]
    exact ⟨⟨hsame.trans hdevice.symm, hstart.trans hfirst⟩, hlast⟩
  rw [Training.telemetry, hall]
  apply List.mergeSort_of_pairwise
  exact demo_before.imp fun hlt => Bool.or_eq_true_iff.mpr (.inl (decide_eq_true hlt))

/-- The calls train. -/
theorem demo_train {baselineStart : Int} (hstart : baselineStart ≤ 1786406400000000) (now : Int) :
    demoTraining.train (demoTrainingCall baselineStart now) = .ok (demoBundle baselineStart now) := by
  show trainModel demoMath demoTraining.runtime demoTrainer
    ((Training.telemetry (demoTrainingCall baselineStart now)).map (·.sample))
    (demoTraining.request (demoTrainingCall baselineStart now) demoMotor) = _
  rw [demo_telemetry rfl rfl hstart rfl]
  refine bind_eq_ok.mpr ⟨_, demo_matrices hstart rfl rfl rfl, ?_⟩
  refine bind_eq_ok.mpr ⟨demoForest, rfl, ?_⟩
  refine bind_eq_ok.mpr ⟨List.replicate 20 (.finite (-1 / 2)), rfl, ?_⟩
  have hscores : (List.replicate 20 (FloatNumber.finite (-1 / 2 : ℚ))).map FloatNumber.neg =
      List.replicate 20 (.finite (1 / 2)) := by
    decide +kernel
  have hquantiles : trainedQuantiles demoTrainer (List.replicate 76 demoFeatures) = demoQuantiles := rfl
  rw [hscores, hquantiles]
  rfl

theorem demo_documented : demoTrainer.Documented demoTraining.runtime where
  fit_rows := by
    rintro contamination seed matrix estimator hfit rfl
    cases hfit
  scores := by
    intro contamination seed matrix estimator rows scores hfit hscores
    have hforest : demoForest = estimator := by
      change (if matrix.isEmpty then _ else _) = _ at hfit
      split at hfit
      · cases hfit
      · exact Except.ok.inj hfit
    subst hforest
    cases hscores
    rw [List.length_map, List.all_map, List.all_eq_true]
    exact ⟨rfl, fun _ _ => rfl⟩
  quantiles := by
    intro column hsome hfinite
    cases column with
    | nil => exact absurd rfl hsome
    | cons value rest =>
        rw [List.all_cons, Bool.and_eq_true] at hfinite
        exact ⟨hfinite.1, hfinite.1, hfinite.1⟩
  hexdigest := by
    intro bytes
    have hdigits : ∀ text ∈ ["057cbbfb4f5936e7b5e66856bf25d1fb46a0413143c0e7528ba137d2c2d024d1",
        "ba2545bff670a8de1dadfecf671a5a3758f9fc528230ebfa53a680b3fad43b94",
        "321a5e8ddada367754c07821bc4944c0ad0fd02554f626a1aa2b6112eebe10a3"],
        ∀ code ∈ codes text, (48 ≤ code ∧ code ≤ 57) ∨ (97 ≤ code ∧ code ≤ 102) := by
      decide
    change ∀ code ∈ demoDigest bytes, isHexDigit code
    rw [demoDigest]
    split_ifs
    · exact hdigits _ (by simp)
    · exact hdigits _ (by simp)
    · exact hdigits _ (by simp)
  sklearnVersion := by decide
  nesting := by decide
  digits := by decide

theorem demo_readsBack : ∀ instant ∈ demoInstants, demoTraining.ReadsBack instant := by
  unfold Training.ReadsBack Training.parseUtc
  decide +kernel

theorem demo_fits {baselineStart now : Int} (hstart : baselineStart ≤ 1786406400000000)
    (hread : baselineStart ∈ demoInstants) (hnow : now ∈ demoInstants) :
    demoTraining.Fits (demoTrainingCall baselineStart now) where
  identifier := show identifierPattern (codes "motor-01") = true by decide
  device := by
    intro device hdevice
    cases hdevice
    rfl
  rows := by
    have hlength : demoBaseline.length = 101 := by
      rw [demoBaseline, List.length_map, List.length_range]
    show demoBaseline.length < 10 ^ demoTraining.runtime.limits.digits
    rw [hlength]
    exact Nat.lt_of_lt_of_le (show 101 < 10 ^ 3 by decide)
      (Nat.pow_le_pow_right (by decide) (show 3 ≤ demoTraining.runtime.limits.digits by decide))
  start := demo_readsBack _ hread
  finish := demo_readsBack 1786407400000000 (by decide)
  now := demo_readsBack _ hnow
  contamination := by
    intro value hvalue
    obtain rfl := FloatNumber.finite.inj hvalue
    constructor
    · rfl
    · decide +kernel
  restores := by
    intro bundle htrain
    rw [demo_train hstart] at htrain
    cases htrain
    refine ⟨demoTrainedPayload, .forest, _, _, _, rfl, rfl, rfl, rfl, rfl, rfl, rfl, ?_⟩
    refine List.forall₂_map_left_iff.mpr (List.forall₂_same.mpr ?_)
    intro entry hentry
    exact ⟨rfl, _, rfl, rfl⟩

/-- A call that is cut after its `mkdir`. -/
def demoCutAttempt : TrainingAttempt where
  call := demoTrainingCall 1786406400000000 1786407500000000
  trace := [⟨.mkdir ["models", "motor-01", "iforest-v1-ba2545bff670"], true⟩]

def demoCutState : TrainingState :=
  ⟨Function.update (fun _ => none) ["models", "motor-01", "iforest-v1-ba2545bff670"]
    (some fun _ => none), [], 1⟩

theorem demo_directory (now : Int) :
    demoTraining.directory (demoBundle 1786406400000000 now) =
      ["models", "motor-01", "iforest-v1-ba2545bff670"] := by
  have hrequest : (demoTraining.request (demoTrainingCall 1786406400000000 now) demoMotor).deviceId =
      "motor-01" := rfl
  have hid : (demoBundle 1786406400000000 now).metadata.deviceId =
      codes (demoTraining.request (demoTrainingCall 1786406400000000 now) demoMotor).deviceId := rfl
  have hversion : (demoBundle 1786406400000000 now).metadata.modelVersion =
      modelVersion demoTraining.runtime demoTrainer "motor-01" 1786406400000000 1786407400000000
        (.finite (9 / 100)) defaultRandomSeed := rfl
  have hpath : bundlePath (demoBundle 1786406400000000 now).metadata =
      ["motor-01", "iforest-v1-ba2545bff670"] := by
    rw [bundlePath, hid, hrequest, hversion]
    decide +kernel
  rw [directory, hpath]
  rfl

theorem demo_cut : demoTraining.Attempts .empty demoCutAttempt demoCutState := by
  have hstore : demoTraining.trainAndRegister demoCutAttempt.call =
      demoTraining.storeBundle demoCutAttempt.call (demoBundle 1786406400000000 1786407500000000) :=
    run_train (demo_train le_rfl _)
  have hdirectory := demo_directory 1786407500000000
  rw [directory] at hdirectory
  rw [Attempts, hstore, storeBundle, hdirectory, saveBundle]
  exact ⟨none, .call rfl (.cut _ _)⟩

theorem registers_iff_cut :
    demoTraining.Registers (demoTrainingCall 1786406400000000 1786407600000000) demoCutState ↔
      ∀ attempt ∈ [demoCutAttempt], ¬ attempt.Abandons
        (demoTraining.directory (demoBundle 1786406400000000 1786407600000000)) := by
  have hruns : Trail demoTraining.Attempts .empty [demoCutAttempt] demoCutState :=
    Trail.step .start demo_cut
  apply registers_iff demo_documented hruns
  · rw [List.forall_mem_singleton]
    exact demo_fits le_rfl (by decide) (by decide)
  · exact demo_fits le_rfl (by decide) (by decide)
  · exact demo_train le_rfl _

/-- A second call after it fails, though it trains as the first one did. -/
theorem cut_not_registers :
    demoTraining.train (demoTrainingCall 1786406400000000 1786407600000000) =
        .ok (demoBundle 1786406400000000 1786407600000000) ∧
      ¬ ∀ attempt state, demoTraining.Attempts .empty attempt state →
        attempt.call = demoTrainingCall 1786406400000000 1786407500000000 →
        demoTraining.Registers (demoTrainingCall 1786406400000000 1786407600000000) state := by
  refine ⟨demo_train le_rfl _, fun h => ?_⟩
  have hempty : demoCutState.tree
      (demoTraining.directory (demoBundle 1786406400000000 1786407600000000)) = some fun _ => none := by
    rw [demo_directory]
    simp only [demoCutState, Function.update_self]
  exact not_registers (demo_train le_rfl _) rfl hempty (h demoCutAttempt demoCutState demo_cut rfl)

end Training

end IiotMonitoring.AnomalyWorker
