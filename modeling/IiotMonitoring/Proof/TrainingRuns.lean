import IiotMonitoring.Proof.ArtifactSave

/-!
# Runs of a training call

What a run of `train_and_register` leaves, cut or not: only the call that makes a directory writes into
it, and the metadata is there once it is renamed.
-/

namespace IiotMonitoring.AnomalyWorker

/-- Only registry and clock change. -/
def TrainingOp.KeepsTree : TrainingOp → Prop
  | mkdir _ | write .. | replace .. => False
  | read .. | register _ => True

theorem answers_tree (op : TrainingOp) (state : TrainingState) (answer : TrainingOp.Res op)
    (state' : TrainingState) (hkeeps : op.KeepsTree) (h : TrainingOp.Answers op state answer state') :
    state'.tree = state.tree := by
  cases op with
  | mkdir directory => exact hkeeps.elim
  | write directory name bytes => exact hkeeps.elim
  | replace directory source target => exact hkeeps.elim
  | read directory name =>
      cases h
      rfl
  | register entry =>
      rw [TrainingOp.Answers, TrainingOp.perform] at h
      split at h
      · cases h
        rfl
      · cases h
        rfl

theorem ModelTree.change_update (tree : ModelTree) (directory : List String)
    (files : String → Option (List UInt8))
    (f : (String → Option (List UInt8)) → String → Option (List UInt8)) :
    ModelTree.change (Function.update tree directory (some files)) directory f =
      Function.update tree directory (some (f files)) := by
  rw [ModelTree.change, Function.update_self, Option.map_some, Function.update_idem]

theorem ModelTree.read_eq {tree : ModelTree} {directory : List String}
    {files : String → Option (List UInt8)} {name : String} {bytes : List UInt8}
    (htree : tree directory = some files) (hfile : files name = some bytes) :
    tree.read directory name = .ok bytes := by
  rw [ModelTree.read, htree, Option.bind_some, hfile]

/-- The directory is made in the run. -/
def MakesDirectory (directory : List String) (trace : List (Program.Answered TrainingOp.Res)) : Prop :=
  ⟨.mkdir directory, true⟩ ∈ trace

/-- The metadata is renamed in the run. -/
def Publishes (directory : List String) (trace : List (Program.Answered TrainingOp.Res)) : Prop :=
  ⟨.replace directory "metadata.json.tmp" "metadata.json", ()⟩ ∈ trace

namespace Training

variable {P : Type} {training : Training P} {call : TrainingCall} {bundle : ModelBundle}
  {state state' : TrainingState} {trace : List (Program.Answered TrainingOp.Res)}

/-- The directory of a bundle. -/
def directory (training : Training P) (bundle : ModelBundle) : List String :=
  training.root ++ bundlePath bundle.metadata

theorem exec_mkdir_new {α : Type} {directory : List String} {next : Bool → TrainingProgram α}
    {outcome : Option α} (hnew : state.tree directory = none)
    (h : Program.Exec TrainingOp.Answers (TrainingProgram.mkdir directory >>= next) state trace outcome
      state') :
    (trace = [] ∧ outcome = none ∧ state' = state) ∨
      ∃ rest, trace = ⟨.mkdir directory, true⟩ :: rest ∧
        Program.Exec TrainingOp.Answers (next true)
          { state with tree := Function.update state.tree directory (some fun _ => none) } rest outcome
          state' := by
  rcases Program.exec_call_iff.mp h with hcut | ⟨answer, state'', rest, rfl, hanswer, hrest⟩
  · exact .inl hcut
  · rw [TrainingOp.Answers, TrainingOp.perform, hnew] at hanswer
    cases hanswer
    exact .inr ⟨rest, rfl, hrest⟩

theorem exec_mkdir_existing {α : Type} {directory : List String} {next : Bool → TrainingProgram α}
    {outcome : Option α} (hexists : (state.tree directory).isSome = true)
    (h : Program.Exec TrainingOp.Answers (TrainingProgram.mkdir directory >>= next) state trace outcome
      state') :
    (trace = [] ∧ outcome = none ∧ state' = state) ∨
      ∃ rest, trace = ⟨.mkdir directory, false⟩ :: rest ∧
        Program.Exec TrainingOp.Answers (next false) state rest outcome state' := by
  rcases Program.exec_call_iff.mp h with hcut | ⟨answer, state'', rest, rfl, hanswer, hrest⟩
  · exact .inl hcut
  · rw [TrainingOp.Answers, TrainingOp.perform, hexists] at hanswer
    cases hanswer
    exact .inr ⟨rest, rfl, hrest⟩

/-- The files of a directory that is being filled. -/
def inDirectory (state : TrainingState) (directory : List String)
    (files : String → Option (List UInt8)) : TrainingState :=
  { state with tree := Function.update state.tree directory (some files) }

theorem exec_write {α : Type} {directory : List String} {files : String → Option (List UInt8)}
    {name : String} {bytes : List UInt8} {next : Unit → TrainingProgram α} {outcome : Option α}
    (h : Program.Exec TrainingOp.Answers (TrainingProgram.write directory name bytes >>= next)
      (inDirectory state directory files) trace outcome state') :
    (trace = [] ∧ outcome = none ∧ state' = inDirectory state directory files) ∨
      ∃ rest, trace = ⟨.write directory name bytes, ()⟩ :: rest ∧
        Program.Exec TrainingOp.Answers (next ())
          (inDirectory state directory (Function.update files name (some bytes))) rest outcome state' := by
  rcases Program.exec_call_iff.mp h with hcut | ⟨answer, state'', rest, rfl, hanswer, hrest⟩
  · exact .inl hcut
  · rw [TrainingOp.Answers, TrainingOp.perform, inDirectory, ModelTree.change_update] at hanswer
    cases hanswer
    exact .inr ⟨rest, rfl, hrest⟩

theorem exec_replace {α : Type} {directory : List String} {files : String → Option (List UInt8)}
    {source target : String} {next : Unit → TrainingProgram α} {outcome : Option α}
    (h : Program.Exec TrainingOp.Answers (TrainingProgram.replace directory source target >>= next)
      (inDirectory state directory files) trace outcome state') :
    (trace = [] ∧ outcome = none ∧ state' = inDirectory state directory files) ∨
      ∃ rest, trace = ⟨.replace directory source target, ()⟩ :: rest ∧
        Program.Exec TrainingOp.Answers (next ())
          (inDirectory state directory
            (Function.update (Function.update files target (files source)) source none)) rest outcome
          state' := by
  rcases Program.exec_call_iff.mp h with hcut | ⟨answer, state'', rest, rfl, hanswer, hrest⟩
  · exact .inl hcut
  · rw [TrainingOp.Answers, TrainingOp.perform, inDirectory, ModelTree.change_update] at hanswer
    cases hanswer
    exact .inr ⟨rest, rfl, hrest⟩

theorem exec_read {α : Type} {directory : List String} {files : String → Option (List UInt8)}
    {name : String} {bytes : List UInt8} (hfile : files name = some bytes)
    {next : Except PyError (List UInt8) → TrainingProgram α} {outcome : Option α}
    (h : Program.Exec TrainingOp.Answers (TrainingProgram.read directory name >>= next)
      (inDirectory state directory files) trace outcome state') :
    (trace = [] ∧ outcome = none ∧ state' = inDirectory state directory files) ∨
      ∃ rest, trace = ⟨.read directory name, .ok bytes⟩ :: rest ∧
        Program.Exec TrainingOp.Answers (next (.ok bytes)) (inDirectory state directory files) rest outcome
          state' := by
  rcases Program.exec_call_iff.mp h with hcut | ⟨answer, state'', rest, rfl, hanswer, hrest⟩
  · exact .inl hcut
  · rw [TrainingOp.Answers, TrainingOp.perform, inDirectory,
      ModelTree.read_eq (Function.update_self ..) hfile] at hanswer
    cases hanswer
    exact .inr ⟨rest, rfl, hrest⟩

/-- The files that are left are those of `save_bundle`. -/
theorem savedFiles_eq (training : Training P) (bundle : ModelBundle) {metadata : List UInt8}
    (hmetadata : metadata = plainBytes (metadataText training.trainer (training.saved bundle).metadata))
    {files files' : String → Option (List UInt8)}
    (hfiles : files = Function.update (Function.update (Function.update (fun _ => none) "model.joblib.tmp"
      (some (training.dumped bundle))) "model.joblib" (some (training.dumped bundle)))
        "model.joblib.tmp" none)
    (hfiles' : files' = Function.update (Function.update (Function.update files "metadata.json.tmp"
      (some metadata)) "metadata.json" (some metadata)) "metadata.json.tmp" none) :
    files' = training.savedFiles bundle := by
  funext name
  rw [hfiles', hfiles, hmetadata, savedFiles]
  by_cases hmetadata : name = "metadata.json"
  · rw [hmetadata]
    rfl
  · by_cases hartifact : name = "model.joblib"
    · rw [hartifact]
      rfl
    · rw [if_neg hmetadata, if_neg hartifact]
      by_cases htemporary : name = "metadata.json.tmp"
      · rw [htemporary]
        rfl
      · by_cases htemporary' : name = "model.joblib.tmp"
        · rw [htemporary']
          rfl
        · simp only [Function.update_of_ne, ne_eq, hmetadata, hartifact, htemporary, htemporary',
            not_false_eq_true]

/-- How far a run of `save_bundle` came that makes the directory. -/
theorem exec_saveBundle_new {directory : List String} {outcome : Option (Except PyError (Option ModelBundle))}
    (hnew : state.tree directory = none)
    (h : Program.Exec TrainingOp.Answers (saveBundle training.runtime training.trainer bundle directory)
      state trace outcome state') :
    (trace = [] ∧ outcome = none ∧ state' = state) ∨
      ((∀ other, MakesDirectory other trace ↔ other = directory) ∧
        ((outcome = none ∧ ¬ Publishes directory trace ∧
          ∃ files, files "metadata.json" = none ∧ state' = inDirectory state directory files) ∨
        ((outcome = none ∨ outcome = some (.ok (some (training.saved bundle)))) ∧
          Publishes directory trace ∧
          state' = inDirectory state directory (training.savedFiles bundle)))) := by
  rcases exec_mkdir_new hnew h with hcut | ⟨rest, rfl, hmade⟩
  · exact .inl hcut
  right
  rw [if_pos rfl] at hmade
  -- a run that is cut before the last rename has no metadata under its name
  rcases exec_write hmade with ⟨rfl, rfl, rfl⟩ | ⟨rest, rfl, hwritten⟩
  · exact ⟨by simp [MakesDirectory], .inl ⟨rfl, by simp [Publishes], _, rfl, rfl⟩⟩
  rcases exec_replace hwritten with ⟨rfl, rfl, rfl⟩ | ⟨rest, rfl, hreplaced⟩
  · exact ⟨by simp [MakesDirectory], .inl ⟨rfl, by simp [Publishes], _, rfl, rfl⟩⟩
  rcases exec_read (show _ = some (training.dumped bundle) from rfl) hreplaced with
    ⟨rfl, rfl, rfl⟩ | ⟨rest, rfl, hread⟩
  · exact ⟨by simp [MakesDirectory], .inl ⟨rfl, by simp [Publishes], _, rfl, rfl⟩⟩
  rcases exec_write hread with ⟨rfl, rfl, rfl⟩ | ⟨rest, rfl, hmetadata⟩
  · exact ⟨by simp [MakesDirectory], .inl ⟨rfl, by simp [Publishes], _, rfl, rfl⟩⟩
  rcases exec_replace hmetadata with ⟨rfl, rfl, rfl⟩ | ⟨rest, rfl, hpublished⟩
  · exact ⟨by simp [MakesDirectory], .inl ⟨rfl, by simp [Publishes], _, rfl, rfl⟩⟩
  obtain ⟨rfl, rfl, houtcome⟩ := Program.exec_done_iff.mp hpublished
  refine ⟨by simp [MakesDirectory], .inr ⟨houtcome, by simp [Publishes], ?_⟩⟩
  exact congrArg _ (savedFiles_eq training bundle rfl rfl rfl)

theorem exec_saveBundle_existing {directory : List String}
    {outcome : Option (Except PyError (Option ModelBundle))}
    (hexists : (state.tree directory).isSome = true)
    (h : Program.Exec TrainingOp.Answers (saveBundle training.runtime training.trainer bundle directory)
      state trace outcome state') :
    state' = state ∧ (∀ other, ¬ MakesDirectory other trace) ∧
      (outcome = none ∨ outcome = some (.ok none)) := by
  rcases exec_mkdir_existing hexists h with ⟨rfl, rfl, rfl⟩ | ⟨rest, rfl, hfound⟩
  · exact ⟨rfl, fun _ => List.not_mem_nil, .inl rfl⟩
  · obtain ⟨rfl, rfl, houtcome⟩ := Program.exec_done_iff.mp hfound
    exact ⟨rfl, by simp [MakesDirectory], houtcome⟩

/-! ### Programs that leave the files alone -/

theorem registerBundle_only (metadata : ModelMetadata) (path : List String) :
    (training.registerBundle metadata path).Only TrainingOp.KeepsTree := by
  rw [registerBundle]
  split
  · trivial
  · exact ⟨trivial, fun _ => trivial⟩

theorem existingBundle_only (deviceId : String) (version : Text) (directory : List String) :
    (training.existingBundle deviceId version directory).Only TrainingOp.KeepsTree := by
  apply Program.Only.bind
  · exact ⟨trivial, fun _ => ⟨trivial, fun _ => trivial⟩⟩
  · intro loaded
    cases loaded with
    | error error => trivial
    | ok saved =>
        dsimp only
        split
        · trivial
        · trivial

theorem exec_keepsTree {α : Type} {program : TrainingProgram α} {outcome : Option α}
    (honly : program.Only TrainingOp.KeepsTree)
    (h : Program.Exec TrainingOp.Answers program state trace outcome state') :
    state'.tree = state.tree ∧ (∀ other, ¬ MakesDirectory other trace) ∧
      ∀ other, ¬ Publishes other trace := by
  obtain ⟨hops, htree⟩ := h.only honly answers_tree
  exact ⟨htree, fun other hmakes => hops _ hmakes, fun other hpublishes => hops _ hpublishes⟩

theorem makesDirectory_append {other : List String} {before after : List (Program.Answered TrainingOp.Res)}
    (hafter : ¬ MakesDirectory other after) :
    MakesDirectory other (before ++ after) ↔ MakesDirectory other before :=
  List.mem_append.trans (or_iff_left hafter)

theorem publishes_append {other : List String} {before after : List (Program.Answered TrainingOp.Res)}
    (hafter : ¬ Publishes other after) : Publishes other (before ++ after) ↔ Publishes other before :=
  List.mem_append.trans (or_iff_left hafter)

/-- **What a run leaves.** The tree as it was, or one directory more, with what is in it. -/
theorem exec_trainAndRegister {outcome : Option (Except PyError AnomalyModel)}
    (h : Program.Exec TrainingOp.Answers (training.trainAndRegister call) state trace outcome state') :
    (state'.tree = state.tree ∧ ∀ other, ¬ MakesDirectory other trace) ∨
      ∃ bundle files, training.train call = .ok bundle ∧ state.tree (training.directory bundle) = none ∧
        (∀ other, MakesDirectory other trace ↔ other = training.directory bundle) ∧
        state'.tree = Function.update state.tree (training.directory bundle) (some files) ∧
        (¬ Publishes (training.directory bundle) trace ∧ files "metadata.json" = none ∨
          Publishes (training.directory bundle) trace ∧ files = training.savedFiles bundle) := by
  rw [trainAndRegister] at h
  cases htrain : training.train call with
  | error error =>
      rw [htrain] at h
      obtain ⟨rfl, rfl, -⟩ := Program.exec_done_iff.mp h
      exact .inl ⟨rfl, fun _ => List.not_mem_nil⟩
  | ok bundle =>
      rw [htrain] at h
      rcases Program.exec_bind_iff.mp h with
        ⟨-, hcut⟩ | ⟨value, middle, before, after, rfl, hsaved, hrest⟩
      · cases htree : state.tree (training.directory bundle) with
        | none =>
            rcases exec_saveBundle_new htree hcut with
              ⟨rfl, -, rfl⟩ | ⟨hmakes, ⟨-, hpart, files, hfiles, rfl⟩ | ⟨-, hwhole, rfl⟩⟩
            · exact .inl ⟨rfl, fun _ => List.not_mem_nil⟩
            · exact .inr ⟨bundle, files, rfl, htree, hmakes, rfl, .inl ⟨hpart, hfiles⟩⟩
            · exact .inr ⟨bundle, _, rfl, htree, hmakes, rfl, .inr ⟨hwhole, rfl⟩⟩
        | some files =>
            have hexists : (state.tree (training.directory bundle)).isSome = true := by
              rw [htree]
              rfl
            obtain ⟨rfl, hmakes, -⟩ := exec_saveBundle_existing hexists hcut
            exact .inl ⟨rfl, hmakes⟩
      · cases htree : state.tree (training.directory bundle) with
        | none =>
            rcases exec_saveBundle_new htree hsaved with
              ⟨-, hnone, -⟩ | ⟨hmakes, ⟨hnone, -⟩ | ⟨hvalue, hwhole, rfl⟩⟩
            · cases hnone
            · cases hnone
            · obtain rfl := Option.some.inj (hvalue.resolve_left (Option.some_ne_none _))
              obtain ⟨htree', hmakes', hpublishes'⟩ := exec_keepsTree (registerBundle_only _ _) hrest
              refine .inr ⟨bundle, _, rfl, htree, ?_, htree', .inr ⟨?_, rfl⟩⟩
              · exact fun other => (makesDirectory_append (hmakes' other)).trans (hmakes other)
              · exact (publishes_append (hpublishes' _)).mpr hwhole
        | some files =>
            have hexists : (state.tree (training.directory bundle)).isSome = true := by
              rw [htree]
              rfl
            obtain ⟨rfl, hmakes, hvalue⟩ := exec_saveBundle_existing hexists hsaved
            obtain rfl := Option.some.inj (hvalue.resolve_left (Option.some_ne_none _))
            have hkept := fun honly => exec_keepsTree honly hrest
            obtain ⟨htree', hmakes', -⟩ := hkept (by
              apply Program.Only.bind (existingBundle_only _ _ _)
              intro loaded
              cases loaded with
              | error error => trivial
              | ok saved => exact registerBundle_only _ _)
            exact .inl ⟨htree', fun other =>
              (makesDirectory_append (hmakes' other)).not.mpr (hmakes other)⟩

/-! ### Calls that are not cut -/

/-- The uncut run of a program is one of its runs. -/
theorem exec_perform {α : Type} (program : TrainingProgram α) (state : TrainingState) :
    ∃ trace, Program.Exec TrainingOp.Answers program state trace
      (some (program.run TrainingOp.perform state).1) (program.run TrainingOp.perform state).2 :=
  Program.exec_run TrainingOp.perform (fun _ _ => rfl) program state

theorem run_saveBundle_new {directory : List String} (hnew : state.tree directory = none) :
    (saveBundle training.runtime training.trainer bundle directory).run TrainingOp.perform state =
      (.ok (some (training.saved bundle)), inDirectory state directory (training.savedFiles bundle)) := by
  obtain ⟨trace, hrun⟩ := exec_perform
    (saveBundle training.runtime training.trainer bundle directory) state
  rcases exec_saveBundle_new hnew hrun with ⟨-, hnone, -⟩ | ⟨-, ⟨hnone, -⟩ | ⟨hvalue, -, hstate⟩⟩
  · cases hnone
  · cases hnone
  · have hresult := Option.some.inj (hvalue.resolve_left (Option.some_ne_none _))
    exact Prod.ext hresult hstate

theorem run_saveBundle_existing {directory : List String}
    (hexists : (state.tree directory).isSome = true) :
    (saveBundle training.runtime training.trainer bundle directory).run TrainingOp.perform state =
      (.ok none, state) := by
  obtain ⟨trace, hrun⟩ := exec_perform
    (saveBundle training.runtime training.trainer bundle directory) state
  obtain ⟨hstate, -, hvalue⟩ := exec_saveBundle_existing hexists hrun
  exact Prod.ext (Option.some.inj (hvalue.resolve_left (Option.some_ne_none _))) hstate

/-- A call that makes the directory of its bundle registers what it saved. -/
theorem run_storeBundle_new (hnew : state.tree (training.directory bundle) = none) :
    (training.storeBundle call bundle).run TrainingOp.perform state =
      (training.registerBundle (training.saved bundle).metadata (bundlePath bundle.metadata)).run
        TrainingOp.perform
        (inDirectory state (training.directory bundle) (training.savedFiles bundle)) := by
  have hsave := @run_saveBundle_new _ training bundle state _ hnew
  rw [directory] at hsave
  rw [storeBundle, Program.run_bind, hsave]
  rfl

theorem run_existingBundle (deviceId : String) (version : Text) (directory : List String) :
    (training.existingBundle deviceId version directory).run TrainingOp.perform state =
      ((do
        let saved ← loadBundle training.runtime (state.tree.artifacts directory)
        if saved.metadata.deviceId = codes deviceId ∧ saved.metadata.modelVersion = version then .ok saved
        else .error ⟨.artifactError, "MODEL_EXISTING_ARTIFACT_MISMATCH"⟩), state) := by
  have hload : (training.loadBundleFrom directory).run TrainingOp.perform state =
      (loadBundle training.runtime (state.tree.artifacts directory), state) := rfl
  rw [existingBundle, Program.run_bind, hload]
  cases loadBundle training.runtime (state.tree.artifacts directory) with
  | error error => rfl
  | ok saved =>
      rw [ok_bind]
      dsimp only
      split_ifs
      · rfl
      · rfl

section Existing

variable (hexists : (state.tree (training.directory bundle)).isSome = true)

include hexists

/-- A call that finds the directory of its bundle goes on with what is loaded from there. -/
theorem run_storeBundle_existing {answer : Except PyError ModelBundle}
    (hanswer : (training.existingBundle call.deviceId bundle.metadata.modelVersion
      (training.directory bundle)).run TrainingOp.perform state = (answer, state))
    {result : Except PyError AnomalyModel × TrainingState}
    (herror : ∀ error, answer = .error error → result = (.error error, state))
    (hsaved : ∀ saved, answer = .ok saved →
      result = (training.registerBundle saved.metadata (bundlePath bundle.metadata)).run
        TrainingOp.perform state) :
    (training.storeBundle call bundle).run TrainingOp.perform state = result := by
  have hsave := @run_saveBundle_existing _ training bundle state _ hexists
  rw [directory] at hsave hanswer
  rw [storeBundle, Program.run_bind, hsave]
  dsimp only
  rw [Program.run_bind, hanswer]
  cases answer with
  | error error => exact (herror error rfl).symm
  | ok saved => exact (hsaved saved rfl).symm

theorem run_storeBundle_error {error : PyError}
    (hload : loadBundle training.runtime (state.tree.artifacts (training.directory bundle)) =
      .error error) :
    (training.storeBundle call bundle).run TrainingOp.perform state = (.error error, state) := by
  have hanswer : (training.existingBundle call.deviceId bundle.metadata.modelVersion
      (training.directory bundle)).run TrainingOp.perform state = (.error error, state) := by
    rw [run_existingBundle, hload, error_bind]
  apply run_storeBundle_existing hexists hanswer
  · intro error' hsame
    rw [Except.error.inj hsame]
  · intro saved hsame
    cases hsame

theorem run_storeBundle_loaded {loaded : ModelBundle}
    (hload : loadBundle training.runtime (state.tree.artifacts (training.directory bundle)) = .ok loaded)
    (hdevice : loaded.metadata.deviceId = codes call.deviceId)
    (hversion : loaded.metadata.modelVersion = bundle.metadata.modelVersion) :
    (training.storeBundle call bundle).run TrainingOp.perform state =
      (training.registerBundle loaded.metadata (bundlePath bundle.metadata)).run TrainingOp.perform
        state := by
  have hanswer : (training.existingBundle call.deviceId bundle.metadata.modelVersion
      (training.directory bundle)).run TrainingOp.perform state = (.ok loaded, state) := by
    rw [run_existingBundle, hload, ok_bind, if_pos ⟨hdevice, hversion⟩]
  apply run_storeBundle_existing hexists hanswer
  · intro error hsame
    cases hsame
  · intro saved hsame
    rw [Except.ok.inj hsame]

end Existing

/-- The row that a registration returns. -/
theorem perform_register (entry : RegistryEntry) (state : TrainingState) :
    let answer := TrainingOp.perform (.register entry) state
    answer.1.deviceId = entry.deviceId ∧ answer.1.modelVersion = entry.modelVersion ∧
      answer.1.artifactPath = entry.artifactPath ∧ answer.1.artifactChecksum = entry.artifactChecksum ∧
      answer.2.tree = state.tree := by
  dsimp only
  rw [TrainingOp.perform]
  split
  · rename_i model hfound
    have hmodel := List.find?_some hfound
    rw [RegistryEntry.isOf, Bool.and_eq_true, decide_eq_true_eq, decide_eq_true_eq] at hmodel
    exact ⟨hmodel.1, hmodel.2, rfl, rfl, rfl⟩
  · exact ⟨rfl, rfl, rfl, rfl, rfl⟩

end Training

end IiotMonitoring.AnomalyWorker
