import IiotMonitoring.Lib.Firsts
import IiotMonitoring.Lib.SortedEnds
import IiotMonitoring.Proof.TrainingCrash

/-!
# What training takes effect on

Whole calls, one after the other. The first call that trains a version makes its directory and its row;
a later one registers the bundle of the first again, with the time at which that was made.
-/

namespace IiotMonitoring.AnomalyWorker

theorem writeModel_self {models : List AnomalyModel} {row : AnomalyModel}
    (h : ∀ model ∈ models, model.id = row.id → model = row) : writeModel models (some row) = models := by
  rw [writeModel]
  refine (List.map_congr_left ?_).trans (List.map_id models)
  intro model hmodel
  split_ifs with hid
  · exact (h model hmodel hid).symm
  · rfl

/-- A call that trains, with its bundle. -/
structure TrainedCall where
  call : TrainingCall
  bundle : ModelBundle

namespace Training

variable {P : Type} (training : Training P)

/-- A call that is not cut. -/
def step (state : TrainingState) (call : TrainingCall) : TrainingState :=
  ((training.trainAndRegister call).run TrainingOp.perform state).2

/-- The calls that train. -/
def successes (calls : List TrainingCall) : List TrainedCall :=
  calls.filterMap fun call => (training.train call).toOption.map (TrainedCall.mk call)

/-- The calls train the same version for the same device. -/
def sameModel (left right : TrainedCall) : Bool :=
  left.call.deviceId = right.call.deviceId && training.version left.call = training.version right.call

/-- The first calls of each version, in order. -/
def originals (calls : List TrainingCall) : List TrainedCall :=
  firsts training.sameModel (training.successes calls)

/-- The registry row of an original call, by its place among them. -/
def row (place : Nat) (original : TrainedCall) : AnomalyModel :=
  (training.entry original.call original.bundle).newModel (place + 1)

/-- Where the files of a call go. -/
def place (call : TrainingCall) : List String := training.root ++ [call.deviceId, training.version call]

/-- What the original calls have left. -/
structure Stores (kept : List TrainedCall) (state : TrainingState) : Prop where
  models : state.models = kept.mapIdx training.row
  nextModelId : state.nextModelId = kept.length + 1
  apart : kept.Pairwise fun left right => training.sameModel left right = false
  trained : ∀ original ∈ kept,
    training.Fits original.call ∧ training.train original.call = .ok original.bundle
  present : ∀ original ∈ kept,
    state.tree (training.place original.call) = some (training.savedFiles original.bundle)
  absent : ∀ trained, kept.any (fun original => training.sameModel original trained) = false →
    state.tree (training.place trained.call) = none

variable {training} {call : TrainingCall} {bundle : ModelBundle} {state : TrainingState}
  {kept : List TrainedCall}

theorem sameModel_iff {left right : TrainedCall} : training.sameModel left right = true ↔
    left.call.deviceId = right.call.deviceId ∧ training.version left.call = training.version right.call := by
  rw [sameModel, Bool.and_eq_true, decide_eq_true_eq, decide_eq_true_eq]

theorem place_eq_iff {left right : TrainedCall} :
    training.place left.call = training.place right.call ↔ training.sameModel left right = true := by
  rw [place, place, List.append_cancel_left_eq, List.cons.injEq, List.cons.injEq, sameModel_iff]
  exact ⟨fun h => ⟨h.1, h.2.1⟩, fun h => ⟨h.1, h.2, rfl⟩⟩

/-- The entry of a call is of the rows of its version. -/
theorem isOf_row {place : Nat} {original trained : TrainedCall} :
    (training.entry trained.call trained.bundle).isOf (training.row place original) =
      training.sameModel original trained := rfl

theorem Stores.of_mem (h : training.Stores kept state) {model : AnomalyModel} (hmodel : model ∈ state.models) :
    ∃ place original, kept[place]? = some original ∧ model = training.row place original := by
  rw [h.models] at hmodel
  obtain ⟨place, hplace, rfl⟩ := List.mem_mapIdx.mp hmodel
  exact ⟨place, kept[place], List.getElem?_eq_getElem hplace, rfl⟩

theorem Stores.mem (h : training.Stores kept state) {place : Nat} {original : TrainedCall}
    (hplace : kept[place]? = some original) : training.row place original ∈ state.models := by
  obtain ⟨hlt, rfl⟩ := List.getElem?_eq_some_iff.mp hplace
  rw [h.models]
  exact List.mem_mapIdx.mpr ⟨place, hlt, rfl⟩

/-- Rows are told apart by their keys. -/
theorem Stores.eq_of_id (h : training.Stores kept state) {left right : AnomalyModel}
    (hleft : left ∈ state.models) (hright : right ∈ state.models) (hid : left.id = right.id) :
    left = right := by
  obtain ⟨place, original, hplace, rfl⟩ := h.of_mem hleft
  obtain ⟨place', original', hplace', rfl⟩ := h.of_mem hright
  obtain rfl : place = place' := Nat.succ.inj hid
  rw [hplace] at hplace'
  rw [Option.some.inj hplace']

theorem Stores.find?_row (h : training.Stores kept state) {place : Nat} {original : TrainedCall}
    (hplace : kept[place]? = some original) :
    state.models.find? (training.entry original.call original.bundle).isOf =
      some (training.row place original) := by
  obtain ⟨hlt, rfl⟩ := List.getElem?_eq_some_iff.mp hplace
  rw [h.models, List.find?_eq_some_iff_getElem]
  refine ⟨sameModel_iff.mpr ⟨rfl, rfl⟩, place, (List.length_mapIdx).symm ▸ hlt, List.getElem_mapIdx .., ?_⟩
  intro earlier hearlier
  rw [List.getElem_mapIdx, isOf_row, List.pairwise_iff_getElem.mp h.apart earlier place _ hlt hearlier]
  rfl

theorem Stores.place_unique (h : training.Stores kept state) {place place' : Nat}
    {original original' : TrainedCall} (hplace : kept[place]? = some original)
    (hplace' : kept[place']? = some original') (hsame : training.sameModel original original' = true) :
    place = place' := by
  obtain ⟨hdevice, hversion⟩ := sameModel_iff.mp hsame
  have hisOf : (training.entry original.call original.bundle).isOf =
      (training.entry original'.call original'.bundle).isOf := by
    funext model
    rw [RegistryEntry.isOf, RegistryEntry.isOf, entry, entry, hdevice, hversion]
  have hrow := h.find?_row hplace
  rw [hisOf, h.find?_row hplace'] at hrow
  have hid : place' + 1 = place + 1 := congrArg AnomalyModel.id (Option.some.inj hrow)
  exact (Nat.succ.inj hid).symm

/-! ### One call -/

/-- The state with the model of one more original call. -/
def added (training : Training P) (state : TrainingState) (trained : TrainedCall) : TrainingState where
  tree := Function.update state.tree (training.place trained.call) (some (training.savedFiles trained.bundle))
  models := state.models ++ [(training.entry trained.call trained.bundle).newModel state.nextModelId]
  nextModelId := state.nextModelId + 1

theorem Stores.add (h : training.Stores kept state) {trained : TrainedCall}
    (hfits : training.Fits trained.call) (htrain : training.train trained.call = .ok trained.bundle)
    (hnew : kept.any (fun original => training.sameModel original trained) = false) :
    training.Stores (kept ++ [trained]) (training.added state trained) where
  models := by
    rw [added, h.models, h.nextModelId, List.mapIdx_concat]
    rfl
  nextModelId := by
    rw [added, h.nextModelId, List.length_append]
    rfl
  apart := by
    rw [← addFirst_added hnew]
    exact pairwise_addFirst h.apart
  trained := by
    rw [List.forall_mem_append, List.forall_mem_singleton]
    exact ⟨h.trained, hfits, htrain⟩
  present := by
    rw [List.forall_mem_append, List.forall_mem_singleton]
    constructor
    · intro original horiginal
      have hother := List.any_eq_false.mp hnew original horiginal
      exact (Function.update_of_ne (mt place_eq_iff.mp hother) ..).trans (h.present original horiginal)
    · exact Function.update_self ..
  absent := by
    intro other hother
    rw [List.any_append, Bool.or_eq_false_iff, List.any_cons, Bool.or_eq_false_iff] at hother
    have hplace : training.place other.call ≠ training.place trained.call := by
      intro hsame
      have htrue := place_eq_iff.mp hsame.symm
      rw [hother.2.1] at htrue
      cases htrue
    exact (Function.update_of_ne hplace ..).trans (h.absent other hother.1)

section Call

variable (hdocumented : training.trainer.Documented training.runtime)

include hdocumented

theorem run_registerBundle {original : TrainedCall} (hfits : training.Fits original.call)
    (htrain : training.train original.call = .ok original.bundle) :
    (training.registerBundle (training.saved original.bundle).metadata
        [original.call.deviceId, training.version original.call]).run TrainingOp.perform state =
      let registered := TrainingOp.perform (.register (training.entry original.call original.bundle)) state
      (.ok registered.1, registered.2) := by
  obtain ⟨htrained⟩ := train_cases hfits htrain
  rw [registerBundle, registryEntry_saved htrained hdocumented hfits]
  rfl

/-- The first call of a version adds its model. -/
theorem Stores.run_new (h : training.Stores kept state) {trained : TrainedCall}
    (hfits : training.Fits trained.call) (htrain : training.train trained.call = .ok trained.bundle)
    (hnew : kept.any (fun original => training.sameModel original trained) = false) :
    (training.trainAndRegister trained.call).run TrainingOp.perform state =
      (.ok (training.row kept.length trained), training.added state trained) := by
  obtain ⟨htrained⟩ := train_cases hfits htrain
  have hplace : training.directory trained.bundle = training.place trained.call :=
    directory_eq hdocumented hfits htrain
  have hnone : state.models.find? (training.entry trained.call trained.bundle).isOf = none := by
    rw [List.find?_eq_none]
    intro model hmodel
    obtain ⟨place, original, hkept, rfl⟩ := h.of_mem hmodel
    exact List.any_eq_false.mp hnew original (List.mem_of_getElem? hkept)
  have hregister : TrainingOp.perform (.register (training.entry trained.call trained.bundle))
      (inDirectory state (training.place trained.call) (training.savedFiles trained.bundle)) =
      (training.row kept.length trained, training.added state trained) := by
    rw [TrainingOp.perform, inDirectory]
    dsimp only
    rw [hnone, added, row, h.nextModelId]
  have hdirectory : state.tree (training.directory trained.bundle) = none := by
    rw [hplace]
    exact h.absent trained hnew
  rw [run_train htrain, run_storeBundle_new hdirectory, htrained.bundlePath_eq hdocumented, hplace,
    run_registerBundle hdocumented hfits htrain, hregister]

/-- A later call of a version returns the row of the first and changes nothing. -/
theorem Stores.run_again (h : training.Stores kept state) {trained : TrainedCall}
    (hfits : training.Fits trained.call) (htrain : training.train trained.call = .ok trained.bundle)
    {place : Nat} {original : TrainedCall} (hplace : kept[place]? = some original)
    (hsame : training.sameModel original trained = true) :
    (training.trainAndRegister trained.call).run TrainingOp.perform state =
      (.ok (training.row place original), state) := by
  obtain ⟨htrained⟩ := train_cases hfits htrain
  have hmem := List.mem_of_getElem? hplace
  obtain ⟨hfits', htrain'⟩ := h.trained original hmem
  obtain ⟨htrained'⟩ := train_cases hfits' htrain'
  obtain ⟨hdevice, hversion⟩ := sameModel_iff.mp hsame
  have hfiles : state.tree (training.directory trained.bundle) =
      some (training.savedFiles original.bundle) := by
    rw [directory_eq hdocumented hfits htrain, ← hdevice, ← hversion]
    exact h.present original hmem
  have hexists : (state.tree (training.directory trained.bundle)).isSome = true := by
    rw [hfiles]
    rfl
  have hsaved := load_savedFiles hdocumented hfits' htrain' hfiles
  have hloadedDevice : (training.saved original.bundle).metadata.deviceId = codes trained.call.deviceId :=
    htrained'.deviceId_eq.trans (congrArg codes hdevice)
  have hloadedVersion : (training.saved original.bundle).metadata.modelVersion =
      trained.bundle.metadata.modelVersion := by
    rw [htrained.modelVersion_eq hdocumented, ← hversion]
    exact htrained'.modelVersion_eq hdocumented
  have hregister : TrainingOp.perform (.register (training.entry original.call original.bundle)) state =
      (training.row place original, state) := by
    have hsame : writeModel state.models (some (training.row place original)) = state.models :=
      writeModel_self fun model hmodel hid => h.eq_of_id hmodel (h.mem hplace) hid
    rw [TrainingOp.perform, h.find?_row hplace]
    exact congrArg _ (congrArg (fun models => { state with models }) hsame)
  rw [run_train htrain, run_storeBundle_loaded hexists hsaved hloadedDevice hloadedVersion,
    htrained.bundlePath_eq hdocumented, ← hdevice, ← hversion,
    run_registerBundle hdocumented hfits' htrain', hregister]

end Call

/-! ### A history of calls -/

/-- The row is the one that scoring of the device takes at an instant, with its model, which is not stale. -/
structure TakesEffect (training : Training P) (state : TrainingState) (days : Nat) (deviceId : String)
    (row : AnomalyModel) (now : Int) : Prop where
  latest : latestRegistry state.models deviceId = some row
  loaded : ∃ bundle,
    loadReadyBundle training.runtime ⟨training.files state, days⟩ state.models deviceId now =
      .ok (.ready row bundle) ∧
    bundle.metadata.modelVersion = codes row.modelVersion ∧
    modelIsStale training.runtime bundle.metadata now days = .ok false

/-- The original call at a place is the newest of its device by the clocks and then by their order, and its
model is not stale. -/
structure Newest (originals : List TrainedCall) (place : Nat) (original : TrainedCall) (days : Nat)
    (now : Int) : Prop where
  after : ∀ otherPlace other, originals[otherPlace]? = some other →
    other.call.deviceId = original.call.deviceId →
      other.call.now < original.call.now ∨
        (other.call.now = original.call.now ∧ otherPlace ≤ place)
  fresh : now - original.call.now ≤ days * 86400000000

/-- The first call that trained the version of a call is the newest. -/
def IsNewest (training : Training P) (calls : List TrainingCall) (call : TrainingCall) (days : Nat)
    (now : Int) : Prop :=
  ∃ place original, (training.originals calls)[place]? = some original ∧
    original.call.deviceId = call.deviceId ∧ training.version original.call = training.version call ∧
    Newest (training.originals calls) place original days now

theorem originals_append_trained {calls : List TrainingCall} {trained : TrainedCall}
    (htrain : training.train trained.call = .ok trained.bundle) :
    training.originals (calls ++ [trained.call]) =
      addFirst training.sameModel (training.originals calls) trained := by
  have hsuccess : training.successes [trained.call] = [trained] := by
    rw [successes, List.filterMap_cons, htrain]
    rfl
  rw [successes] at hsuccess
  rw [originals, successes, List.filterMap_append, hsuccess, firsts, List.foldl_append]
  rfl

theorem originals_append_error {calls : List TrainingCall} {error : PyError}
    (htrain : training.train call = .error error) :
    training.originals (calls ++ [call]) = training.originals calls := by
  have hsuccess : training.successes [call] = [] := by
    rw [successes, List.filterMap_cons, htrain]
    rfl
  rw [successes] at hsuccess
  rw [originals, successes, List.filterMap_append, hsuccess, List.append_nil]
  rfl

section History

variable (hdocumented : training.trainer.Documented training.runtime)

include hdocumented

/-- One call that trains. -/
theorem Stores.step (h : training.Stores kept state) {trained : TrainedCall}
    (hfits : training.Fits trained.call) (htrain : training.train trained.call = .ok trained.bundle) :
    ∃ place original state',
      (training.trainAndRegister trained.call).run TrainingOp.perform state =
        (.ok (training.row place original), state') ∧
      training.Stores (addFirst training.sameModel kept trained) state' ∧
      (addFirst training.sameModel kept trained)[place]? = some original ∧
      training.sameModel original trained = true := by
  cases hany : kept.any fun original => training.sameModel original trained with
  | false =>
      rw [addFirst_added hany]
      exact ⟨kept.length, trained, _, h.run_new hdocumented hfits htrain hany, h.add hfits htrain hany,
        List.getElem?_concat_length, sameModel_iff.mpr ⟨rfl, rfl⟩⟩
  | true =>
      obtain ⟨original, hmem, hsame⟩ := List.any_eq_true.mp hany
      obtain ⟨place, hplace⟩ := List.mem_iff_getElem?.mp hmem
      rw [addFirst_kept hany]
      exact ⟨place, original, state, h.run_again hdocumented hfits htrain hplace hsame, h, hplace, hsame⟩

/-- **A history.** Whole calls leave the models of the original ones. -/
theorem stores_exec (calls : List TrainingCall) (hfits : ∀ call ∈ calls, training.Fits call) :
    training.Stores (training.originals calls) (exec training.step .empty calls) := by
  induction calls using List.reverseRecOn with
  | nil =>
      exact ⟨rfl, rfl, .nil, List.forall_mem_nil _, List.forall_mem_nil _, fun _ _ => rfl⟩
  | append_singleton calls call ih =>
      rw [List.forall_mem_append, List.forall_mem_singleton] at hfits
      have hbefore := ih hfits.1
      rw [exec_append, exec_cons, exec_nil]
      cases htrain : training.train call with
      | error error =>
          rw [originals_append_error htrain, Training.step, trainAndRegister, htrain]
          exact hbefore
      | ok bundle =>
          let trained : TrainedCall := ⟨call, bundle⟩
          obtain ⟨place, original, state', hrun, hstores, -⟩ :=
            Stores.step hdocumented hbefore (show training.Fits trained.call from hfits.2) htrain
          rw [show call = trained.call from rfl, originals_append_trained htrain, Training.step, hrun]
          exact hstores

/-- What scoring finds behind an original row. -/
theorem Stores.currentBundle_row (h : training.Stores kept state) {place : Nat} {original : TrainedCall}
    (hplace : kept[place]? = some original) (days : Nat) (now : Int) :
    currentBundle training.runtime ⟨training.files state, days⟩ (training.row place original)
        original.call.deviceId now =
      .ok (if decide (now - original.call.now > days * 86400000000) then none
        else some (training.saved original.bundle)) ∧
    modelIsStale training.runtime (training.saved original.bundle).metadata now days =
      .ok (decide (now - original.call.now > days * 86400000000)) := by
  have hmem := List.mem_of_getElem? hplace
  obtain ⟨hfits, htrain⟩ := h.trained original hmem
  obtain ⟨htrained⟩ := train_cases hfits htrain
  have hpath : (training.row place original).artifactPath =
      (training.entry original.call original.bundle).artifactPath := rfl
  have hdirectory := trustedArtifactDirectory_entry hdocumented hfits state days hpath
  have hcreated : training.runtime.readInstant
      (replaceZ (training.saved original.bundle).metadata.createdAt) = .ok original.call.now := by
    have htext : (training.saved original.bundle).metadata.createdAt =
        codes (isoformat original.call.now) := by
      rw [saved, htrained.hmetadata]
      rfl
    rw [htext]
    exact hfits.now
  have hstale : modelIsStale training.runtime (training.saved original.bundle).metadata now days =
      .ok (decide (now - original.call.now > days * 86400000000)) := by
    rw [modelIsStale, hcreated]
    rfl
  refine ⟨?_, hstale⟩
  have hloaded := load_savedFiles hdocumented hfits htrain (h.present original hmem)
  rw [Training.place] at hloaded
  rw [currentBundle, hdirectory, ok_bind, hloaded, ok_bind]
  have hdevice : (training.saved original.bundle).metadata.deviceId = codes original.call.deviceId :=
    htrained.deviceId_eq
  have hversion : (training.saved original.bundle).metadata.modelVersion =
      codes (training.row place original).modelVersion :=
    htrained.modelVersion_eq hdocumented
  refine bind_demand.mpr ⟨by rw [hdevice, hversion, decide_eq_true rfl, decide_eq_true rfl]; rfl, ?_⟩
  refine bind_demand.mpr ⟨decide_eq_true (codes_checksum hdocumented original.bundle).symm, ?_⟩
  rw [hstale]
  rfl

end History

/-- The order of `_latest_registry`. -/
theorem Stores.sortsApart (h : training.Stores kept state) (deviceId : String) :
    SortsApart (fun left right : AnomalyModel => right.createdAt < left.createdAt ||
      (right.createdAt = left.createdAt && right.id ≤ left.id))
      (state.models.filter (·.deviceId = deviceId)) where
  trans := by
    intro a b c hab hbc
    simp only [Bool.or_eq_true, Bool.and_eq_true, decide_eq_true_eq] at hab hbc ⊢
    omega
  total := by
    intro a b
    simp only [Bool.or_eq_true, Bool.and_eq_true, decide_eq_true_eq]
    omega
  apart := by
    intro a ha b hb hab hba
    simp only [Bool.or_eq_true, Bool.and_eq_true, decide_eq_true_eq] at hab hba
    exact h.eq_of_id (List.mem_of_mem_filter ha) (List.mem_of_mem_filter hb) (by omega)

theorem Stores.latestRegistry_iff (h : training.Stores kept state) {place : Nat} {original : TrainedCall}
    (hplace : kept[place]? = some original) :
    latestRegistry state.models original.call.deviceId = some (training.row place original) ↔
      ∀ otherPlace other, kept[otherPlace]? = some other →
        other.call.deviceId = original.call.deviceId →
          other.call.now < original.call.now ∨
            (other.call.now = original.call.now ∧ otherPlace ≤ place) := by
  have hmem : training.row place original ∈
      state.models.filter (·.deviceId = original.call.deviceId) :=
    List.mem_filter.mpr ⟨h.mem hplace, decide_eq_true rfl⟩
  rw [latestRegistry, (h.sortsApart original.call.deviceId).head?_eq_some_iff, and_iff_right hmem]
  constructor
  · intro hfirst otherPlace other hother hdevice
    have hle := hfirst (training.row otherPlace other)
      (List.mem_filter.mpr ⟨h.mem hother, decide_eq_true hdevice⟩)
    simp only [Bool.or_eq_true, Bool.and_eq_true, decide_eq_true_eq] at hle
    exact hle.imp_right (And.imp_right Nat.le_of_succ_le_succ)
  · intro hnewest model hmodel
    rw [List.mem_filter, decide_eq_true_eq] at hmodel
    obtain ⟨otherPlace, other, hother, rfl⟩ := h.of_mem hmodel.1
    have hle := hnewest otherPlace other hother hmodel.2
    simp only [Bool.or_eq_true, Bool.and_eq_true, decide_eq_true_eq]
    exact hle.imp_right (And.imp_right Nat.succ_le_succ)

section Effect

variable (hdocumented : training.trainer.Documented training.runtime)

include hdocumented

theorem Stores.takesEffect_iff (h : training.Stores kept state) {place : Nat} {original : TrainedCall}
    (hplace : kept[place]? = some original) (days : Nat) (now : Int) :
    training.TakesEffect state days original.call.deviceId (training.row place original) now ↔
      Newest kept place original days now := by
  have hlatest := h.latestRegistry_iff hplace
  obtain ⟨hcurrent, hstale⟩ := h.currentBundle_row hdocumented hplace days now
  constructor
  · intro heffect
    refine ⟨hlatest.mp heffect.latest, ?_⟩
    by_contra hstale
    have hold : decide (now - original.call.now > days * 86400000000) = true :=
      decide_eq_true (not_le.mp hstale)
    obtain ⟨bundle, hloaded, -⟩ := heffect.loaded
    rw [hold] at hcurrent
    rw [loadReadyBundle, hlatest.mpr (hlatest.mp heffect.latest)] at hloaded
    dsimp only at hloaded
    rw [hcurrent] at hloaded
    cases hloaded
  · intro hnewest
    have hfresh : decide (now - original.call.now > days * 86400000000) = false :=
      decide_eq_false (not_lt.mpr hnewest.fresh)
    have hregistry := hlatest.mpr hnewest.after
    obtain ⟨hfits, htrain⟩ := h.trained original (List.mem_of_getElem? hplace)
    obtain ⟨htrained⟩ := train_cases hfits htrain
    refine ⟨hregistry, training.saved original.bundle, ?_, htrained.modelVersion_eq hdocumented, ?_⟩
    · rw [hfresh] at hcurrent
      rw [loadReadyBundle, hregistry]
      dsimp only
      rw [hcurrent]
      rfl
    · rw [hstale, hfresh]

/-- **The returned row takes effect.** After any calls, the row that a call returns is the one that scoring
takes, with its model, if and only if the first call that trained its version is the newest. -/
theorem returned_takesEffect_iff {calls : List TrainingCall} (hcalls : ∀ earlier ∈ calls, training.Fits earlier)
    (hfits : training.Fits call) {row : AnomalyModel} {state' : TrainingState}
    (hrun : (training.trainAndRegister call).run TrainingOp.perform (exec training.step .empty calls) =
      (.ok row, state')) (days : Nat) (now : Int) :
    training.TakesEffect state' days call.deviceId row now ↔
      training.IsNewest (calls ++ [call]) call days now := by
  have hbefore := stores_exec hdocumented calls hcalls
  cases htrain : training.train call with
  | error error =>
      rw [trainAndRegister, htrain] at hrun
      cases hrun
  | ok bundle =>
      let trained : TrainedCall := ⟨call, bundle⟩
      obtain ⟨place, original, after, hrun', hstores, hplace, hsame⟩ :=
        Stores.step hdocumented hbefore (show training.Fits trained.call from hfits) htrain
      rw [hrun] at hrun'
      cases hrun'
      obtain ⟨hdevice, hversion⟩ := sameModel_iff.mp hsame
      have heffect := hstores.takesEffect_iff hdocumented hplace days now
      rw [hdevice] at heffect
      refine heffect.trans ?_
      rw [← originals_append_trained htrain] at hstores hplace ⊢
      constructor
      · intro hnewest
        exact ⟨place, original, hplace, hdevice, hversion, hnewest⟩
      · rintro ⟨place', original', hplace', hdevice', hversion', hnewest⟩
        have hboth : training.sameModel original original' = true :=
          sameModel_iff.mpr ⟨hdevice.trans hdevice'.symm, hversion.trans hversion'.symm⟩
        obtain rfl := hstores.place_unique hplace hplace' hboth
        obtain rfl := Option.some.inj (hplace.symm.trans hplace')
        exact hnewest

end Effect

/-! ### A repeated interval -/

/-- Two calls of different intervals. -/
def demoHistory : List TrainingCall :=
  [demoTrainingCall 1786406400000000 1786407500000000, demoTrainingCall 1786406399000000 1786407600000000]

/-- The call of the first interval again. -/
def demoRepeated : TrainingCall := demoTrainingCall 1786406400000000 1786407700000000

def demoTrained (baselineStart now : Int) : TrainedCall :=
  ⟨demoTrainingCall baselineStart now, demoBundle baselineStart now⟩

theorem demo_versions (now now' : Int) :
    demoTraining.version (demoTrainingCall 1786406400000000 now) ≠
      demoTraining.version (demoTrainingCall 1786406399000000 now') := by
  have hversion : ∀ start now, demoTraining.version (demoTrainingCall start now) =
      pathPart (modelVersion demoTraining.runtime demoTrainer "motor-01" start 1786407400000000
        (.finite (9 / 100)) defaultRandomSeed) := fun _ _ => rfl
  rw [hversion, hversion]
  decide +kernel

theorem demo_originals : demoTraining.originals demoHistory =
    [demoTrained 1786406400000000 1786407500000000, demoTrained 1786406399000000 1786407600000000] := by
  have hsuccesses : demoTraining.successes demoHistory =
      [demoTrained 1786406400000000 1786407500000000, demoTrained 1786406399000000 1786407600000000] := by
    rw [successes, demoHistory, List.filterMap_cons, demo_train (by decide), List.filterMap_cons,
      demo_train (by decide)]
    rfl
  rw [originals, hsuccesses]
  apply firsts_of_pairwise
  rw [List.pairwise_pair]
  exact Bool.eq_false_iff.mpr fun hsame => demo_versions _ _ (sameModel_iff.mp hsame).2

theorem demo_calls_fit : ∀ call ∈ demoHistory, demoTraining.Fits call := by
  rw [demoHistory, List.forall_mem_cons, List.forall_mem_singleton]
  exact ⟨demo_fits (by decide) (by decide) (by decide), demo_fits (by decide) (by decide) (by decide)⟩

theorem demo_repeated_fits : demoTraining.Fits demoRepeated :=
  demo_fits (by decide) (by decide) (by decide)

theorem demo_stores : demoTraining.Stores
    [demoTrained 1786406400000000 1786407500000000, demoTrained 1786406399000000 1786407600000000]
    (exec demoTraining.step .empty demoHistory) := by
  rw [← demo_originals]
  exact stores_exec demo_documented demoHistory demo_calls_fit

/-- The repeated call returns the row of the first. -/
theorem demo_run : (demoTraining.trainAndRegister demoRepeated).run TrainingOp.perform
    (exec demoTraining.step .empty demoHistory) =
      (.ok (demoTraining.row 0 (demoTrained 1786406400000000 1786407500000000)),
        exec demoTraining.step .empty demoHistory) := by
  have htrain : demoTraining.train (demoTrained 1786406400000000 1786407700000000).call =
      .ok (demoTrained 1786406400000000 1786407700000000).bundle := demo_train (by decide) _
  exact demo_stores.run_again demo_documented demo_repeated_fits htrain rfl (sameModel_iff.mpr ⟨rfl, rfl⟩)

theorem returned_takesEffect_iff_demo :
    demoTraining.TakesEffect (exec demoTraining.step .empty demoHistory) 30 "motor-01"
        (demoTraining.row 0 (demoTrained 1786406400000000 1786407500000000)) 1786407700000001 ↔
      demoTraining.IsNewest (demoHistory ++ [demoRepeated]) demoRepeated 30 1786407700000001 :=
  returned_takesEffect_iff demo_documented demo_calls_fit demo_repeated_fits demo_run 30 1786407700000001

/-- Scoring goes on with the second model. -/
theorem repeated_not_takesEffect :
    ¬ ∀ row state', (demoTraining.trainAndRegister demoRepeated).run TrainingOp.perform
        (exec demoTraining.step .empty demoHistory) = (.ok row, state') →
      ∀ now, demoRepeated.now ≤ now → now - demoRepeated.now < 30 * 86400000000 →
        demoTraining.TakesEffect state' 30 "motor-01" row now := by
  intro h
  have heffect := h _ _ demo_run 1786407700000001 (by decide) (by decide)
  have hplace : [demoTrained 1786406400000000 1786407500000000,
      demoTrained 1786406399000000 1786407600000000][0]? =
      some (demoTrained 1786406400000000 1786407500000000) := rfl
  have hnewest := (demo_stores.takesEffect_iff demo_documented hplace 30 _).mp heffect
  have hsecond := hnewest.after 1 (demoTrained 1786406399000000 1786407600000000) rfl rfl
  revert hsecond
  decide

end Training

end IiotMonitoring.AnomalyWorker
