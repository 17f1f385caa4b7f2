import IiotMonitoring.Lib.Run
import IiotMonitoring.Proof.ArtifactLoad
import IiotMonitoring.Proof.ScoringCall

/-!
# Scoring settles

What a call writes on its targets takes them out of its own mode for good and puts no row back into
the other one. So each row is handled at most once in each mode, and the modes run out of targets.
-/

namespace IiotMonitoring.AnomalyWorker

variable (math : FloatMath) {P : Type} (runtime : Runtime P) (deviceId : String)

/-! ### Runs -/

/-- A call with what it finds outside the rows: registered models, artifact files and the clock. -/
structure ScoringCall where
  models : List AnomalyModel
  settings : Settings
  clock : ScoringClock

def ScoringCall.loaded (call : ScoringCall) : Except PyError Loaded :=
  loadReadyBundle runtime call.settings call.models deviceId call.clock.now

def ScoringCall.score (call : ScoringCall) (tables : WorkerTables) :
    Except PyError (Nat × WorkerTables) :=
  scoreDeviceOnce math runtime call.settings { tables with models := call.models } deviceId call.clock

/-- The tables after a call. One that raises is rolled back. -/
def callStep (tables : WorkerTables) (call : ScoringCall) : WorkerTables :=
  match call.score math runtime deviceId tables with
  | .ok (_, tables) => tables
  | .error _ => tables

/-- The mode of a call and the rows that it handles. -/
def handledBy (tables : WorkerTables) (call : ScoringCall) : Bool × List Nat :=
  match call.loaded runtime deviceId with
  | .ok loaded => (loaded.isReady, (targets tables.rows deviceId loaded.isReady).map (·.id))
  | .error _ => (false, [])

def history (tables : WorkerTables) : List ScoringCall → List (Bool × List Nat)
  | [] => []
  | call :: calls =>
      handledBy runtime deviceId tables call :: history (callStep math runtime deviceId tables call) calls

/-- A usable model's estimator answers for every matrix, and its reference scores are one array. -/
structure ModelBundle.Usable (bundle : ModelBundle) : Prop where
  answers : ∀ matrix, bundle.estimator.Answers matrix
  flat : bundle.Flat

/-- The call finds a usable model, or none: versions fit their column. -/
structure ScoringCall.Sound (call : ScoringCall) : Prop where
  versions : ∀ model ∈ call.models, model.modelVersion.length ≤ 80
  loads : ∃ loaded, call.loaded runtime deviceId = .ok loaded
  usable : ∀ registry bundle, call.loaded runtime deviceId = .ok (.ready registry bundle) →
    bundle.Usable

/-- Every row is handled at most once in each mode, every call with targets handles rows that were not
handled before in its mode, and when both modes have run out of targets nothing changes any more. -/
structure ScoringSettles (tables : WorkerTables) (calls : List ScoringCall) : Prop where
  once : ∀ mode id, ((history math runtime deviceId tables calls).filter
    fun handled => handled.1 = mode && id ∈ handled.2).length ≤ 1
  progress : ∀ before handled after,
    history math runtime deviceId tables calls = before ++ handled :: after → handled.2 ≠ [] →
    ∃ id ∈ handled.2, ∀ earlier ∈ before, earlier.1 = handled.1 → id ∉ earlier.2
  settled : ∀ before call after, calls = before ++ call :: after →
    (true, []) ∈ history math runtime deviceId tables before →
    (false, []) ∈ history math runtime deviceId tables before →
    ∃ tables', call.score math runtime deviceId (exec (callStep math runtime deviceId) tables before) =
        .ok (0, tables') ∧
      tables'.rows = (exec (callStep math runtime deviceId) tables before).rows ∧
      tables'.alarms = (exec (callStep math runtime deviceId) tables before).alarms

/-! ### One row -/

section Row

variable {math} {deviceId}

theorem waiting_isWaiting :
    isWaiting "FEATURE_WINDOW_NOT_READY: waiting for causal context" = true := by
  decide

/-- A handled row is no target of the mode it was handled in. -/
theorem isTarget_written {judged : Judged} {loaded : Loaded} :
    isTarget deviceId loaded.isReady (judged.written loaded) = false := by
  cases hready : loaded.isReady with
  | false => simp [Judged.written, isTarget, hready]
  | true =>
      cases hresult : judged.result with
      | none => simp [Judged.written, isTarget, hready, hresult, waiting_isWaiting]
      | some result => simp [Judged.written, isTarget, hready, hresult]

/-- A row without a reason is still to be handled in both modes, or in neither. -/
theorem isTarget_of_notReady {row : TelemetryRow} (h : isTarget deviceId false row = true)
    (mode : Bool) : isTarget deviceId mode row = true := by
  cases mode with
  | false => exact h
  | true =>
      simp only [isTarget, Bool.false_eq_true, if_false, if_true, Bool.and_eq_true] at h ⊢
      refine ⟨h.1, ?_⟩
      rw [Option.isNone_iff_eq_none.mp h.2]
      rfl

/-- A row that was handled with a model has a reason. -/
theorem isTarget_written_notReady {judged : Judged} {loaded : Loaded} :
    isTarget deviceId false (judged.written loaded) = false := by
  cases hready : loaded.isReady <;> cases hresult : judged.result <;>
    simp [Judged.written, isTarget, hready, hresult]

/-- No row becomes a target by being handled. -/
theorem isTarget_of_written {judged : Judged} {loaded : Loaded} {mode : Bool}
    (htarget : isTarget deviceId loaded.isReady judged.row = true)
    (h : isTarget deviceId mode (judged.written loaded) = true) :
    isTarget deviceId mode judged.row = true := by
  cases mode with
  | false =>
      rw [isTarget_written_notReady] at h
      cases h
  | true =>
      cases hready : loaded.isReady with
      | true =>
          have hdone : isTarget deviceId loaded.isReady (judged.written loaded) = false :=
            isTarget_written
          rw [hready, h] at hdone
          cases hdone
      | false =>
          rw [hready] at htarget
          exact isTarget_of_notReady htarget true

end Row

/-! ### One call -/

section Call

variable {runtime} {deviceId}

theorem written_id (judged : Judged) (loaded : Loaded) : (judged.written loaded).id = judged.row.id := by
  cases hready : loaded.isReady <;> cases hresult : judged.result <;>
    simp [Judged.written, hready, hresult]

/-- A row is as it was, or a target as the call leaves it. -/
theorem mem_writeRows {rows : List TelemetryRow} {judged : List Judged} {loaded : Loaded}
    {row' : TelemetryRow} (h : row' ∈ writeRows rows (judged.map (·.written loaded))) :
    (row' ∈ rows ∧ ∀ item ∈ judged, item.row.id ≠ row'.id) ∨
      ∃ item ∈ judged, row' = item.written loaded := by
  obtain ⟨row, hrow, rfl⟩ := List.mem_map.mp h
  cases hfound : (judged.map (·.written loaded)).find? (·.id = row.id) with
  | none =>
      left
      refine ⟨hrow, ?_⟩
      intro item hitem hsame
      have hnone := List.find?_eq_none.mp hfound _ (List.mem_map_of_mem hitem)
      rw [written_id, hsame] at hnone
      exact hnone (decide_eq_true rfl)
  | some written =>
      right
      obtain ⟨item, hitem, rfl⟩ := List.mem_map.mp (List.mem_of_find?_eq_some hfound)
      exact ⟨item, hitem, rfl⟩

/-- A row that was judged is stored as it was written. -/
theorem written_mem {rows : List TelemetryRow} {judged : List Judged} {row : TelemetryRow}
    (loaded : Loaded) (hrow : row ∈ rows) (hjudged : ∃ item ∈ judged, item.row.id = row.id) :
    ∃ item ∈ judged, item.row.id = row.id ∧
      item.written loaded ∈ writeRows rows (judged.map (·.written loaded)) := by
  obtain ⟨item, hitem, hid⟩ := hjudged
  have hwritten : item.written loaded ∈ judged.map (·.written loaded) := List.mem_map_of_mem hitem
  have hsome : ((judged.map (·.written loaded)).find? (·.id = row.id)).isSome := by
    rw [List.find?_isSome]
    exact ⟨_, hwritten, decide_eq_true ((written_id item loaded).trans hid)⟩
  obtain ⟨written, hfound⟩ := Option.isSome_iff_exists.mp hsome
  obtain ⟨item', hitem', rfl⟩ := List.mem_map.mp (List.mem_of_find?_eq_some hfound)
  have hid' := List.find?_some hfound
  rw [decide_eq_true_eq, written_id] at hid'
  refine ⟨item', hitem', hid', List.mem_map.mpr ⟨row, hrow, ?_⟩⟩
  rw [hfound]
  rfl

/-- The device has a row of the key that is still to be handled in the mode. -/
def Open (deviceId : String) (mode : Bool) (id : Nat) (rows : List TelemetryRow) : Prop :=
  ∃ row ∈ rows, row.id = id ∧ isTarget deviceId mode row = true

/-- What a call does to its mode's targets, and to both modes. -/
structure Handles (deviceId : String) (mode : Bool) (ids : List Nat)
    (rows rows' : List TelemetryRow) : Prop where
  open_before : ∀ id ∈ ids, Open deviceId mode id rows
  done : ∀ id ∈ ids, ¬ Open deviceId mode id rows'
  kept : ∀ mode' id, Open deviceId mode' id rows' → Open deviceId mode' id rows

theorem handles_writeRows {rows : List TelemetryRow} {loaded : Loaded} {judged : List Judged}
    (hjudged : ∀ item ∈ judged,
      item.row ∈ rows ∧ isTarget deviceId loaded.isReady item.row = true) :
    Handles deviceId loaded.isReady (judged.map (·.row.id)) rows
      (writeRows rows (judged.map (·.written loaded))) where
  open_before := by
    intro id hid
    obtain ⟨item, hitem, rfl⟩ := List.mem_map.mp hid
    exact ⟨item.row, (hjudged item hitem).1, rfl, (hjudged item hitem).2⟩
  done := by
    rintro id hid ⟨row', hrow', rfl, htarget⟩
    obtain ⟨item, hitem, hsame⟩ := List.mem_map.mp hid
    rcases mem_writeRows hrow' with ⟨-, hother⟩ | ⟨item', hitem', rfl⟩
    · exact hother item hitem hsame
    · rw [isTarget_written] at htarget
      cases htarget
  kept := by
    rintro mode' id ⟨row', hrow', rfl, htarget⟩
    rcases mem_writeRows hrow' with ⟨hrow, -⟩ | ⟨item, hitem, rfl⟩
    · exact ⟨row', hrow, rfl, htarget⟩
    · obtain ⟨hrow, hbefore⟩ := hjudged item hitem
      exact ⟨item.row, hrow, (written_id item loaded).symm, isTarget_of_written hbefore htarget⟩

/-- A call that finds no targets. -/
theorem handles_nothing (deviceId : String) (mode : Bool) (rows : List TelemetryRow) :
    Handles deviceId mode [] rows rows where
  open_before := by
    intro id hid
    cases hid
  done := by
    intro id hid
    cases hid
  kept := fun _ _ h => h

/-- What loading leaves fits its columns, and a model that it returns is checked. -/
theorem loaded_sound {settings : Settings} {models : List AnomalyModel} {now : Int} {loaded : Loaded}
    (hversions : ∀ model ∈ models, model.modelVersion.length ≤ 80)
    (h : loadReadyBundle runtime settings models deviceId now = .ok loaded) :
    loaded.Fits ∧ ∀ registry bundle, loaded = .ready registry bundle →
      bundle.Checked ∧ bundle.Unpickled runtime := by
  rcases loadReadyBundle_cases h with ⟨-, rfl⟩ | ⟨registry, hregistry, hcases⟩
  · constructor
    · intro registry hregistry
      cases hregistry
    · intro registry bundle hready
      cases hready
  · have hversion := hversions registry (latestRegistry_mem hregistry).1
    rcases hcases with ⟨bundle, hbundle, rfl⟩ | ⟨-, status, code, diagnostic, hstatus, rfl⟩
    · constructor
      · intro registry' hregistry'
        cases hregistry'
        refine ⟨hversion, ?_⟩
        change "ready".length ≤ 24
        decide
      · intro registry' bundle' hready
        cases hready
        exact currentBundle_checked hbundle
    · constructor
      · intro registry' hregistry'
        cases hregistry'
        refine ⟨hversion, ?_⟩
        change status.length ≤ 24
        rcases hstatus with rfl | rfl <;> decide
      · intro registry' bundle' hready
        cases hready

theorem resultsById_succeeds {loaded : Loaded} (samples : List TelemetrySample) (ids : List Nat)
    (hchecked : ∀ registry bundle, loaded = .ready registry bundle → bundle.Checked)
    (husable : ∀ registry bundle, loaded = .ready registry bundle → bundle.Usable) :
    ∃ results, resultsById math loaded samples ids = .ok results := by
  cases loaded with
  | notRegistered => exact ⟨[], rfl⟩
  | unusable registry code => exact ⟨[], rfl⟩
  | ready registry bundle =>
      have husable := husable registry bundle rfl
      obtain ⟨results, hresults⟩ : ∃ results,
          scoreRows math bundle (generateFeatures math .default samples) = .ok results :=
        scoreRows_succeeds math (hchecked registry bundle rfl) (fun _ => husable.flat)
          fun _ => husable.answers _
      rw [resultsById, hresults]
      exact ⟨_, rfl⟩

theorem ScoringCall.score_eq (call : ScoringCall) (tables : WorkerTables) {loaded : Loaded}
    (hloaded : call.loaded runtime deviceId = .ok loaded) :
    call.score math runtime deviceId tables =
      scoreLoaded math { tables with models := call.models } deviceId loaded call.clock := by
  rw [ScoringCall.loaded] at hloaded
  rw [ScoringCall.score, scoreDeviceOnce]
  dsimp only
  rw [hloaded, ok_bind]

/-- A call finds no targets exactly where its mode has none left. -/
theorem handledBy_nil_iff {call : ScoringCall} (hsound : call.Sound runtime deviceId)
    (tables : WorkerTables) :
    (handledBy runtime deviceId tables call).2 = [] ↔
      ∀ id, ¬ Open deviceId (handledBy runtime deviceId tables call).1 id tables.rows := by
  obtain ⟨loaded, hloaded⟩ := hsound.loads
  rw [handledBy, hloaded]
  dsimp only
  rw [List.map_eq_nil_iff, targets_eq_nil_iff]
  constructor
  · rintro hnone id ⟨row, hrow, rfl, htarget⟩
    rw [hnone row hrow] at htarget
    cases htarget
  · intro hclosed row hrow
    by_contra htarget
    exact hclosed row.id ⟨row, hrow, rfl, eq_true_of_ne_false htarget⟩

/-- **One call.** It handles its targets, and where there are none it changes no row and no alarm. -/
theorem call_handles (hdevice : deviceId.length ≤ 63) {call : ScoringCall}
    (hsound : call.Sound runtime deviceId) (tables : WorkerTables) :
    Handles deviceId (handledBy runtime deviceId tables call).1
        (handledBy runtime deviceId tables call).2 tables.rows
        (callStep math runtime deviceId tables call).rows ∧
      ((handledBy runtime deviceId tables call).2 = [] →
        ∃ tables', call.score math runtime deviceId tables = .ok (0, tables') ∧
          tables'.rows = tables.rows ∧ tables'.alarms = tables.alarms) := by
  obtain ⟨loaded, hloaded⟩ := hsound.loads
  obtain ⟨hfits, hchecked⟩ := loaded_sound hsound.versions hloaded
  have hscore := call.score_eq math tables hloaded
  have hhandled : handledBy runtime deviceId tables call =
      (loaded.isReady, (targets tables.rows deviceId loaded.isReady).map (·.id)) := by
    rw [handledBy, hloaded]
  rw [hhandled]
  by_cases hnone : targets tables.rows deviceId loaded.isReady = []
  · have hcall : scoreLoaded math { tables with models := call.models } deviceId loaded call.clock = _ :=
      scoreLoaded_none math hnone
    rw [callStep, hscore, hcall, hnone]
    exact ⟨handles_nothing deviceId loaded.isReady tables.rows, fun _ => ⟨_, rfl, rfl, rfl⟩⟩
  · obtain ⟨first, hfirst⟩ := Option.isSome_iff_exists.mp
      (Option.isSome_iff_ne_none.mpr (mt List.head?_eq_none_iff.mp hnone))
    obtain ⟨last, hlast⟩ := Option.isSome_iff_exists.mp (List.getLast?_isSome.mpr hnone)
    obtain ⟨results, hresults⟩ := resultsById_succeeds math
      (samplesBetween tables.rows deviceId first last)
      ((targets tables.rows deviceId loaded.isReady).map (·.id))
      (fun registry bundle hready => (hchecked registry bundle hready).1)
      fun registry bundle hready => hsound.usable registry bundle (hready ▸ hloaded)
    have hcall : scoreLoaded math { tables with models := call.models } deviceId loaded call.clock = _ :=
      scoreLoaded_some math hdevice hfits hfirst hlast
    rw [hresults] at hcall
    have hids : (foundAll math tables.rows deviceId loaded first last results).map (·.row.id) =
        (targets tables.rows deviceId loaded.isReady).map (·.id) := by
      rw [foundAll, List.map_map]
      rfl
    rw [callStep, hscore, hcall, ← hids]
    constructor
    · apply handles_writeRows
      intro item hitem
      obtain ⟨row, hrow, rfl⟩ := List.mem_map.mp hitem
      exact mem_targets hrow
    · intro hnil
      rw [hids] at hnil
      exact absurd (List.map_eq_nil_iff.mp hnil) hnone

end Call

/-! ### Runs -/

section Run

variable {math} {runtime} {deviceId}

theorem open_of_open_exec (hdevice : deviceId.length ≤ 63) {calls : List ScoringCall}
    (hsound : ∀ call ∈ calls, call.Sound runtime deviceId) {tables : WorkerTables} {mode : Bool}
    {id : Nat}
    (h : Open deviceId mode id (exec (callStep math runtime deviceId) tables calls).rows) :
    Open deviceId mode id tables.rows := by
  induction calls generalizing tables with
  | nil => exact h
  | cons call calls ih =>
      have hrest := ih (fun call' hcall' => hsound call' (.tail _ hcall')) h
      exact (call_handles math hdevice (hsound call List.mem_cons_self) tables).1.kept mode id hrest

/-- What a run handles was still to be handled when it began. -/
theorem open_of_mem_history (hdevice : deviceId.length ≤ 63) {calls : List ScoringCall}
    (hsound : ∀ call ∈ calls, call.Sound runtime deviceId) {tables : WorkerTables}
    {handled : Bool × List Nat} (hhandled : handled ∈ history math runtime deviceId tables calls)
    {id : Nat} (hid : id ∈ handled.2) : Open deviceId handled.1 id tables.rows := by
  induction calls generalizing tables with
  | nil => cases hhandled
  | cons call calls ih =>
      have hcall := (call_handles math hdevice (hsound call List.mem_cons_self) tables).1
      rcases List.mem_cons.mp hhandled with rfl | hlater
      · exact hcall.open_before id hid
      · exact hcall.kept _ id (ih (fun call' hcall' => hsound call' (.tail _ hcall')) hlater)

/-- Calls of one mode handle different rows. -/
theorem history_disjoint (math : FloatMath) (hdevice : deviceId.length ≤ 63) {calls : List ScoringCall}
    (hsound : ∀ call ∈ calls, call.Sound runtime deviceId) (tables : WorkerTables) :
    (history math runtime deviceId tables calls).Pairwise fun earlier later =>
      earlier.1 = later.1 → ∀ id ∈ later.2, id ∉ earlier.2 := by
  induction calls generalizing tables with
  | nil => exact .nil
  | cons call calls ih =>
      have hrest : ∀ call' ∈ calls, call'.Sound runtime deviceId :=
        fun call' hcall' => hsound call' (.tail _ hcall')
      have hcall := (call_handles math hdevice (hsound call List.mem_cons_self) tables).1
      refine .cons ?_ (ih hrest _)
      intro later hlater hmode id hid hearlier
      have hopen := open_of_mem_history hdevice hrest hlater hid
      rw [← hmode] at hopen
      exact hcall.done id hearlier hopen

/-- A mode that has run out of targets stays so. -/
theorem closed_of_mem_history (hdevice : deviceId.length ≤ 63) {calls : List ScoringCall}
    (hsound : ∀ call ∈ calls, call.Sound runtime deviceId) {tables : WorkerTables} {mode : Bool}
    (h : (mode, []) ∈ history math runtime deviceId tables calls) (id : Nat) :
    ¬ Open deviceId mode id (exec (callStep math runtime deviceId) tables calls).rows := by
  induction calls generalizing tables with
  | nil => cases h
  | cons call calls ih =>
      have hrest : ∀ call' ∈ calls, call'.Sound runtime deviceId :=
        fun call' hcall' => hsound call' (.tail _ hcall')
      rcases List.mem_cons.mp h with hhead | hlater
      · intro hopen
        have hfirst := hsound call List.mem_cons_self
        have hbefore := @open_of_open_exec _ _ _ _ hdevice _ hsound _ _ _ hopen
        have hclosed := (handledBy_nil_iff hfirst tables).mp (by rw [← hhead]) id
        rw [← hhead] at hclosed
        exact hclosed hbefore
      · exact ih hrest hlater

/-- **Scoring settles.** Whatever model each call finds, every row is handled at most once in each
mode, and the modes run out of targets. -/
theorem scoring_settles (hdevice : deviceId.length ≤ 63) {calls : List ScoringCall}
    (hsound : ∀ call ∈ calls, call.Sound runtime deviceId) (tables : WorkerTables) :
    ScoringSettles math runtime deviceId tables calls where
  once := by
    intro mode id
    have hdisjoint := (history_disjoint math hdevice hsound tables).sublist
      (@List.filter_sublist _ (fun handled => handled.1 = mode && id ∈ handled.2) _)
    have hall : ∀ handled ∈ (history math runtime deviceId tables calls).filter
        fun handled => handled.1 = mode && id ∈ handled.2, handled.1 = mode ∧ id ∈ handled.2 := by
      intro handled hhandled
      simpa using (List.mem_filter.mp hhandled).2
    generalize (history math runtime deviceId tables calls).filter
      (fun handled => handled.1 = mode && id ∈ handled.2) = kept at hdisjoint hall ⊢
    rcases kept with _ | ⟨earlier, _ | ⟨later, rest⟩⟩
    · exact Nat.zero_le 1
    · exact le_rfl
    · have hfirst := hall earlier List.mem_cons_self
      have hsecond := hall later (.tail _ List.mem_cons_self)
      have happart := (List.pairwise_cons.mp hdisjoint).1 later List.mem_cons_self
      exact absurd hfirst.2 (happart (hfirst.1.trans hsecond.1.symm) id hsecond.2)
  progress := by
    intro before handled after hhistory hsome
    have hdisjoint := history_disjoint math hdevice hsound tables
    rw [hhistory, List.pairwise_append] at hdisjoint
    obtain ⟨id, rest, hids⟩ := List.exists_cons_of_ne_nil hsome
    have hid : id ∈ handled.2 := by
      rw [hids]
      exact List.mem_cons_self
    refine ⟨id, hid, ?_⟩
    intro earlier hearlier hmode
    exact hdisjoint.2.2 earlier hearlier handled List.mem_cons_self hmode id hid
  settled := by
    rintro before call after rfl hready hnotReady
    have hbefore : ∀ call' ∈ before, call'.Sound runtime deviceId :=
      fun call' hcall' => hsound call' (List.mem_append_left _ hcall')
    have hcall := hsound call (List.mem_append_right _ List.mem_cons_self)
    apply (call_handles math hdevice hcall _).2
    rw [handledBy_nil_iff hcall]
    generalize (handledBy runtime deviceId _ call).1 = mode
    cases mode with
    | true => exact closed_of_mem_history hdevice hbefore hready
    | false => exact closed_of_mem_history hdevice hbefore hnotReady

end Run

/-- A device with two rows, one of which has waited for context. -/
def demoTables : WorkerTables where
  rows := [demoRow 1 0 none, demoRow 2 10000000 (some "FEATURE_WINDOW_NOT_READY: waiting"),
    demoRow 3 20000000 none]
  alarms := []
  models := []
  errors := []
where
  demoRow (id : Nat) (receivedAt : Int) (anomalyReason : Option String) : TelemetryRow :=
    { id
      telemetry :=
        { messageId := "", deviceId := "motor-01", siteId := "workshop-demo", sequence := id
          deviceTime := none, receivedAt, clockSynchronized := true, uptimeMs := 0
          firmwareVersion := "1.0.0", quality := .good, replayed := false
          measurements := ⟨some (.finite 40), some (.finite 2), some (.finite 4), some (.finite 2),
            some (.finite 1)⟩
          sampleQuality := ⟨⟨"ok", 1, 1, none⟩, ⟨"ok", 1, 1, none⟩, ⟨"ok", 1, 1, none⟩⟩
          faultFlags := [] }
      anomalyScore := none
      anomalyPercentile := none
      anomalyReason }

def demoCall (models : List AnomalyModel) : ScoringCall :=
  ⟨models, demoSettings (.number (.ofNat 200)), ⟨1786406400000001, 0, 0, 0, 0, 0⟩⟩

theorem demoCall_loads : ∃ registry bundle,
    (demoCall [demoModel]).loaded demoRuntime "motor-01" = .ok (.ready registry bundle) := by
  have hready := demo_ready
  change ((demoCall [demoModel]).loaded demoRuntime "motor-01").toOption.map Loaded.isReady = _ at hready
  cases hloaded : (demoCall [demoModel]).loaded demoRuntime "motor-01" with
  | error error =>
      rw [hloaded] at hready
      cases hready
  | ok loaded =>
      rw [hloaded] at hready
      cases loaded with
      | notRegistered => cases hready
      | unusable registry code => cases hready
      | ready registry bundle => exact ⟨registry, bundle, rfl⟩

theorem demoCall_sound (models : List AnomalyModel) (hmodels : models = [] ∨ models = [demoModel]) :
    (demoCall models).Sound demoRuntime "motor-01" := by
  have hversions : ∀ model ∈ models, model.modelVersion.length ≤ 80 := by
    rcases hmodels with rfl | rfl <;> decide
  refine ⟨hversions, ?_, ?_⟩
  · rcases hmodels with rfl | rfl
    · exact ⟨.notRegistered, loadReadyBundle_nil⟩
    · obtain ⟨registry, bundle, hloaded⟩ := demoCall_loads
      exact ⟨_, hloaded⟩
  · intro registry bundle hloaded
    obtain ⟨hforest, hflat⟩ := demo_unpickled ((loaded_sound hversions hloaded).2 registry bundle rfl).2
    refine ⟨fun matrix => ?_, hflat⟩
    rw [hforest]
    exact demoEstimator_answers matrix

theorem scoring_settles_demo :
    ScoringSettles demoMath demoRuntime "motor-01" demoTables
      [demoCall [], demoCall [demoModel], demoCall [], demoCall [demoModel]] := by
  apply scoring_settles (by decide)
  intro call hcall
  simp only [List.mem_cons, List.not_mem_nil, or_false] at hcall
  rcases hcall with rfl | rfl | rfl | rfl
  · exact demoCall_sound [] (.inl rfl)
  · exact demoCall_sound [demoModel] (.inr rfl)
  · exact demoCall_sound [] (.inl rfl)
  · exact demoCall_sound [demoModel] (.inr rfl)

end IiotMonitoring.AnomalyWorker
