import IiotMonitoring.Proof.AlarmLifecycle
import IiotMonitoring.Proof.OperatorReplies

/-!
# Thresholds under concurrent updates

An update sends the columns that differ from the row it loaded. Where that row is still stored the device
has the thresholds of the last update; else it may get columns of several, in an order that no request
would pass.
-/

namespace IiotMonitoring

/-! ### Columns -/

/-- The columns that a request sets. -/
def thresholdColumns : List (ThresholdConfig → ℚ) :=
  [(·.temperatureWarningC), (·.temperatureCriticalC), (·.vibrationWarningMps2),
    (·.vibrationCriticalMps2), (·.currentWarningA), (·.currentCriticalA), (·.hysteresisPercent)]

theorem column_written {column : ThresholdConfig → ℚ} (hcolumn : column ∈ thresholdColumns)
    (loaded held stored : ThresholdConfig) :
    column (writeThresholds loaded held stored) = writeColumn column loaded held stored := by
  simp only [thresholdColumns, List.mem_cons, List.not_mem_nil, or_false] at hcolumn
  rcases hcolumn with rfl | rfl | rfl | rfl | rfl | rfl | rfl <;> rfl

theorem writeColumn_same {α : Type} [DecidableEq α] (column : ThresholdConfig → α)
    (loaded held : ThresholdConfig) : writeColumn column loaded held loaded = column held := by
  unfold writeColumn
  split
  · exact Eq.symm ‹_›
  · rfl

/-- An update of the row it loaded stores the row it holds. -/
theorem writeThresholds_same {loaded held : ThresholdConfig} (h : held.deviceId = loaded.deviceId) :
    writeThresholds loaded held loaded = held := by
  simp only [writeThresholds, writeColumn_same]
  rw [← h]

theorem columns_deviceId {request : ThresholdConfigUpdate} {deviceId : String} {user : User}
    {held : ThresholdConfig} (hheld : request.columns deviceId user = some held) :
    held.deviceId = deviceId := by
  unfold ThresholdConfigUpdate.columns at hheld
  simp only [Option.pure_def, Option.bind_eq_bind, Option.bind_eq_some_iff, Option.some.injEq] at hheld
  obtain ⟨_, -, _, -, _, -, _, -, _, -, _, -, _, -, rfl⟩ := hheld
  rfl

/-! ### What the trail tells of thresholds -/

section Told

variable (format : FloatFormat) (tables : OperatorTables)

def OperatorTables.thresholdEvents (deviceId : String) : List RouteAuditEvent :=
  tables.audit.filter fun event => event.action = "thresholds_updated" && event.targetId = deviceId

/-- The row that an event tells of: that of a valid request. -/
def TellsThresholds (deviceId : String) (event : RouteAuditEvent) (config : ThresholdConfig) : Prop :=
  ∃ (request : ThresholdConfigUpdate) (user : Account),
    event = thresholdsUpdated format deviceId request user ∧ request.isValid = true ∧
      request.columns deviceId user.toUser = some config

/-- Each column of a stored row is the default's or one of an update in the trail. -/
def ColumnsTold : Prop :=
  ∀ deviceId config, tables.thresholds deviceId = some config → ∀ column ∈ thresholdColumns,
    column config = column (ThresholdConfig.default deviceId) ∨
      ∃ event ∈ tables.thresholdEvents deviceId, ∃ held, TellsThresholds format deviceId event held ∧
        column config = column held

/-- A device has the thresholds of its last update, or the default before the first. -/
structure ThresholdsTold : Prop where
  unstored : ∀ deviceId, tables.thresholds deviceId = none → tables.thresholdEvents deviceId = []
  default : ∀ deviceId config, tables.thresholds deviceId = some config →
    tables.thresholdEvents deviceId = [] → config = ThresholdConfig.default deviceId
  last : ∀ deviceId config, tables.thresholds deviceId = some config →
    ∀ event ∈ (tables.thresholdEvents deviceId).getLast?, TellsThresholds format deviceId event config

/-- A taken update of a stored row finds the row that it loaded. -/
def OperatorOp.Standing : (op : OperatorOp) → op.Answer → Prop
  | .commit (.thresholds loaded _) _, some _ => tables.thresholds loaded.deviceId = some loaded
  | _, _ => True

def standingAnswers (op : OperatorOp) (before : OperatorTables) (answer : op.Answer)
    (after : OperatorTables) : Prop :=
  operatorAnswers op before answer after ∧ op.Standing before answer

end Told

/-- A run in which every update of thresholds finds the row that it loaded. -/
def StandingRun (format : FloatFormat) (zone : Int → Int) (decode : JwtDecode)
    (calls : Nat → OperatorCall) (start : OperatorTables)
    (labels : List (Nat × Program.Answered OperatorOp.Answer))
    (state : Sessions Nat OperatorTables OperatorOp OperatorReply OperatorOp.Answer) : Prop :=
  Trail (SessionStep standingAnswers) (operatorSessions format zone decode calls start) labels state

section Steps

variable {format : FloatFormat} {standing : Prop} {tables after : OperatorTables}

theorem thresholdEvents_record (event : RouteAuditEvent) (deviceId : String) :
    (tables.record (some event)).thresholdEvents deviceId = tables.thresholdEvents deviceId ++
      if event.action = "thresholds_updated" ∧ event.targetId = deviceId then [event] else [] := by
  unfold OperatorTables.thresholdEvents
  rw [record_audit, List.filter_append]
  by_cases hevent : event.action = "thresholds_updated" ∧ event.targetId = deviceId
  · simp [hevent]
  · simp [hevent]

theorem thresholdEvents_other {event : RouteAuditEvent} (h : event.action ≠ "thresholds_updated")
    (deviceId : String) :
    (tables.record (some event)).thresholdEvents deviceId = tables.thresholdEvents deviceId := by
  rw [thresholdEvents_record, if_neg fun hevent => h hevent.1, List.append_nil]

theorem thresholdEvents_updated (deviceId other : String) (request : ThresholdConfigUpdate)
    (user : Account) :
    (tables.record (some (thresholdsUpdated format deviceId request user))).thresholdEvents other =
      tables.thresholdEvents other ++
        if deviceId = other then [thresholdsUpdated format deviceId request user] else [] := by
  rw [thresholdEvents_record]
  simp [thresholdsUpdated]

@[simp]
theorem write_thresholdEvents (key : Nat) (write : OperatorWrite) (deviceId : String) :
    (tables.write key write).thresholdEvents deviceId = tables.thresholdEvents deviceId := by
  rw [OperatorTables.thresholdEvents, write_audit, OperatorTables.thresholdEvents]

/-- What one statement makes of a device's thresholds and of their events in the trail. `standing` says
that an update finds the row it loaded. -/
inductive ThresholdStep (format : FloatFormat) (standing : Prop) (before after : OperatorTables)
    (deviceId : String) : Prop where
  | same (hrow : after.thresholds deviceId = before.thresholds deviceId)
      (hevents : after.thresholdEvents deviceId = before.thresholdEvents deviceId)
  | first (hbefore : before.thresholds deviceId = none)
      (hrow : after.thresholds deviceId = some (ThresholdConfig.default deviceId))
      (hevents : after.thresholdEvents deviceId = before.thresholdEvents deviceId)
  | updated {event : RouteAuditEvent} {held config : ThresholdConfig}
      (htells : TellsThresholds format deviceId event held)
      (hrow : after.thresholds deviceId = some config)
      (hevents : after.thresholdEvents deviceId = before.thresholdEvents deviceId ++ [event])
      (hstanding : standing → config = held)
      (hwritten : config = held ∨ ∃ loaded stored, before.thresholds deviceId = some stored ∧
        loaded.deviceId = deviceId ∧ config = writeThresholds loaded held stored)

theorem thresholdStep_other (deviceId : String) {write : OperatorWrite} {event : RouteAuditEvent}
    {key : Nat} (hrow : (tables.write key write).thresholds = tables.thresholds)
    (haction : event.action ≠ "thresholds_updated") :
    ThresholdStep format standing tables ((tables.write key write).record (some event)) deviceId :=
  .same (congrFun hrow deviceId) (by rw [thresholdEvents_other haction, write_thresholdEvents])

theorem thresholdStep_new {deviceId : String} {request : ThresholdConfigUpdate} {user : Account}
    {held : ThresholdConfig} {key : Nat} (hvalid : request.isValid = true)
    (hheld : request.columns deviceId user.toUser = some held) (other : String) :
    ThresholdStep format standing tables ((tables.write key (.newThresholds held)).record
      (some (thresholdsUpdated format deviceId request user))) other := by
  have hdevice := columns_deviceId hheld
  by_cases hother : deviceId = other
  · subst hother
    apply ThresholdStep.updated ⟨request, user, rfl, hvalid, hheld⟩ _ _ (fun _ => rfl) (.inl rfl)
    · rw [← hdevice]
      exact Function.update_self ..
    · rw [thresholdEvents_updated, if_pos rfl, write_thresholdEvents]
  · apply ThresholdStep.same
    · exact Function.update_of_ne (hdevice ▸ Ne.symm hother) ..
    · rw [thresholdEvents_updated, if_neg hother, write_thresholdEvents, List.append_nil]

theorem thresholdStep_update {deviceId : String} {request : ThresholdConfigUpdate} {user : Account}
    {loaded held stored : ThresholdConfig} {key : Nat} (hvalid : request.isValid = true)
    (hheld : request.columns deviceId user.toUser = some held) (hloaded : loaded.deviceId = deviceId)
    (hstored : tables.thresholds deviceId = some stored) (hstanding : standing → stored = loaded)
    (other : String) :
    ThresholdStep format standing tables ((tables.write key (.thresholds loaded held)).record
      (some (thresholdsUpdated format deviceId request user))) other := by
  by_cases hother : deviceId = other
  · subst hother
    apply ThresholdStep.updated ⟨request, user, rfl, hvalid, hheld⟩ _ _ _
      (.inr ⟨loaded, stored, hstored, hloaded, rfl⟩)
    · change Function.update tables.thresholds loaded.deviceId _ deviceId = _
      rw [hloaded, Function.update_self, hstored, Option.map_some]
    · rw [thresholdEvents_updated, if_pos rfl, write_thresholdEvents]
    · intro h
      rw [hstanding h]
      exact writeThresholds_same ((columns_deviceId hheld).trans hloaded.symm)
  · apply ThresholdStep.same
    · exact Function.update_of_ne (hloaded ▸ Ne.symm hother) ..
    · rw [thresholdEvents_updated, if_neg hother, write_thresholdEvents, List.append_nil]

theorem thresholdStep_outside (houtside : OutsideChange tables after) (deviceId : String) :
    ThresholdStep format standing tables after deviceId := by
  obtain ⟨events, haudit, hevents⟩ := houtside.audit
  have hnone : events.filter (fun event =>
      event.action = "thresholds_updated" && event.targetId = deviceId) = [] := by
    apply List.filter_eq_nil_iff.mpr
    intro event hevent hsame
    simp only [Bool.and_eq_true, decide_eq_true_eq] at hsame
    exact hevents event hevent (hsame.1 ▸ by simp [operatorActions])
  have hsame : after.thresholdEvents deviceId = tables.thresholdEvents deviceId := by
    rw [OperatorTables.thresholdEvents, haudit, List.filter_append, hnone, List.append_nil]
    rfl
  rcases houtside.thresholds deviceId with hkept | ⟨hbefore, hfirst⟩
  · exact .same hkept hsame
  · exact .first hbefore hfirst hsame

/-- **What a statement does to thresholds**, case by case. -/
theorem thresholdStep_of_allowed {op : OperatorOp} {answer : op.Answer}
    (hanswer : operatorAnswers op tables answer after) (hproper : op.Proper format tables)
    (deviceId : String) :
    ThresholdStep format (op.Standing tables answer) tables after deviceId := by
  cases op with
  | commit write event =>
      cases answer with
      | none =>
          obtain rfl : after = tables := hanswer
          exact .same rfl rfl
      | some key =>
          obtain ⟨htakes, rfl⟩ := hanswer
          cases hproper with
          | newCalibration => exact thresholdStep_other deviceId rfl (by simp)
          | newMaintenance => exact thresholdStep_other deviceId rfl (by simp)
          | maintenance => exact thresholdStep_other deviceId rfl (by simp)
          | alarm => exact thresholdStep_other deviceId rfl (by simp)
          | newThresholds _ hvalid hheld => exact thresholdStep_new hvalid hheld deviceId
          | thresholds _ hvalid hheld hloaded =>
              obtain ⟨stored, hstored⟩ := Option.isSome_iff_exists.mp htakes
              rw [hloaded] at hstored
              apply thresholdStep_update hvalid hheld hloaded hstored
              intro hstanding
              rw [OperatorOp.Standing, hloaded, hstored] at hstanding
              exact Option.some.inj hstanding
          | defaultThresholds device =>
              have hevents : ((tables.write key (.newThresholds (ThresholdConfig.default device))).record
                  none).thresholdEvents deviceId = tables.thresholdEvents deviceId := by
                rw [OperatorTables.thresholdEvents, record_audit, write_audit, Option.toList_none,
                  List.append_nil, OperatorTables.thresholdEvents]
              by_cases hdevice : device = deviceId
              · subst hdevice
                exact .first htakes (Function.update_self ..) hevents
              · exact .same (Function.update_of_ne (Ne.symm hdevice) ..) hevents
  | outside => exact thresholdStep_outside hanswer deviceId
  | utcNow =>
      obtain rfl : after = tables := hanswer
      exact .same rfl rfl
  | _ =>
      obtain ⟨-, rfl⟩ := hanswer
      exact .same rfl rfl

/-! ### Invariants -/

theorem columnsTold_step (h : ColumnsTold format tables)
    (hstep : ∀ deviceId, ThresholdStep format standing tables after deviceId) : ColumnsTold format after := by
  intro deviceId config hconfig column hcolumn
  have hkept : ∀ stored, tables.thresholds deviceId = some stored →
      tables.thresholdEvents deviceId <+: after.thresholdEvents deviceId →
      column stored = column (ThresholdConfig.default deviceId) ∨
        ∃ event ∈ after.thresholdEvents deviceId, ∃ held,
          TellsThresholds format deviceId event held ∧ column stored = column held := by
    intro stored hstored hearlier
    rcases h deviceId stored hstored column hcolumn with hdefault | ⟨event, hevent, held, htold⟩
    · exact .inl hdefault
    · exact .inr ⟨event, hearlier.subset hevent, held, htold⟩
  cases hstep deviceId with
  | same hrow hevents => exact hkept config (hrow ▸ hconfig) (by rw [hevents])
  | first _ hrow _ =>
      obtain rfl := Option.some.inj (hconfig.symm.trans hrow)
      exact .inl rfl
  | @updated event held written htells hrow hevents _ hwritten =>
      obtain rfl := Option.some.inj (hconfig.symm.trans hrow)
      have hlast : event ∈ after.thresholdEvents deviceId := by
        rw [hevents]
        exact List.mem_append_right _ (List.mem_singleton_self _)
      rcases hwritten with rfl | ⟨loaded, stored, hstored, -, rfl⟩
      · exact .inr ⟨event, hlast, config, htells, rfl⟩
      · rw [column_written hcolumn, writeColumn]
        by_cases hsame : column held = column loaded
        · rw [if_pos hsame]
          exact hkept stored hstored (hevents ▸ List.prefix_append _ _)
        · rw [if_neg hsame]
          exact .inr ⟨event, hlast, held, htells, rfl⟩

/-- Where an update finds the row it loaded, the device has what its event tells. -/
theorem thresholdsTold_step (h : ThresholdsTold format tables) (hstanding : standing)
    (hstep : ∀ deviceId, ThresholdStep format standing tables after deviceId) :
    ThresholdsTold format after where
  unstored deviceId hnone := by
    cases hstep deviceId with
    | same hrow hevents => rw [hevents, h.unstored deviceId (hrow ▸ hnone)]
    | first _ hrow _ => rw [hrow] at hnone; cases hnone
    | updated _ hrow _ _ _ => rw [hrow] at hnone; cases hnone
  default deviceId config hconfig hnone := by
    cases hstep deviceId with
    | same hrow hevents => exact h.default deviceId config (hrow ▸ hconfig) (hevents ▸ hnone)
    | first _ hrow _ => exact Option.some.inj (hconfig.symm.trans hrow)
    | updated _ _ hevents _ _ =>
        rw [hevents] at hnone
        simp at hnone
  last deviceId config hconfig event hevent := by
    cases hstep deviceId with
    | same hrow hevents => exact h.last deviceId config (hrow ▸ hconfig) event (hevents ▸ hevent)
    | first hbefore _ hevents =>
        rw [hevents, h.unstored deviceId hbefore] at hevent
        cases hevent
    | updated htells hrow hevents hsame _ =>
        rw [hevents, List.getLast?_concat] at hevent
        obtain rfl := Option.some.inj hevent
        obtain rfl := Option.some.inj (hconfig.symm.trans hrow)
        rw [hsame hstanding]
        exact htells

/-- Thresholds that the trail tells are in order, and the dashboard is shown them. -/
theorem ThresholdsTold.ordered (h : ThresholdsTold format tables) {deviceId : String}
    {config : ThresholdConfig} (hconfig : tables.thresholds deviceId = some config) :
    config.Ordered ∧ config.shown = .ok (.thresholds config) := by
  cases hlast : (tables.thresholdEvents deviceId).getLast? with
  | none =>
      rw [h.default deviceId config hconfig (List.getLast?_eq_none_iff.mp hlast)]
      exact ⟨ThresholdConfig.default_ordered deviceId, shown_default deviceId⟩
  | some event =>
      obtain ⟨request, user, -, hvalid, hheld⟩ := h.last deviceId config hconfig event hlast
      exact ⟨columns_ordered hvalid hheld, shown_columns hvalid hheld⟩

end Steps

/-! ### Runs -/

section Runs

variable {format : FloatFormat} {zone : Int → Int} {decode : JwtDecode} {calls : Nat → OperatorCall}
  {start : OperatorTables} {labels : List (Nat × Program.Answered OperatorOp.Answer)}
  {state : Sessions Nat OperatorTables OperatorOp OperatorReply OperatorOp.Answer}

theorem StandingRun.operatorRun (hrun : StandingRun format zone decode calls start labels state) :
    OperatorRun format zone decode calls start labels state :=
  hrun.mono fun _ _ _ hstep => ⟨hstep.answered.1, hstep.advanced⟩

theorem thresholdStep_of_run (hzone : ZoneOrdered zone) (hstart : Audited start)
    (hrun : OperatorRun format zone decode calls start labels state)
    {label : Nat × Program.Answered OperatorOp.Answer}
    {after : Sessions Nat OperatorTables OperatorOp OperatorReply OperatorOp.Answer}
    (hstep : SessionStep operatorAnswers state label after) (deviceId : String) :
    ThresholdStep format (label.2.1.Standing state.store label.2.2) state.store after.store deviceId := by
  have hallowed : operatorAnswers label.2.1 state.store label.2.2 after.store ∧
      label.2.1.Proper format state.store := by
    apply @sessions_allowed _ _ _ _ _ _ _ (operatorSessions format zone decode calls start) _ _
      (operatorRules format) (fun _ => OperatorReply.Kept zone) hstart _ hrun _ _ hstep
    exact fun call => sound_program hzone decode (calls call)
  exact thresholdStep_of_allowed hallowed.1 hallowed.2 deviceId

/-- In any run, each column of a device's thresholds is one that somebody set, or the default's. -/
theorem columnsTold_run (hzone : ZoneOrdered zone) (hstart : Audited start)
    (htold : ColumnsTold format start)
    (hrun : OperatorRun format zone decode calls start labels state) :
    ColumnsTold format state.store := by
  induction hrun with
  | start => exact htold
  | step hbefore hstep ih =>
      exact columnsTold_step ih fun deviceId => thresholdStep_of_run hzone hstart hbefore hstep deviceId

theorem ThresholdsTold.columns (h : ThresholdsTold format start) : ColumnsTold format start := by
  intro deviceId config hconfig column _
  cases hlast : (start.thresholdEvents deviceId).getLast? with
  | none =>
      rw [h.default deviceId config hconfig (List.getLast?_eq_none_iff.mp hlast)]
      exact .inl rfl
  | some event =>
      have htells := h.last deviceId config hconfig event hlast
      exact .inr ⟨event, List.mem_of_getLast? hlast, config, htells, rfl⟩

theorem thresholdsTold_run (hzone : ZoneOrdered zone) (hstart : Audited start)
    (htold : ThresholdsTold format start)
    (hrun : StandingRun format zone decode calls start labels state) :
    ThresholdsTold format state.store := by
  induction hrun with
  | start => exact htold
  | step hbefore hstep ih =>
      apply thresholdsTold_step ih hstep.answered.2
      intro deviceId
      apply thresholdStep_of_run hzone hstart (StandingRun.operatorRun hbefore)
      exact ⟨hstep.answered.1, hstep.advanced⟩

/-- **The thresholds are what the updates set.** In every run each column is one that a recorded update
set, or the default's; and in a run whose updates find the rows they loaded a device has the thresholds
of its last update, in order, and can be shown them. -/
theorem thresholds_told (hzone : ZoneOrdered zone) (hstart : Audited start)
    (htold : ThresholdsTold format start)
    (hrun : OperatorRun format zone decode calls start labels state) :
    ColumnsTold format state.store ∧
      (StandingRun format zone decode calls start labels state →
        ThresholdsTold format state.store ∧ ∀ deviceId config,
          state.store.thresholds deviceId = some config →
            config.Ordered ∧ config.shown = .ok (.thresholds config)) := by
  refine ⟨columnsTold_run hzone hstart htold.columns hrun, fun hstanding => ?_⟩
  have hstate := thresholdsTold_run hzone hstart htold hstanding
  exact ⟨hstate, fun deviceId config hconfig => hstate.ordered hconfig⟩

end Runs

/-! ### Two updates -/

def motorThresholds (deviceId : String) : Option ThresholdConfig :=
  if deviceId = "motor-01" then some (ThresholdConfig.default "motor-01") else none

theorem motorThresholds_some {deviceId : String} {config : ThresholdConfig}
    (h : motorThresholds deviceId = some config) : config = ThresholdConfig.default deviceId := by
  unfold motorThresholds at h
  by_cases hdevice : deviceId = "motor-01"
  · rw [if_pos hdevice] at h
    rw [hdevice, ← Option.some.inj h]
  · rw [if_neg hdevice] at h
    cases h

/-- `operatorTables` with the default thresholds of the device stored. -/
def storedDefault : OperatorTables where
  __ := operatorTables
  thresholds := motorThresholds
  keyed deviceId config h := by
    rw [motorThresholds_some h]
    rfl

theorem storedDefault_told (format : FloatFormat) : ThresholdsTold format storedDefault where
  unstored _ _ := rfl
  default deviceId config h _ := motorThresholds_some h
  last _ _ _ event hevent := by cases hevent

theorem storedDefault_audited : Audited storedDefault :=
  operatorTables_audited.of_same
    ⟨fun _ _ h => h, List.prefix_rfl, fun _ h => (by cases h), fun _ _ h => (by cases h)⟩
    rfl rfl rfl rfl

/-- The default thresholds with other limits for the temperature. -/
def temperatureUpdate (warning critical : ℚ) : ThresholdConfigUpdate where
  temperatureWarningC := .finite warning
  temperatureCriticalC := .finite critical
  vibrationWarningMps2 := .finite (9 / 2)
  vibrationCriticalMps2 := .finite 7
  currentWarningA := .finite (7 / 5)
  currentCriticalA := .finite (9 / 5)
  hysteresisPercent := .finite 5

theorem temperatureUpdate_valid {warning critical : ℚ} (hlow : 0 ≤ warning) (hhigh : critical ≤ 150)
    (horder : warning < critical) : (temperatureUpdate warning critical).isValid = true := by
  simp only [temperatureUpdate, ThresholdConfigUpdate.isValid, FloatNumber.within_finite,
    ThresholdConfigUpdate.notBelow, FloatNumber.toNumber?, FloatNumber.atLeast, Option.any_some]
  have hwarning : warning ≤ 150 := by linarith
  have hcritical : 0 ≤ critical := by linarith
  have hcritical' : critical ≤ 180 := by linarith
  simp only [hlow, hwarning, hcritical, hcritical', not_le.mpr horder]
  norm_num

theorem updateThresholds_program {format : FloatFormat} {zone : Int → Int} {decode : JwtDecode}
    (token deviceId : String) {request : ThresholdConfigUpdate} (hvalid : request.isValid = true) :
    (OperatorCall.request token (.updateThresholds deviceId request)).program format zone decode =
      Route.withUser decode token (changeThresholds format deviceId request) := by
  rw [OperatorCall.program]
  congr 1
  funext user
  simp only [OperatorRequest.bodyError, hvalid, if_true]
  rfl

theorem loweredCritical_valid : (temperatureUpdate 65 66).isValid = true :=
  temperatureUpdate_valid (by norm_num) (by norm_num) (by norm_num)

theorem raisedWarning_valid : (temperatureUpdate 74 75).isValid = true :=
  temperatureUpdate_valid (by norm_num) (by norm_num) (by norm_num)

/-- One session lowers the critical limit to 66, another raises the warning to 74. -/
def rivalUpdates : Nat → OperatorCall
  | 0 => .request "token" (.updateThresholds "motor-01" (temperatureUpdate 65 66))
  | _ => .request "token" (.updateThresholds "motor-01" (temperatureUpdate 74 75))

/-- One update alone, from the first statement to its commit. -/
theorem loweredCritical_run (format : FloatFormat) :
    ∃ labels state, StandingRun format id signedIn rivalUpdates storedDefault labels state ∧
      ∃ config, state.store.thresholds "motor-01" = some config ∧ config.temperatureCriticalC = 66 := by
  have h₀ : StandingRun format id signedIn rivalUpdates storedDefault [] _ := .start
  have hlowered : (rivalUpdates 0).program format id signedIn =
      Route.withUser signedIn "token" (changeThresholds format "motor-01" (temperatureUpdate 65 66)) :=
    updateThresholds_program "token" "motor-01" loweredCritical_valid
  have h₁ := sessions_answer h₀ 0 hlowered (100 : Int) ⟨rfl, trivial⟩
  have h₂ := sessions_answer h₁ 0 rfl (some ⟨⟨"admin", "admin"⟩, true⟩ : Option Account)
    ⟨⟨rfl, rfl⟩, trivial⟩
  have h₃ := sessions_answer h₂ 0 rfl (some (Device.new "motor-01" "lab") : Option Device)
    ⟨⟨rfl, rfl⟩, trivial⟩
  have h₄ := sessions_answer h₃ 0 rfl
    (some (ThresholdConfig.default "motor-01") : Option ThresholdConfig) ⟨⟨rfl, rfl⟩, trivial⟩
  have h₅ := sessions_answer h₄ 0 rfl (some 0 : Option Nat) ⟨⟨rfl, rfl⟩, rfl⟩
  refine ⟨_, _, h₅, _, rfl, ?_⟩
  simp only [writeThresholds, writeColumn, ThresholdConfig.default]
  norm_num

/-- The thresholds after that run. -/
theorem loweredCritical_told :
    ∃ labels state, StandingRun ⟨id, fun _ => "", fun _ => .null⟩ id signedIn rivalUpdates
        storedDefault labels state ∧
      ThresholdsTold ⟨id, fun _ => "", fun _ => .null⟩ state.store := by
  obtain ⟨labels, state, hrun, -⟩ := loweredCritical_run ⟨id, fun _ => "", fun _ => .null⟩
  exact ⟨labels, state, hrun, ((thresholds_told (fun _ _ h => h) storedDefault_audited
    (storedDefault_told _) hrun.operatorRun).2 hrun).1⟩

/-- Both updates are valid and are taken, and they leave the warning above the critical limit: a row that
no request may set and that the dashboard is not shown. -/
theorem rivalUpdates_invert (format : FloatFormat) :
    ∃ labels state, OperatorRun format id signedIn rivalUpdates storedDefault labels state ∧
      ∃ config, state.store.thresholds "motor-01" = some config ∧
        config.temperatureCriticalC < config.temperatureWarningC ∧
        config.shown = .error .serverError := by
  have h₀ : OperatorRun format id signedIn rivalUpdates storedDefault [] _ := .start
  have hlowered : (rivalUpdates 0).program format id signedIn =
      Route.withUser signedIn "token" (changeThresholds format "motor-01" (temperatureUpdate 65 66)) :=
    updateThresholds_program "token" "motor-01" loweredCritical_valid
  have hraised : (rivalUpdates 1).program format id signedIn =
      Route.withUser signedIn "token" (changeThresholds format "motor-01" (temperatureUpdate 74 75)) :=
    updateThresholds_program "token" "motor-01" raisedWarning_valid
  have h₁ := sessions_answer h₀ 0 hlowered (100 : Int) rfl
  have h₂ := sessions_answer h₁ 1 hraised (100 : Int) rfl
  have h₃ := sessions_answer h₂ 0 rfl (some ⟨⟨"admin", "admin"⟩, true⟩ : Option Account) ⟨rfl, rfl⟩
  have h₄ := sessions_answer h₃ 1 rfl (some ⟨⟨"admin", "admin"⟩, true⟩ : Option Account) ⟨rfl, rfl⟩
  have h₅ := sessions_answer h₄ 0 rfl (some (Device.new "motor-01" "lab") : Option Device) ⟨rfl, rfl⟩
  have h₆ := sessions_answer h₅ 1 rfl (some (Device.new "motor-01" "lab") : Option Device) ⟨rfl, rfl⟩
  have h₇ := sessions_answer h₆ 0 rfl
    (some (ThresholdConfig.default "motor-01") : Option ThresholdConfig) ⟨rfl, rfl⟩
  have h₈ := sessions_answer h₇ 1 rfl
    (some (ThresholdConfig.default "motor-01") : Option ThresholdConfig) ⟨rfl, rfl⟩
  have h₉ := sessions_answer h₈ 0 rfl (some 0 : Option Nat) ⟨rfl, rfl⟩
  have h₁₀ := sessions_answer h₉ 1 rfl (some 0 : Option Nat) ⟨rfl, rfl⟩
  refine ⟨_, _, h₁₀, _, rfl, ?_, ?_⟩
  · simp only [writeThresholds, writeColumn, ThresholdConfig.default]
    norm_num
  · apply if_neg
    simp only [writeThresholds, writeColumn, ThresholdConfig.default, ThresholdConfigUpdate.isValid,
      ThresholdConfigUpdate.notBelow, FloatNumber.toNumber?, FloatNumber.atLeast, Option.any_some]
    norm_num

end IiotMonitoring
