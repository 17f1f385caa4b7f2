import IiotMonitoring.Proof.OperatorAudit
import IiotMonitoring.Server.Ingestor

/-!
# The operators' requests side by side

Each route meets the discipline: what it loaded still holds of the rows its commit finds, as far as the
commit rests on it. So the trail is true in every state of every run, and what a route answered stays.
-/

namespace IiotMonitoring

/-! ### What an answer promises -/

section Promises

variable (zone : Int → Int)

/-- The part of an answer that no later request takes back. -/
def OperatorView.Holds (tables : OperatorTables) : OperatorView → Prop
  | .calibration view => (view.id, view.row) ∈ tables.calibrations
  | .maintenance view => ∃ row, (view.id, row) ∈ tables.maintenance ∧ row.deviceId = view.deviceId ∧
      row.performedAt = view.performedAt.instantIn zone ∧ row.createdBy = view.createdBy
  | .alarm alarmId shown => ∃ stored, tables.alarms[alarmId]? = some stored ∧
      stored.acknowledgedAt.isSome ∧ stored.deviceId = shown.deviceId ∧ stored.code = shown.code
  | .thresholds _ | .nothing => True

def OperatorReply.Kept (reply : OperatorReply) (tables : OperatorTables) : Prop :=
  ∀ view, reply = .ok view → view.Holds zone tables

variable {zone}

theorem OperatorView.Holds.later {before after : OperatorTables} {view : OperatorView}
    (h : view.Holds zone before) (hchange : OperatorChange before after) : view.Holds zone after := by
  cases view with
  | calibration view => exact hchange.calibrations.subset h
  | maintenance view =>
      obtain ⟨row, hrow, hdevice, hperformed, hcreated⟩ := h
      obtain ⟨row', hrow', hsame⟩ := hchange.maintenance _ hrow
      exact ⟨row', hrow', hsame.deviceId.trans hdevice, hsame.performedAt.trans hperformed,
        hsame.createdBy.trans hcreated⟩
  | alarm alarmId alarm =>
      obtain ⟨alarm', halarm', hdone, hdevice, hcode⟩ := h
      obtain ⟨alarm'', halarm'', hdevice', hcode', hdone'⟩ := hchange.alarms alarmId alarm' halarm'
      exact ⟨alarm'', halarm'', hdone' hdone, hdevice'.trans hdevice, hcode'.trans hcode⟩
  | thresholds config => trivial
  | nothing => trivial

end Promises

/-! ### Rules for the parts of a route -/

section Parts

variable {format : FloatFormat} {zone : Int → Int} {tables : OperatorTables}

/-- The user of the request, as the session found it. -/
def OperatorTables.SignedIn (tables : OperatorTables) (user : Account) : Prop :=
  tables.accounts user.username = some user ∧ user.active = true

theorem OperatorTables.SignedIn.later {after : OperatorTables} {user : Account}
    (h : tables.SignedIn user) (hchange : OperatorChange tables after) : after.SignedIn user :=
  ⟨hchange.accounts _ _ h.1, h.2⟩

theorem OperatorTables.SignedIn.actor {user : Account} (h : tables.SignedIn user) {admin : Prop}
    (hadmin : admin → user.role = "admin") : tables.IsActor user.username admin :=
  ⟨user, h.1, h.2, hadmin⟩

variable (format zone) in
/-- The route keeps the trail and the promise of its answer. -/
abbrev Route.Sound (route : Route) (tables : OperatorTables) : Prop :=
  route.Meets (operatorRules format) (OperatorReply.Kept zone) tables

theorem sound_fail (error : RouteError) : (Route.fail error).Sound format zone tables := by
  intro after _ _ view hview
  cases hview

/-- An answer that holds when it is given. -/
theorem sound_done {reply : OperatorReply} (h : reply.Kept zone tables) :
    Route.Sound format zone (.done reply) tables := by
  intro after _ hchange view hview
  exact (h view hview).later hchange

/-- A statement that only reads: the route goes on with its answer on the tables of that moment. -/
theorem sound_read {op : OperatorOp} {next : op.Answer → Route} (hproper : ∀ tables, op.Proper format tables)
    (hread : ∀ {tables answer after}, operatorAnswers op tables answer after → after = tables)
    (hnext : ∀ after answer, Audited after → OperatorChange tables after →
      operatorAnswers op after answer after → (next answer).Sound format zone after) :
    Route.Sound format zone (.call op next) tables := by
  intro after haudited hchange answer after' hanswer
  refine ⟨⟨hanswer, hproper after⟩, ?_⟩
  have hsame : after' = after := hread hanswer
  subst hsame
  exact hnext after' answer haudited hchange hanswer

theorem sound_commit {write : OperatorWrite} {event : Option (Nat → RouteAuditEvent)}
    {view : Nat → OperatorReply}
    (hproper : ∀ after, Audited after → OperatorChange tables after →
      CommitProper format after write event)
    (hview : ∀ after key, Audited after → OperatorChange tables after → after.Takes key write →
      (view key).Kept zone (after.write key write)) :
    (Route.commit write event view).Sound format zone tables := by
  intro after haudited hchange answer after' hanswer
  refine ⟨⟨hanswer, hproper after haudited hchange⟩, ?_⟩
  cases answer with
  | none => exact sound_fail _
  | some key =>
      obtain ⟨htakes, rfl⟩ := hanswer
      apply sound_done
      intro shown hshown
      have hheld := hview after key haudited hchange htakes shown hshown
      refine hheld.later ⟨fun _ _ h => h, List.prefix_rfl, fun entry hentry => ?_, fun _ alarm h => ?_⟩
      · exact ⟨entry.2, hentry, .refl _⟩
      · exact ⟨alarm, h, rfl, rfl, id⟩

theorem sound_utcNow {next : Int → Route}
    (hnext : ∀ after now, OperatorChange tables after → (next now).Sound format zone after) :
    Route.Sound format zone (.call .utcNow next) tables := by
  refine sound_read (fun _ => trivial) (fun h => h) fun after now _ hchange _ => ?_
  exact hnext after now hchange

theorem sound_withDevice {deviceId : String} {route : Route}
    (hroute : ∀ after, OperatorChange tables after → route.Sound format zone after) :
    (Route.withDevice deviceId route).Sound format zone tables := by
  refine sound_read (fun _ => trivial) (fun h => h.2) fun after found _ hchange _ => ?_
  cases found with
  | none => exact sound_fail _
  | some device => exact hroute after hchange

theorem sound_withAdmin {user : Account} {route : Route}
    (hroute : user.role = "admin" → route.Sound format zone tables) :
    (Route.withAdmin user route).Sound format zone tables := by
  unfold Route.withAdmin
  by_cases hrole : user.role = "admin"
  · rw [if_neg (not_not.mpr hrole)]
    exact hroute hrole
  · rw [if_pos hrole]
    exact sound_fail _

theorem sound_withUser {decode : JwtDecode} {token : String} {route : Account → Route}
    (hroute : ∀ after user, OperatorChange tables after → after.SignedIn user →
      (route user).Sound format zone after) :
    (Route.withUser decode token route).Sound format zone tables := by
  apply sound_utcNow
  intro first now hfirst
  cases decodeAccessToken decode now token with
  | error error => exact sound_fail _
  | ok username =>
      refine sound_read (fun _ => trivial) (fun h => h.2) fun after found _ hchange hfound => ?_
      cases found with
      | none => exact sound_fail _
      | some user =>
          obtain ⟨haccount, hactive⟩ := Option.filter_eq_some_iff.mp hfound.1.symm
          apply hroute after user (hfirst.trans hchange)
          exact ⟨(after.named _ _ haccount).symm ▸ haccount, hactive⟩

end Parts

/-! ### The routes -/

section Routes

variable {format : FloatFormat} {zone : Int → Int} {tables : OperatorTables} {user : Account}

theorem follows_latest {deviceId : String} {sensor : CalibratedSensor} {latest : Option Calibration}
    (hlatest : tables.IsLatest deviceId sensor latest) {row : Calibration}
    (hdevice : row.deviceId = deviceId) (hsensor : row.sensor = sensor)
    (hprevious : row.previousCoefficients =
      latest.elim Coefficients.identity (·.newCoefficients)) : row.Follows tables.calibrations := by
  cases latest with
  | none => exact .inl hprevious
  | some before =>
      obtain ⟨entry, hentry, rfl⟩ := List.mem_map.mp hlatest.1
      obtain ⟨hmem, hsame⟩ := List.mem_filter.mp hentry
      simp only [Bool.and_eq_true, decide_eq_true_eq] at hsame
      exact .inr ⟨entry, hmem, hsame.1.trans hdevice.symm, hsame.2.trans hsensor.symm, hprevious⟩

theorem Calibration.Follows.later {row : Calibration} {earlier later : List (Nat × Calibration)}
    (h : row.Follows earlier) (hearlier : earlier <+: later) : row.Follows later := by
  rcases h with hfirst | ⟨entry, hentry, hsame⟩
  · exact .inl hfirst
  · exact .inr ⟨entry, hearlier.subset hentry, hsame⟩

theorem sound_createCalibration (deviceId : String) (request : CalibrationCreate)
    (huser : tables.SignedIn user) :
    (createCalibration deviceId request user).Sound format zone tables := by
  apply sound_withAdmin
  intro hrole
  apply sound_withDevice
  intro first hfirst
  refine sound_read (fun _ => trivial) (fun h => h.2) fun second latest _ hsecond hlatest => ?_
  apply sound_utcNow
  intro third performedAt hthird
  apply sound_commit
  · intro after _ hafter
    apply CommitProper.newCalibration
    · exact (huser.later (((hfirst.trans hsecond).trans hthird).trans hafter)).actor fun _ => hrole
    · exact (follows_latest hlatest.1 rfl rfl rfl).later (hthird.trans hafter).calibrations
  · rintro after key - - - view hview
    obtain rfl := Except.ok.inj hview
    exact List.mem_append_right _ (List.mem_singleton_self _)

theorem due_of_check {request : MaintenanceCreate} (hzone : ZoneOrdered zone)
    (hcheck : request.check = none) {due : DateTime} (hdue : request.nextDueAt = some due) :
    request.performedAt.instantIn zone < due.instantIn zone := by
  unfold MaintenanceCreate.check at hcheck
  rw [hdue] at hcheck
  by_cases hnotes : (!notesFit request.notes) = true
  · rw [if_pos hnotes] at hcheck
    cases hcheck
  · rw [if_neg hnotes] at hcheck
    cases due with
    | naive value =>
        cases hperformed : request.performedAt with
        | naive performed =>
            simp only [hperformed, Option.map_some, DateTime.le?] at hcheck
            by_cases hle : value ≤ performed
            · simp [hle] at hcheck
            · exact hzone _ _ (lt_of_not_ge hle)
        | aware performed => simp [hperformed, DateTime.le?] at hcheck
    | aware value =>
        cases hperformed : request.performedAt with
        | naive performed => simp [hperformed, DateTime.le?] at hcheck
        | aware performed =>
            simp only [hperformed, Option.map_some, DateTime.le?] at hcheck
            by_cases hle : value ≤ performed
            · simp [hle] at hcheck
            · exact lt_of_not_ge hle

theorem sound_createMaintenance (deviceId : String) {request : MaintenanceCreate}
    (hzone : ZoneOrdered zone) (hcheck : request.check = none) (huser : tables.SignedIn user) :
    (createMaintenance zone deviceId request user).Sound format zone tables := by
  apply sound_withDevice
  intro first hfirst
  apply sound_utcNow
  intro second updatedAt hsecond
  apply sound_commit
  · intro after _ hafter
    apply CommitProper.newMaintenance
    · exact (huser.later ((hfirst.trans hsecond).trans hafter)).actor False.elim
    · intro due hdue
      obtain ⟨dueAt, hdueAt, rfl⟩ := Option.map_eq_some_iff.mp hdue
      exact due_of_check hzone hcheck hdueAt
  · rintro after key - - - view hview
    obtain rfl := Except.ok.inj hview
    exact ⟨_, List.mem_append_right _ (List.mem_singleton_self _), rfl, rfl, rfl⟩

theorem due_of_refusal {request : MaintenanceUpdate} {row : MaintenanceRecord}
    (hrefusal : request.refusal row = none) {due : DateTime} (hdue : request.due row = some due) :
    row.performedAt < due.instantIn zone := by
  unfold MaintenanceUpdate.refusal at hrefusal
  rw [hdue] at hrefusal
  cases due with
  | naive value => simp [DateTime.le?] at hrefusal
  | aware value =>
      simp only [Option.map_some, DateTime.le?] at hrefusal
      by_cases hle : value ≤ row.performedAt
      · simp [hle] at hrefusal
      · exact lt_of_not_ge hle

theorem mem_of_getMaintenance {recordId : Nat} {row : MaintenanceRecord}
    (h : tables.getMaintenance recordId = some row) : (recordId, row) ∈ tables.maintenance := by
  obtain ⟨entry, hentry, rfl⟩ := Option.map_eq_some_iff.mp h
  obtain rfl : entry.1 = recordId := by simpa using List.find?_some hentry
  exact List.mem_of_find?_eq_some hentry

theorem sound_updateMaintenance (recordId : Nat) (request : MaintenanceUpdate)
    (huser : tables.SignedIn user) :
    (updateMaintenance zone recordId request user).Sound format zone tables := by
  refine sound_read (fun _ => trivial) (fun h => h.2) fun first found _ hfirst hfound => ?_
  cases found with
  | none => exact sound_fail _
  | some loaded =>
      have hloaded := mem_of_getMaintenance hfound.1.symm
      dsimp only
      cases hrefusal : request.refusal loaded with
      | some error => exact sound_fail _
      | none =>
          apply sound_utcNow
          intro second updatedAt hsecond
          apply sound_commit
          · intro after _ hafter
            apply CommitProper.maintenance
            · exact (huser.later ((hfirst.trans hsecond).trans hafter)).actor False.elim
            · exact (hsecond.trans hafter).maintenance _ hloaded
            · rfl
            · intro due hdue
              obtain ⟨dueAt, hdueAt, rfl⟩ := Option.map_eq_some_iff.mp hdue
              exact due_of_refusal hrefusal hdueAt
          · rintro after key - hafter - view hview
            obtain rfl := Except.ok.inj hview
            obtain ⟨row, hrow, hsame⟩ := (hsecond.trans hafter).maintenance _ hloaded
            refine ⟨_, List.mem_map.mpr ⟨_, hrow, if_pos rfl⟩, hsame.deviceId, ?_, hsame.createdBy⟩
            exact hsame.performedAt

theorem kept_shown (config : ThresholdConfig) : config.shown.Kept zone tables := by
  intro view hview
  unfold ThresholdConfig.shown at hview
  split at hview
  · obtain rfl := Except.ok.inj hview
    trivial
  · cases hview

theorem sound_getThresholds (deviceId : String) :
    (getThresholds deviceId).Sound format zone tables := by
  apply sound_withDevice
  intro first _
  refine sound_read (fun _ => trivial) (fun h => h.2) fun second found _ _ _ => ?_
  cases found with
  | none => exact sound_commit (fun _ _ _ => .defaultThresholds deviceId) fun _ _ _ _ _ => kept_shown _
  | some config => exact sound_done (kept_shown config)

theorem sound_changeThresholds (deviceId : String) {request : ThresholdConfigUpdate}
    (hvalid : request.isValid = true) (huser : tables.SignedIn user) :
    (changeThresholds format deviceId request user).Sound format zone tables := by
  apply sound_withAdmin
  intro hrole
  apply sound_withDevice
  intro first hfirst
  refine sound_read (fun _ => trivial) (fun h => h.2) fun second found _ hsecond hfound => ?_
  cases hheld : request.columns deviceId user.toUser with
  | none => exact sound_fail _
  | some held =>
      apply sound_commit
      · intro after _ hafter
        have hactor : after.IsActor user.username True :=
          (huser.later ((hfirst.trans hsecond).trans hafter)).actor fun _ => hrole
        cases found with
        | none => exact .newThresholds hactor hvalid hheld
        | some loaded => exact .thresholds hactor hvalid hheld (second.keyed _ _ hfound.1.symm)
      · intro _ _ _ _ _
        exact kept_shown held

theorem sound_acknowledge (alarmId : Nat) (huser : tables.SignedIn user) :
    (acknowledge alarmId user).Sound format zone tables := by
  refine sound_read (fun _ => trivial) (fun h => h.2) fun first found haudited hfirst hfound => ?_
  cases found with
  | none => exact sound_fail _
  | some loaded =>
      have hloaded := hfound.1.symm
      dsimp only
      by_cases hdone : loaded.acknowledgedAt.isSome = true
      · rw [if_pos hdone]
        apply sound_done
        intro view hview
        obtain rfl := Except.ok.inj hview
        exact ⟨loaded, hloaded, hdone, rfl, rfl⟩
      · rw [if_neg hdone]
        apply sound_utcNow
        intro second now hsecond
        by_cases hsize :
            (!fitsNotification (acknowledgedEvent loaded alarmId user.toUser)) = true
        · rw [if_pos hsize]
          exact sound_fail _
        · rw [if_neg hsize]
          have hfirstAt : loaded.acknowledgedAt = none := by simpa using hdone
          have hby : loaded.acknowledgedBy = none := by
            have hsame := (haudited.alarms alarmId loaded hloaded).2
            rw [hfirstAt] at hsame
            simpa using hsame.symm
          apply sound_commit
          · intro after _ hafter
            obtain ⟨alarm, halarm, hdevice, hcode, -⟩ :=
              (hsecond.trans hafter).alarms alarmId loaded hloaded
            apply CommitProper.alarm _ hfirstAt hby ⟨alarm, halarm, hdevice, hcode⟩
            exact (huser.later ((hfirst.trans hsecond).trans hafter)).actor False.elim
          · rintro after key - hafter - view hview
            obtain rfl := Except.ok.inj hview
            obtain ⟨alarm, halarm, hdevice, hcode, -⟩ :=
              (hsecond.trans hafter).alarms alarmId loaded hloaded
            refine ⟨writeAcknowledgement loaded (loaded.acknowledge user.toUser now) alarm, ?_, ?_,
              hdevice, hcode⟩
            · rw [write_alarm, if_pos rfl, halarm, Option.map_some]
            · rw [acknowledgedAt_written alarm user.toUser now hfirstAt]
              rfl

theorem sound_route (hzone : ZoneOrdered zone) (request : OperatorRequest)
    (hbody : request.bodyError = none) (huser : tables.SignedIn user) :
    (request.route format zone user).Sound format zone tables := by
  cases request with
  | createCalibration deviceId request => exact sound_createCalibration deviceId request huser
  | createMaintenance deviceId request => exact sound_createMaintenance deviceId hzone hbody huser
  | updateMaintenance recordId request => exact sound_updateMaintenance recordId request huser
  | getThresholds deviceId => exact sound_getThresholds deviceId
  | updateThresholds deviceId request =>
      exact sound_changeThresholds deviceId (by simpa [OperatorRequest.bodyError] using hbody) huser
  | acknowledgeAlarm alarmId => exact sound_acknowledge alarmId huser

theorem sound_program (hzone : ZoneOrdered zone) (decode : JwtDecode) (call : OperatorCall) :
    (call.program format zone decode).Sound format zone tables := by
  cases call with
  | request token body =>
      apply sound_withUser
      intro after user _ huser
      cases hbody : body.bodyError with
      | some error => exact sound_fail _
      | none => exact sound_route hzone body hbody huser
  | outside =>
      intro first hfirst _ answer after hanswer
      refine ⟨⟨hanswer, trivial⟩, sound_done ?_⟩
      intro view hview
      obtain rfl := Except.ok.inj hview
      trivial

end Routes

/-! ### Runs -/

section Runs

variable {format : FloatFormat} {zone : Int → Int} {decode : JwtDecode} {calls : Nat → OperatorCall}
  {start : OperatorTables} {labels : List (Nat × Program.Answered OperatorOp.Answer)}
  {state : Sessions Nat OperatorTables OperatorOp OperatorReply OperatorOp.Answer}

/-- **The audit trail tells the tables**, in every state of every run of requests side by side: each
calibration and each maintenance record has its one event, in the order of the commits, an alarm is
acknowledged by the actor of its last event, every actor is an active user and an administrator where
the action asks for one, and every maintenance is due after the work. What a request was answered stays
so. -/
theorem operators_audited (hzone : ZoneOrdered zone) (hstart : Audited start)
    (hrun : OperatorRun format zone decode calls start labels state) :
    Audited state.store ∧
      ∀ call reply, state.programs call = .done reply → OperatorReply.Kept zone reply state.store := by
  have hmeets : ∀ call, ((operatorSessions format zone decode calls start).programs call).Meets
      (operatorRules format) (OperatorReply.Kept zone) start := by
    intro call
    exact sound_program hzone decode (calls call)
  refine ⟨(sessions_meet hstart hmeets hrun).1, fun call reply hdone => ?_⟩
  exact sessions_post hstart hmeets hrun hdone

end Runs

/-! ### A run -/

/-- One administrator and one device. -/
def operatorTables : OperatorTables where
  accounts username := if username = "admin" then some ⟨⟨"admin", "admin"⟩, true⟩ else none
  named username account h := by
    by_cases hname : username = "admin"
    · rw [if_pos hname] at h
      rw [hname, ← Option.some.inj h]
    · rw [if_neg hname] at h
      cases h
  devices _ := some (Device.new "motor-01" "lab")
  thresholds _ := none
  keyed _ _ h := by cases h
  alarms := []
  calibrations := []
  maintenance := []
  audit := []

theorem operatorTables_audited : Audited operatorTables where
  calibrationKeys := List.nodup_nil
  maintenanceKeys := List.nodup_nil
  calibrations := rfl
  maintenance := .nil
  alarms key alarm h := by cases h
  events event h := by cases h
  history := .nil
  due entry h := by cases h

/-- A record of work that is due again. -/
def inspection : MaintenanceCreate where
  status := .completed
  notes := "Bearing inspected"
  performedAt := .aware 1000
  nextDueAt := some (.aware 2000)

def signedIn : JwtDecode := fun _ _ => some ⟨some "admin"⟩

/-- Two sessions record the same work, one statement each in turn. -/
def inspections : Nat → OperatorCall := fun _ => .request "token" (.createMaintenance "motor-01" inspection)

/-- Both requests are answered, and the later key is committed first. -/
theorem inspections_run (format : FloatFormat) :
    ∃ labels state, OperatorRun format id signedIn inspections operatorTables labels state ∧
      ∃ first second, state.programs 0 = .done (.ok (.maintenance first)) ∧
        state.programs 1 = .done (.ok (.maintenance second)) ∧ first.id = 7 ∧ second.id = 5 := by
  have h₀ : OperatorRun format id signedIn inspections operatorTables [] _ := .start
  have h₁ := sessions_answer h₀ 0 rfl (100 : Int) rfl
  have h₂ := sessions_answer h₁ 1 rfl (100 : Int) rfl
  have h₃ := sessions_answer h₂ 0 rfl (some ⟨⟨"admin", "admin"⟩, true⟩ : Option Account) ⟨rfl, rfl⟩
  have h₄ := sessions_answer h₃ 1 rfl (some ⟨⟨"admin", "admin"⟩, true⟩ : Option Account) ⟨rfl, rfl⟩
  have h₅ := sessions_answer h₄ 0 rfl (some (Device.new "motor-01" "lab") : Option Device) ⟨rfl, rfl⟩
  have h₆ := sessions_answer h₅ 1 rfl (some (Device.new "motor-01" "lab") : Option Device) ⟨rfl, rfl⟩
  have h₇ := sessions_answer h₆ 0 rfl (110 : Int) rfl
  have h₈ := sessions_answer h₇ 1 rfl (120 : Int) rfl
  have h₉ := sessions_answer h₈ 0 rfl (some 7 : Option Nat)
    ⟨fun entry hentry => absurd hentry List.not_mem_nil, rfl⟩
  have h₁₀ := sessions_answer h₉ 1 rfl (some 5 : Option Nat)
    ⟨fun entry hentry => by rw [List.mem_singleton.mp hentry]; decide, rfl⟩
  exact ⟨_, _, h₁₀, _, _, rfl, rfl, rfl, rfl⟩

/-- The trail after that run. -/
theorem inspections_audited :
    ∃ labels state, OperatorRun ⟨id, fun _ => "", fun _ => .null⟩ id signedIn inspections operatorTables labels state ∧
      Audited state.store ∧ ∀ call reply, state.programs call = .done reply →
        OperatorReply.Kept id reply state.store := by
  obtain ⟨labels, state, hrun, -⟩ := inspections_run ⟨id, fun _ => "", fun _ => .null⟩
  exact ⟨labels, state, hrun, operators_audited (fun _ _ h => h) operatorTables_audited hrun⟩

end IiotMonitoring
