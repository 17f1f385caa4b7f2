import IiotMonitoring.Proof.OperatorRuns
import Mathlib.Tactic.NormNum

/-!
# What the operators' requests leave behind

A request that is refused or fails has written nothing, and one that is answered has written what its
answer says, once, however its statements fell between those of others.
-/

namespace IiotMonitoring

/-- A unit of work that the database took: the key of its row, the row and the audit event. -/
structure TakenWrite where
  key : Nat
  write : OperatorWrite
  event : Option RouteAuditEvent

/-- The unit of work of a statement, if it was one and was taken. -/
def takenWrite : Program.Answered OperatorOp.Answer → Option TakenWrite
  | ⟨.commit write event, some key⟩ => some ⟨key, write, event.map fun made => made key⟩
  | _ => none

/-- What a request answered so has written. -/
def OperatorRequest.Told (format : FloatFormat) :
    OperatorRequest → OperatorView → List TakenWrite → Prop
  | createCalibration _ _, .calibration view, writes =>
      writes = [⟨view.id, .newCalibration view.row, some (calibrationCreated view.row view.id)⟩]
  | createMaintenance _ _, .maintenance view, writes =>
      ∃ row, writes = [⟨view.id, .newMaintenance row, some (maintenanceCreated row view.id)⟩] ∧
        row.deviceId = view.deviceId ∧ row.status = view.status ∧ row.notes = view.notes ∧
        row.createdBy = view.createdBy
  | updateMaintenance recordId _, .maintenance view, writes =>
      ∃ key loaded held user, writes = [⟨key, .maintenance recordId loaded held,
          some (maintenanceUpdated loaded recordId user)⟩] ∧
        view.id = recordId ∧ held.status = view.status ∧ held.notes = view.notes
  | getThresholds deviceId, .thresholds _, writes =>
      writes = [] ∨ ∃ key, writes = [⟨key, .newThresholds (ThresholdConfig.default deviceId), none⟩]
  | updateThresholds deviceId request, .thresholds held, writes =>
      ∃ key write user, writes = [⟨key, write, some (thresholdsUpdated format deviceId request user)⟩] ∧
        (write = .newThresholds held ∨ ∃ loaded, write = .thresholds loaded held) ∧
        held.updatedBy = user.username
  | acknowledgeAlarm alarmId, .alarm _ shown, writes =>
      writes = [] ∨ ∃ key loaded user, writes = [⟨key, .alarm alarmId loaded shown,
          some (alarmAcknowledged loaded alarmId user)⟩] ∧ shown.acknowledgedBy = some user.username
  | _, _, _ => False

/-- The reply of a request and its writes: none where it is an error. -/
structure OperatorRequest.Recorded (format : FloatFormat) (request : OperatorRequest)
    (reply : OperatorReply) (writes : List TakenWrite) : Prop where
  refused : ∀ error, reply = .error error → writes = []
  answered : ∀ view, reply = .ok view → request.Told format view writes

/-! ### Rules for the parts of a route -/

section Parts

variable {format : FloatFormat} {request : OperatorRequest}

/-- Whatever the answers to its statements, the route writes what it replies. -/
def Route.Records (format : FloatFormat) (request : OperatorRequest) (route : Route) : Prop :=
  ∀ trace reply, route.After trace (.done reply) → request.Recorded format reply (trace.filterMap takenWrite)

theorem records_done {reply : OperatorReply} (h : request.Recorded format reply []) :
    Route.Records format request (.done reply) := by
  intro trace reply' hafter
  obtain ⟨rfl, hsame⟩ := hafter.of_done
  obtain rfl : reply' = reply := by simpa using hsame
  exact h

theorem records_fail (error : RouteError) : Route.Records format request (Route.fail error) :=
  records_done ⟨fun _ _ => rfl, fun _ h => by cases h⟩

/-- A statement that writes nothing. -/
theorem records_read {op : OperatorOp} {next : op.Answer → Route}
    (hread : ∀ answer, takenWrite ⟨op, answer⟩ = none)
    (hnext : ∀ answer, Route.Records format request (next answer)) :
    Route.Records format request (.call op next) := by
  intro trace reply hafter
  obtain ⟨answer, later, rfl, hlater⟩ := hafter.of_call
  rw [List.filterMap_cons_none (hread answer)]
  exact hnext answer later reply hlater

theorem records_commit {write : OperatorWrite} {event : Option (Nat → RouteAuditEvent)}
    {view : Nat → OperatorReply}
    (hview : ∀ key, request.Recorded format (view key)
      [⟨key, write, event.map fun made => made key⟩]) :
    Route.Records format request (Route.commit write event view) := by
  intro trace reply hafter
  obtain ⟨answer, later, rfl, hlater⟩ := hafter.of_call
  cases answer with
  | none => exact records_fail .serverError later reply hlater
  | some key =>
      obtain ⟨rfl, hsame⟩ := hlater.of_done
      obtain rfl : reply = view key := by simpa using hsame
      exact hview key

theorem records_withDevice {deviceId : String} {route : Route} (h : Route.Records format request route) :
    Route.Records format request (Route.withDevice deviceId route) := by
  apply records_read
  · exact fun _ => rfl
  · intro found
    cases found with
    | none => exact records_fail _
    | some device => exact h

theorem records_withAdmin {user : Account} {route : Route} (h : Route.Records format request route) :
    Route.Records format request (Route.withAdmin user route) := by
  unfold Route.withAdmin
  split
  · exact records_fail _
  · exact h

theorem records_withUser {decode : JwtDecode} {token : String} {route : Account → Route}
    (h : ∀ user, Route.Records format request (route user)) :
    Route.Records format request (Route.withUser decode token route) := by
  apply records_read
  · exact fun _ => rfl
  · intro now
    cases decodeAccessToken decode now token with
    | error error => exact records_fail _
    | ok username =>
        apply records_read
        · exact fun _ => rfl
        · intro found
          cases found with
          | none => exact records_fail _
          | some user => exact h user

end Parts

/-! ### The routes -/

section Routes

variable {format : FloatFormat} (zone : Int → Int)

/-- An answer alone, with what has to be written for it. -/
theorem recorded_ok {request : OperatorRequest} {view : OperatorView} {writes : List TakenWrite}
    (h : request.Told format view writes) : request.Recorded format (.ok view) writes where
  refused error herror := by cases herror
  answered view' hview := by
    obtain rfl := Except.ok.inj hview
    exact h

theorem shown_ok_of_valid {config : ThresholdConfig}
    (hvalid : ({
      temperatureWarningC := .finite config.temperatureWarningC
      temperatureCriticalC := .finite config.temperatureCriticalC
      vibrationWarningMps2 := .finite config.vibrationWarningMps2
      vibrationCriticalMps2 := .finite config.vibrationCriticalMps2
      currentWarningA := .finite config.currentWarningA
      currentCriticalA := .finite config.currentCriticalA
      hysteresisPercent := .finite config.hysteresisPercent } : ThresholdConfigUpdate).isValid = true) :
    config.shown = .ok (.thresholds config) := if_pos hvalid

theorem finite_of_toNumber? {value : FloatNumber ℚ} {number : ℚ} (h : value.toNumber? = some number) :
    value = .finite number := by
  cases value with
  | finite value' => exact congrArg _ (Option.some.inj h)
  | infinity negative => cases h
  | nan => cases h

/-- What is stored of a valid request can be shown. -/
theorem shown_columns {request : ThresholdConfigUpdate} {deviceId : String} {user : User}
    {held : ThresholdConfig} (hvalid : request.isValid = true)
    (hheld : request.columns deviceId user = some held) : held.shown = .ok (.thresholds held) := by
  unfold ThresholdConfigUpdate.columns at hheld
  simp only [Option.pure_def, Option.bind_eq_bind, Option.bind_eq_some_iff, Option.some.injEq] at hheld
  obtain ⟨low₁, hlow₁, high₁, hhigh₁, low₂, hlow₂, high₂, hhigh₂, low₃, hlow₃, high₃, hhigh₃, percent,
    hpercent, rfl⟩ := hheld
  apply shown_ok_of_valid
  dsimp only
  rw [← finite_of_toNumber? hlow₁, ← finite_of_toNumber? hhigh₁, ← finite_of_toNumber? hlow₂,
    ← finite_of_toNumber? hhigh₂, ← finite_of_toNumber? hlow₃, ← finite_of_toNumber? hhigh₃,
    ← finite_of_toNumber? hpercent]
  exact hvalid

theorem columns_updatedBy {request : ThresholdConfigUpdate} {deviceId : String} {user : User}
    {held : ThresholdConfig} (hheld : request.columns deviceId user = some held) :
    held.updatedBy = user.username := by
  unfold ThresholdConfigUpdate.columns at hheld
  simp only [Option.pure_def, Option.bind_eq_bind, Option.bind_eq_some_iff, Option.some.injEq] at hheld
  obtain ⟨_, -, _, -, _, -, _, -, _, -, _, -, _, -, rfl⟩ := hheld
  rfl

theorem shown_default (deviceId : String) :
    (ThresholdConfig.default deviceId).shown = .ok (.thresholds (ThresholdConfig.default deviceId)) := by
  apply shown_ok_of_valid
  simp only [ThresholdConfig.default, ThresholdConfigUpdate.isValid, FloatNumber.within_finite,
    ThresholdConfigUpdate.notBelow, FloatNumber.toNumber?, FloatNumber.atLeast, Option.any_some]
  norm_num

/-- A row that is only read is shown or is not. -/
theorem records_shown {deviceId : String} (config : ThresholdConfig) :
    Route.Records format (.getThresholds deviceId) (.done config.shown) := by
  apply records_done
  unfold ThresholdConfig.shown
  split
  · exact recorded_ok (.inl rfl)
  · exact ⟨fun _ _ => rfl, fun _ h => by cases h⟩

theorem records_route (user : Account) (request : OperatorRequest) (hbody : request.bodyError = none) :
    Route.Records format request (request.route format zone user) := by
  cases request with
  | createCalibration deviceId request =>
      apply records_withAdmin
      apply records_withDevice
      apply records_read
      · exact fun _ => rfl
      · intro latest
        apply records_read
        · exact fun _ => rfl
        · exact fun performedAt => records_commit fun key => recorded_ok rfl
  | createMaintenance deviceId request =>
      apply records_withDevice
      apply records_read
      · exact fun _ => rfl
      · exact fun updatedAt => records_commit fun key => recorded_ok ⟨_, rfl, rfl, rfl, rfl, rfl⟩
  | updateMaintenance recordId request =>
      apply records_read
      · exact fun _ => rfl
      · intro found
        cases found with
        | none => exact records_fail _
        | some loaded =>
            dsimp only
            cases request.refusal loaded with
            | some error => exact records_fail _
            | none =>
                apply records_read
                · exact fun _ => rfl
                · intro updatedAt
                  apply records_commit
                  exact fun key => recorded_ok ⟨key, loaded, _, user, rfl, rfl, rfl, rfl⟩
  | getThresholds deviceId =>
      apply records_withDevice
      apply records_read
      · exact fun _ => rfl
      · intro found
        cases found with
        | some config => exact records_shown config
        | none =>
            apply records_commit
            intro key
            rw [shown_default]
            exact recorded_ok (.inr ⟨key, rfl⟩)
  | updateThresholds deviceId request =>
      have hvalid : request.isValid = true := by simpa [OperatorRequest.bodyError] using hbody
      apply records_withAdmin
      apply records_withDevice
      apply records_read
      · exact fun _ => rfl
      · intro found
        cases hheld : request.columns deviceId user.toUser with
        | none => exact records_fail _
        | some held =>
            apply records_commit
            intro key
            rw [shown_columns hvalid hheld]
            apply recorded_ok
            refine ⟨key, _, user, rfl, ?_, columns_updatedBy hheld⟩
            cases found with
            | none => exact .inl rfl
            | some loaded => exact .inr ⟨loaded, rfl⟩
  | acknowledgeAlarm alarmId =>
      apply records_read
      · exact fun _ => rfl
      · intro found
        cases found with
        | none => exact records_fail _
        | some loaded =>
            dsimp only
            split
            · exact records_done (recorded_ok (.inl rfl))
            · apply records_read
              · exact fun _ => rfl
              · intro now
                split
                · exact records_fail _
                · apply records_commit
                  exact fun key => recorded_ok (.inr ⟨key, loaded, user, rfl, rfl⟩)

theorem records_request (decode : JwtDecode) (token : String) (body : OperatorRequest) :
    Route.Records format body ((OperatorCall.request token body).program format zone decode) := by
  apply records_withUser
  intro user
  cases hbody : body.bodyError with
  | some error => exact records_fail error
  | none => exact records_route zone user body hbody

end Routes

/-! ### Runs -/

/-- The events of these routes in the trail. -/
def OperatorTables.operatorEvents (tables : OperatorTables) : List RouteAuditEvent :=
  tables.audit.filter (·.action ∈ operatorActions)

/-- The same events among the statements of a run. -/
def recordedEvents (labels : List (Nat × Program.Answered OperatorOp.Answer)) : List RouteAuditEvent :=
  (labels.filterMap fun label => (takenWrite label.2).bind (·.event)).filter
    (·.action ∈ operatorActions)

theorem recordedEvents_append (labels : List (Nat × Program.Answered OperatorOp.Answer))
    (label : Nat × Program.Answered OperatorOp.Answer) :
    recordedEvents (labels ++ [label]) =
      recordedEvents labels ++
        ((takenWrite label.2).bind (·.event)).toList.filter (·.action ∈ operatorActions) := by
  unfold recordedEvents
  rw [List.filterMap_append, List.filter_append]
  cases hevent : (takenWrite label.2).bind (·.event) with
  | none => simp [hevent]
  | some event => simp [hevent]

/-- One statement adds the event of its unit of work, if it was taken. -/
theorem operatorEvents_answer {op : OperatorOp} {tables after : OperatorTables} {answer : op.Answer}
    (hanswer : operatorAnswers op tables answer after) :
    after.operatorEvents = tables.operatorEvents ++
      ((takenWrite ⟨op, answer⟩).bind (·.event)).toList.filter (·.action ∈ operatorActions) := by
  cases op with
  | commit write event =>
      cases answer with
      | none =>
          obtain rfl : after = tables := hanswer
          exact (List.append_nil _).symm
      | some key =>
          obtain ⟨-, rfl⟩ := hanswer
          rw [OperatorTables.operatorEvents, record_audit, write_audit, List.filter_append]
          rfl
  | outside =>
      obtain ⟨events, haudit, hevents⟩ := OutsideChange.audit hanswer
      have hnone : events.filter (·.action ∈ operatorActions) = [] := by
        apply List.filter_eq_nil_iff.mpr
        intro event hevent hsame
        exact hevents event hevent (of_decide_eq_true hsame)
      rw [OperatorTables.operatorEvents, haudit, List.filter_append, hnone]
      rfl
  | utcNow =>
      obtain rfl : after = tables := hanswer
      exact (List.append_nil _).symm
  | _ =>
      obtain ⟨-, rfl⟩ := hanswer
      exact (List.append_nil _).symm

section Runs

variable {format : FloatFormat} {zone : Int → Int} {decode : JwtDecode} {calls : Nat → OperatorCall}
  {start : OperatorTables} {labels : List (Nat × Program.Answered OperatorOp.Answer)}
  {state : Sessions Nat OperatorTables OperatorOp OperatorReply OperatorOp.Answer}

/-- **Requests leave what they are answered**, in any order of their statements: the trail grows by the
events of the units of work that were taken, in their order, a request that failed has had none taken,
and one that was answered has had exactly the one that its answer shows, or none where its row was there
before. -/
theorem operators_recorded (hrun : OperatorRun format zone decode calls start labels state) :
    state.store.operatorEvents = start.operatorEvents ++ recordedEvents labels ∧
      ∀ call token body reply, calls call = .request token body → state.programs call = .done reply →
        OperatorRequest.Recorded format body reply ((ownTrace labels call).filterMap takenWrite) := by
  constructor
  · apply Trail.invariant (fun labels (state : Sessions Nat OperatorTables OperatorOp OperatorReply
      OperatorOp.Answer) => state.store.operatorEvents = start.operatorEvents ++ recordedEvents labels)
      _ _ hrun
    · exact (List.append_nil _).symm
    · intro labels before label after hbefore hstep
      rw [recordedEvents_append, ← List.append_assoc, ← hbefore]
      exact operatorEvents_answer hstep.answered
  · intro call token body reply hcall hdone
    have hafter := sessions_after hrun call
    rw [hdone] at hafter
    apply records_request zone decode token body _ _
    rw [← hcall]
    exact hafter

end Runs

/-- In a run of two sessions side by side, each answer stands for its own event. -/
theorem inspections_recorded :
    ∃ labels state, OperatorRun ⟨id, fun _ => "", fun _ => .null⟩ id signedIn inspections operatorTables
        labels state ∧
      state.store.operatorEvents = operatorTables.operatorEvents ++ recordedEvents labels ∧
      ∀ call token body reply, inspections call = .request token body →
        state.programs call = .done reply →
          OperatorRequest.Recorded ⟨id, fun _ => "", fun _ => .null⟩ body reply
            ((ownTrace labels call).filterMap takenWrite) := by
  obtain ⟨labels, state, hrun, -⟩ := inspections_run ⟨id, fun _ => "", fun _ => .null⟩
  exact ⟨labels, state, hrun, operators_recorded hrun⟩

end IiotMonitoring
