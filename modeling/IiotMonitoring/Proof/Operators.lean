import IiotMonitoring.Server.Operators

/-!
# What the operators' routes agree on

Every commit of a route names its active user and describes its row, as the row stands when the commit is
made: sessions load rows that others may change in between, but never the columns that this rests on.
-/

namespace IiotMonitoring

theorem toString_nat_inj {left right : Nat} : toString left = toString right ↔ left = right := by
  constructor
  · intro h
    rw [Nat.toString_eq_ofList_toDigits, Nat.toString_eq_ofList_toDigits] at h
    rw [← @Nat.ofDigitChars_ten_toDigits left, String.ofList_injective h,
      Nat.ofDigitChars_ten_toDigits]
  · exact congrArg toString

/-! ### What holds of the tables -/

def RouteAuditEvent.isAcknowledgementOf (event : RouteAuditEvent) (alarmId : Nat) : Bool :=
  event.action = "alarm_acknowledged" && event.targetId = toString alarmId

/-- The columns of a maintenance record that nobody changes. -/
structure SameWork (row row' : MaintenanceRecord) : Prop where
  deviceId : row'.deviceId = row.deviceId
  performedAt : row'.performedAt = row.performedAt
  createdBy : row'.createdBy = row.createdBy

def MaintenanceRecord.DueAfterWork (row : MaintenanceRecord) : Prop :=
  ∀ due, row.nextDueAt = some due → row.performedAt < due

/-- The coefficients before a calibration: those of an earlier one of the sensor, or none were set. -/
def Calibration.Follows (row : Calibration) (earlier : List (Nat × Calibration)) : Prop :=
  row.previousCoefficients = Coefficients.identity ∨
    ∃ entry ∈ earlier, entry.2.deviceId = row.deviceId ∧ entry.2.sensor = row.sensor ∧
      row.previousCoefficients = entry.2.newCoefficients

/-- Every calibration follows from those committed before it. -/
inductive CalibrationHistory : List (Nat × Calibration) → Prop where
  | nil : CalibrationHistory []
  | snoc {earlier : List (Nat × Calibration)} {key : Nat} {row : Calibration}
      (hearlier : CalibrationHistory earlier) (hfollows : row.Follows earlier) :
      CalibrationHistory (earlier ++ [(key, row)])

namespace OperatorTables

variable (tables : OperatorTables)

def eventsOf (action : String) : List RouteAuditEvent := tables.audit.filter (·.action = action)

def acknowledgements (alarmId : Nat) : List RouteAuditEvent :=
  tables.audit.filter (·.isAcknowledgementOf alarmId)

/-- An active user, of the administrators where that is asked for. -/
def IsActor (username : String) (admin : Prop) : Prop :=
  ∃ account, tables.accounts username = some account ∧ account.active = true ∧
    (admin → account.role = "admin")

end OperatorTables

/-- The actions that only administrators perform. -/
def adminActions : List String := ["calibration_created", "thresholds_updated"]

/-- What an event of the routes says is so. -/
structure EventTrue (tables : OperatorTables) (event : RouteAuditEvent) : Prop where
  actor : event.action ∈ operatorActions → tables.IsActor event.actor (event.action ∈ adminActions)
  updated : event.action = "maintenance_updated" → ∃ entry ∈ tables.maintenance, ∃ user : Account,
    event = maintenanceUpdated entry.2 entry.1 user
  acknowledged : event.action = "alarm_acknowledged" → ∃ (key : Nat) (alarm : Alarm) (user : Account),
    tables.alarms[key]? = some alarm ∧ event = alarmAcknowledged alarm key user

/-- The audit events tell what the tables hold, and the tables hold what the routes promise. -/
structure Audited (tables : OperatorTables) : Prop where
  calibrationKeys : (tables.calibrations.map Prod.fst).Nodup
  maintenanceKeys : (tables.maintenance.map Prod.fst).Nodup
  calibrations : tables.eventsOf "calibration_created" =
    tables.calibrations.map fun entry => calibrationCreated entry.2 entry.1
  maintenance : List.Forall₂
    (fun event entry => ∃ status,
      event = maintenanceCreated { entry.2 with status := status } entry.1)
    (tables.eventsOf "maintenance_created") tables.maintenance
  alarms : ∀ (key : Nat) (alarm : Alarm), tables.alarms[key]? = some alarm →
    alarm.acknowledgedBy = (tables.acknowledgements key).getLast?.map (·.actor) ∧
      alarm.acknowledgedAt.isSome = alarm.acknowledgedBy.isSome
  events : ∀ event ∈ tables.audit, EventTrue tables event
  history : CalibrationHistory tables.calibrations
  due : ∀ entry ∈ tables.maintenance, entry.2.DueAfterWork

/-! ### What others may change -/

/-- What a session that loaded rows of the first tables can rely on. -/
structure OperatorChange (before after : OperatorTables) : Prop where
  accounts : ∀ username account, before.accounts username = some account →
    after.accounts username = some account
  calibrations : before.calibrations <+: after.calibrations
  maintenance : ∀ entry ∈ before.maintenance, ∃ row, (entry.1, row) ∈ after.maintenance ∧
    SameWork entry.2 row
  alarms : ∀ (key : Nat) (alarm : Alarm), before.alarms[key]? = some alarm →
    ∃ alarm', after.alarms[key]? = some alarm' ∧ alarm'.deviceId = alarm.deviceId ∧
      alarm'.code = alarm.code ∧ (alarm.acknowledgedAt.isSome → alarm'.acknowledgedAt.isSome)

theorem SameWork.refl (row : MaintenanceRecord) : SameWork row row := ⟨rfl, rfl, rfl⟩

theorem SameWork.trans {first second third : MaintenanceRecord} (h : SameWork first second)
    (h' : SameWork second third) : SameWork first third :=
  ⟨h'.deviceId.trans h.deviceId, h'.performedAt.trans h.performedAt, h'.createdBy.trans h.createdBy⟩

theorem OperatorChange.refl (tables : OperatorTables) : OperatorChange tables tables where
  accounts _ _ h := h
  calibrations := List.prefix_rfl
  maintenance entry hentry := ⟨entry.2, hentry, .refl _⟩
  alarms _ alarm halarm := ⟨alarm, halarm, rfl, rfl, id⟩

theorem OperatorChange.trans {first second third : OperatorTables} (h : OperatorChange first second)
    (h' : OperatorChange second third) : OperatorChange first third where
  accounts username account haccount := h'.accounts username account (h.accounts username account haccount)
  calibrations := h.calibrations.trans h'.calibrations
  maintenance entry hentry := by
    obtain ⟨row, hrow, hsame⟩ := h.maintenance entry hentry
    obtain ⟨row', hrow', hsame'⟩ := h'.maintenance _ hrow
    exact ⟨row', hrow', hsame.trans hsame'⟩
  alarms key alarm halarm := by
    obtain ⟨alarm', halarm', hdevice, hcode, hdone⟩ := h.alarms key alarm halarm
    obtain ⟨alarm'', halarm'', hdevice', hcode', hdone'⟩ := h'.alarms key alarm' halarm'
    exact ⟨alarm'', halarm'', hdevice'.trans hdevice, hcode'.trans hcode, fun h => hdone' (hdone h)⟩

theorem OperatorTables.IsActor.later {before after : OperatorTables} {username : String} {admin : Prop}
    (h : before.IsActor username admin) (hchange : OperatorChange before after) :
    after.IsActor username admin := by
  obtain ⟨account, haccount, hactive, hadmin⟩ := h
  exact ⟨account, hchange.accounts username account haccount, hactive, hadmin⟩

theorem EventTrue.later {before after : OperatorTables} {event : RouteAuditEvent}
    (h : EventTrue before event) (hchange : OperatorChange before after) : EventTrue after event where
  actor haction := (h.actor haction).later hchange
  updated haction := by
    obtain ⟨entry, hentry, user, hevent⟩ := h.updated haction
    obtain ⟨row, hrow, hsame⟩ := hchange.maintenance entry hentry
    refine ⟨(entry.1, row), hrow, user, ?_⟩
    rw [hevent, maintenanceUpdated, maintenanceUpdated, hsame.deviceId]
  acknowledged haction := by
    obtain ⟨key, alarm, user, halarm, hevent⟩ := h.acknowledged haction
    obtain ⟨alarm', halarm', hdevice, hcode, -⟩ := hchange.alarms key alarm halarm
    refine ⟨key, alarm', user, halarm', ?_⟩
    rw [hevent, alarmAcknowledged, alarmAcknowledged, hdevice, hcode]

/-! ### What a commit may hold -/

section Commits

variable (format : FloatFormat) (tables : OperatorTables)

/-- The unit of work of one of the routes, on the tables that its commit finds. -/
inductive CommitProper : OperatorWrite → Option (Nat → RouteAuditEvent) → Prop where
  | newCalibration {row : Calibration} (hactor : tables.IsActor row.operator True)
      (hfollows : row.Follows tables.calibrations) :
      CommitProper (.newCalibration row) (some (calibrationCreated row))
  | newMaintenance {row : MaintenanceRecord} (hactor : tables.IsActor row.createdBy False)
      (hdue : row.DueAfterWork) : CommitProper (.newMaintenance row) (some (maintenanceCreated row))
  | maintenance {recordId : Nat} {loaded held : MaintenanceRecord} {user : Account}
      (hactor : tables.IsActor user.username False)
      (hstored : ∃ row, (recordId, row) ∈ tables.maintenance ∧ SameWork loaded row)
      (hheld : held.performedAt = loaded.performedAt) (hdue : held.DueAfterWork) :
      CommitProper (.maintenance recordId loaded held)
        (some fun _ => maintenanceUpdated loaded recordId user)
  | defaultThresholds (deviceId : String) :
      CommitProper (.newThresholds (ThresholdConfig.default deviceId)) none
  | newThresholds {deviceId : String} {request : ThresholdConfigUpdate} {user : Account}
      {held : ThresholdConfig} (hactor : tables.IsActor user.username True)
      (hvalid : request.isValid = true) (hheld : request.columns deviceId user.toUser = some held) :
      CommitProper (.newThresholds held)
        (some fun _ => thresholdsUpdated format deviceId request user)
  | thresholds {deviceId : String} {request : ThresholdConfigUpdate} {user : Account}
      {loaded held : ThresholdConfig} (hactor : tables.IsActor user.username True)
      (hvalid : request.isValid = true) (hheld : request.columns deviceId user.toUser = some held)
      (hloaded : loaded.deviceId = deviceId) :
      CommitProper (.thresholds loaded held)
        (some fun _ => thresholdsUpdated format deviceId request user)
  | alarm {alarmId : Nat} {loaded : Alarm} {user : Account} {now : Int}
      (hactor : tables.IsActor user.username False) (hfirst : loaded.acknowledgedAt = none)
      (hby : loaded.acknowledgedBy = none)
      (hstored : ∃ alarm, tables.alarms[alarmId]? = some alarm ∧
        alarm.deviceId = loaded.deviceId ∧ alarm.code = loaded.code) :
      CommitProper (.alarm alarmId loaded (loaded.acknowledge user.toUser now))
        (some fun _ => alarmAcknowledged loaded alarmId user)

def OperatorOp.Proper : OperatorOp → Prop
  | .commit write event => CommitProper format tables write event
  | _ => True

end Commits

/-! ### What a commit leaves -/

section Audit

variable (tables : OperatorTables)

@[simp]
theorem calibrationCreated_action (row : Calibration) (key : Nat) :
    (calibrationCreated row key).action = "calibration_created" := rfl

@[simp]
theorem maintenanceCreated_action (row : MaintenanceRecord) (key : Nat) :
    (maintenanceCreated row key).action = "maintenance_created" := rfl

@[simp]
theorem maintenanceUpdated_action (row : MaintenanceRecord) (recordId : Nat) (user : Account) :
    (maintenanceUpdated row recordId user).action = "maintenance_updated" := rfl

@[simp]
theorem thresholdsUpdated_action (format : FloatFormat) (deviceId : String)
    (request : ThresholdConfigUpdate) (user : Account) :
    (thresholdsUpdated format deviceId request user).action = "thresholds_updated" := rfl

@[simp]
theorem alarmAcknowledged_action (alarm : Alarm) (alarmId : Nat) (user : Account) :
    (alarmAcknowledged alarm alarmId user).action = "alarm_acknowledged" := rfl

variable {tables} in
theorem eventsOf_record_same {event : RouteAuditEvent} {action : String} (h : event.action = action) :
    (tables.record (some event)).eventsOf action = tables.eventsOf action ++ [event] := by
  unfold OperatorTables.eventsOf OperatorTables.record
  rw [List.filter_append]
  simp [h]

variable {tables} in
theorem eventsOf_record_other {event : RouteAuditEvent} {action : String} (h : event.action ≠ action) :
    (tables.record (some event)).eventsOf action = tables.eventsOf action := by
  unfold OperatorTables.eventsOf OperatorTables.record
  rw [List.filter_append]
  simp [h]

theorem acknowledgements_record (event : RouteAuditEvent) (alarmId : Nat) :
    (tables.record (some event)).acknowledgements alarmId =
      tables.acknowledgements alarmId ++
        if event.isAcknowledgementOf alarmId then [event] else [] := by
  unfold OperatorTables.acknowledgements OperatorTables.record
  rw [List.filter_append]
  by_cases hevent : event.isAcknowledgementOf alarmId <;> simp [hevent]

theorem not_isAcknowledgementOf {event : RouteAuditEvent} (haction : event.action ≠ "alarm_acknowledged")
    (alarmId : Nat) : event.isAcknowledgementOf alarmId = false := by
  unfold RouteAuditEvent.isAcknowledgementOf
  simp [haction]

end Audit

section Commit

variable {format : FloatFormat} {tables : OperatorTables} {write : OperatorWrite}
  {event : Option (Nat → RouteAuditEvent)} {key : Nat}

@[simp]
theorem record_calibrations (made : Option RouteAuditEvent) :
    (tables.record made).calibrations = tables.calibrations := rfl

@[simp]
theorem record_maintenance (made : Option RouteAuditEvent) :
    (tables.record made).maintenance = tables.maintenance := rfl

@[simp]
theorem record_alarms (made : Option RouteAuditEvent) :
    (tables.record made).alarms = tables.alarms := rfl

@[simp]
theorem record_audit (made : Option RouteAuditEvent) :
    (tables.record made).audit = tables.audit ++ made.toList := rfl

@[simp]
theorem write_audit : (tables.write key write).audit = tables.audit := by
  cases write <;> rfl

@[simp]
theorem write_eventsOf (action : String) :
    (tables.write key write).eventsOf action = tables.eventsOf action := by
  rw [OperatorTables.eventsOf, write_audit, OperatorTables.eventsOf]

@[simp]
theorem write_acknowledgements (alarmId : Nat) :
    (tables.write key write).acknowledgements alarmId = tables.acknowledgements alarmId := by
  rw [OperatorTables.acknowledgements, write_audit, OperatorTables.acknowledgements]

@[simp]
theorem write_accounts : (tables.write key write).accounts = tables.accounts := by
  cases write <;> rfl

theorem write_calibrations_prefix :
    tables.calibrations <+: (tables.write key write).calibrations := by
  cases write with
  | newCalibration row => exact List.prefix_append _ _
  | _ => exact List.prefix_rfl

theorem write_maintenance_same : ∀ entry ∈ tables.maintenance,
    ∃ row, (entry.1, row) ∈ (tables.write key write).maintenance ∧ SameWork entry.2 row := by
  intro entry hentry
  cases write with
  | newMaintenance row => exact ⟨entry.2, List.mem_append_left _ hentry, .refl _⟩
  | maintenance recordId loaded held =>
      have hwritten := List.mem_map_of_mem (f := fun entry : Nat × MaintenanceRecord =>
        if entry.1 = recordId then (entry.1, writeMaintenance loaded held entry.2) else entry) hentry
      by_cases hrecord : entry.1 = recordId
      · rw [if_pos hrecord] at hwritten
        exact ⟨_, hwritten, rfl, rfl, rfl⟩
      · rw [if_neg hrecord] at hwritten
        exact ⟨_, hwritten, .refl _⟩
  | _ => exact ⟨entry.2, hentry, .refl _⟩

/-- A write of the alarm table leaves the other rows, and of its own sets the acknowledgement. -/
theorem write_alarm (alarmId : Nat) (loaded held : Alarm) (other : Nat) :
    (tables.write key (.alarm alarmId loaded held)).alarms[other]? =
      if alarmId = other then tables.alarms[other]?.map (writeAcknowledgement loaded held)
      else tables.alarms[other]? := by
  by_cases hother : alarmId = other
  · subst hother
    rw [if_pos rfl]
    exact List.getElem?_modify_eq ..
  · rw [if_neg hother]
    exact List.getElem?_modify_ne _ _ hother

theorem acknowledgedAt_written {loaded : Alarm} (stored : Alarm) (user : User) (now : Int)
    (hfirst : loaded.acknowledgedAt = none) :
    (writeAcknowledgement loaded (loaded.acknowledge user now) stored).acknowledgedAt = some now := by
  unfold writeAcknowledgement Alarm.acknowledge
  simp [hfirst]

theorem acknowledgedBy_written {loaded : Alarm} (stored : Alarm) (user : User) (now : Int)
    (hby : loaded.acknowledgedBy = none) :
    (writeAcknowledgement loaded (loaded.acknowledge user now) stored).acknowledgedBy =
      some user.username := by
  unfold writeAcknowledgement Alarm.acknowledge
  simp [hby]

theorem commit_change (hproper : CommitProper format tables write event) :
    OperatorChange tables ((tables.write key write).record (event.map fun made => made key)) where
  accounts username account haccount := by
    rw [OperatorTables.record, write_accounts]
    exact haccount
  calibrations := write_calibrations_prefix
  maintenance := write_maintenance_same
  alarms other alarm halarm := by
    cases hproper with
    | alarm hactor hfirst hby hstored =>
        rename_i alarmId loaded user now
        rw [record_alarms, write_alarm, halarm]
        by_cases hother : alarmId = other
        · rw [if_pos hother]
          refine ⟨_, rfl, rfl, rfl, fun _ => ?_⟩
          rw [acknowledgedAt_written alarm user.toUser now hfirst]
          rfl
        · rw [if_neg hother]
          exact ⟨alarm, rfl, rfl, rfl, id⟩
    | _ => exact ⟨alarm, halarm, rfl, rfl, id⟩

end Commit

end IiotMonitoring
