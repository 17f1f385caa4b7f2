import IiotMonitoring.Proof.Operators

/-!
# The audit trail of the operators' routes

What each commit leaves of the audit trail, and from it what any run of requests side by side does.
-/

namespace IiotMonitoring

/-! ### Commits -/

section Commits

variable {format : FloatFormat} {tables : OperatorTables}

/-- Thresholds and devices are not in the trail. -/
theorem Audited.of_same {after : OperatorTables} (h : Audited tables)
    (hchange : OperatorChange tables after) (hcalibrations : after.calibrations = tables.calibrations)
    (hmaintenance : after.maintenance = tables.maintenance) (halarms : after.alarms = tables.alarms)
    (haudit : after.audit = tables.audit) : Audited after where
  calibrationKeys := hcalibrations ▸ h.calibrationKeys
  maintenanceKeys := hmaintenance ▸ h.maintenanceKeys
  calibrations := by
    rw [OperatorTables.eventsOf, haudit, hcalibrations]
    exact h.calibrations
  maintenance := by
    rw [OperatorTables.eventsOf, haudit, hmaintenance]
    exact h.maintenance
  alarms key alarm halarm := by
    rw [OperatorTables.acknowledgements, haudit]
    exact h.alarms key alarm (halarms ▸ halarm)
  events event hevent := (h.events event (haudit ▸ hevent)).later hchange
  history := hcalibrations ▸ h.history
  due := hmaintenance ▸ h.due

/-- A true event of the other actions. -/
theorem Audited.record (h : Audited tables) {event : RouteAuditEvent} (htrue : EventTrue tables event)
    (hcalibration : event.action ≠ "calibration_created")
    (hmaintenance : event.action ≠ "maintenance_created")
    (hacknowledged : event.action ≠ "alarm_acknowledged") : Audited (tables.record (some event)) where
  calibrationKeys := h.calibrationKeys
  maintenanceKeys := h.maintenanceKeys
  calibrations := by
    rw [eventsOf_record_other hcalibration]
    exact h.calibrations
  maintenance := by
    rw [eventsOf_record_other hmaintenance]
    exact h.maintenance
  alarms key alarm halarm := by
    rw [acknowledgements_record, not_isAcknowledgementOf hacknowledged]
    simpa using h.alarms key alarm halarm
  events other hother := by
    have hsame : OperatorChange tables (tables.record (some event)) :=
      ⟨(OperatorChange.refl tables).accounts, List.prefix_rfl, (OperatorChange.refl tables).maintenance,
        (OperatorChange.refl tables).alarms⟩
    rcases List.mem_append.mp hother with hold | hnew
    · exact (h.events other hold).later hsame
    · rw [Option.toList_some, List.mem_singleton] at hnew
      rw [hnew]
      exact htrue.later hsame
  history := h.history
  due := h.due

theorem audited_newCalibration (h : Audited tables) {row : Calibration} {key : Nat}
    (hactor : tables.IsActor row.operator True) (hfollows : row.Follows tables.calibrations)
    (htakes : tables.Takes key (.newCalibration row))
    (hchange : OperatorChange tables
      ((tables.write key (.newCalibration row)).record (some (calibrationCreated row key)))) :
    Audited ((tables.write key (.newCalibration row)).record (some (calibrationCreated row key))) where
  calibrationKeys := by
    rw [record_calibrations, OperatorTables.write, List.map_append]
    refine h.calibrationKeys.append (List.nodup_singleton key) ?_
    intro other hother hkey
    obtain ⟨entry, hentry, rfl⟩ := List.mem_map.mp hother
    exact htakes entry hentry (List.mem_singleton.mp hkey)
  maintenanceKeys := h.maintenanceKeys
  calibrations := by
    rw [eventsOf_record_same (calibrationCreated_action row key), write_eventsOf, h.calibrations,
      record_calibrations, OperatorTables.write, List.map_append, List.map_singleton]
  maintenance := by
    rw [eventsOf_record_other (by simp), write_eventsOf]
    exact h.maintenance
  alarms other alarm halarm := by
    rw [acknowledgements_record, not_isAcknowledgementOf (by simp), write_acknowledgements]
    simpa using h.alarms other alarm halarm
  events event hevent := by
    rw [record_audit, write_audit] at hevent
    rcases List.mem_append.mp hevent with hold | hnew
    · exact (h.events event hold).later hchange
    · rw [Option.toList_some, List.mem_singleton] at hnew
      subst hnew
      refine ⟨fun _ => ?_, fun haction => absurd haction (by simp),
        fun haction => absurd haction (by simp)⟩
      obtain ⟨account, haccount, hactive, hadmin⟩ := hactor.later hchange
      exact ⟨account, haccount, hactive, fun _ => hadmin trivial⟩
  history := h.history.snoc hfollows
  due := h.due

theorem audited_newMaintenance (h : Audited tables) {row : MaintenanceRecord} {key : Nat}
    (hactor : tables.IsActor row.createdBy False) (hdue : row.DueAfterWork)
    (htakes : tables.Takes key (.newMaintenance row))
    (hchange : OperatorChange tables
      ((tables.write key (.newMaintenance row)).record (some (maintenanceCreated row key)))) :
    Audited ((tables.write key (.newMaintenance row)).record (some (maintenanceCreated row key))) where
  calibrationKeys := h.calibrationKeys
  maintenanceKeys := by
    rw [record_maintenance, OperatorTables.write, List.map_append]
    refine h.maintenanceKeys.append (List.nodup_singleton key) ?_
    intro other hother hkey
    obtain ⟨entry, hentry, rfl⟩ := List.mem_map.mp hother
    exact htakes entry hentry (List.mem_singleton.mp hkey)
  calibrations := by
    rw [eventsOf_record_other (by simp), write_eventsOf]
    exact h.calibrations
  maintenance := by
    rw [eventsOf_record_same (maintenanceCreated_action row key), write_eventsOf]
    exact List.rel_append h.maintenance (.cons ⟨row.status, rfl⟩ .nil)
  alarms other alarm halarm := by
    rw [acknowledgements_record, not_isAcknowledgementOf (by simp), write_acknowledgements]
    simpa using h.alarms other alarm halarm
  events event hevent := by
    rw [record_audit, write_audit] at hevent
    rcases List.mem_append.mp hevent with hold | hnew
    · exact (h.events event hold).later hchange
    · rw [Option.toList_some, List.mem_singleton] at hnew
      subst hnew
      refine ⟨fun _ => ?_, fun haction => absurd haction (by simp),
        fun haction => absurd haction (by simp)⟩
      obtain ⟨account, haccount, hactive, -⟩ := hactor.later hchange
      exact ⟨account, haccount, hactive, fun haction => absurd haction (by simp [maintenanceCreated, adminActions])⟩
  history := h.history
  due entry hentry := by
    rcases List.mem_append.mp hentry with hold | hnew
    · exact h.due entry hold
    · rw [List.mem_singleton.mp hnew]
      exact hdue

theorem dueAfterWork_written {loaded held stored : MaintenanceRecord} (hstored : stored.DueAfterWork)
    (hheld : held.DueAfterWork) (hsame : held.performedAt = stored.performedAt) :
    (writeMaintenance loaded held stored).DueAfterWork := by
  intro due hdue
  unfold writeMaintenance at hdue ⊢
  dsimp only at hdue ⊢
  split at hdue
  · exact hstored due hdue
  · rw [← hsame]
    exact hheld due hdue

/-- A change of the maintenance table. -/
theorem audited_maintenance (h : Audited tables) {recordId key : Nat}
    {loaded held row : MaintenanceRecord} (hstored : (recordId, row) ∈ tables.maintenance)
    (hsame : SameWork loaded row) (hheld : held.performedAt = loaded.performedAt)
    (hdue : held.DueAfterWork)
    (hchange : OperatorChange tables (tables.write key (.maintenance recordId loaded held))) :
    Audited (tables.write key (.maintenance recordId loaded held)) where
  calibrationKeys := h.calibrationKeys
  maintenanceKeys := by
    have hkeys : (tables.write key (.maintenance recordId loaded held)).maintenance.map Prod.fst =
        tables.maintenance.map Prod.fst := by
      rw [OperatorTables.write, List.map_map]
      apply List.map_congr_left
      intro entry _
      by_cases hentry : entry.1 = recordId <;> simp [hentry]
    rw [hkeys]
    exact h.maintenanceKeys
  calibrations := h.calibrations
  maintenance := by
    refine List.forall₂_map_right_iff.mpr (h.maintenance.imp ?_)
    rintro event entry ⟨status, rfl⟩
    refine ⟨status, ?_⟩
    by_cases hentry : entry.1 = recordId
    · rw [if_pos hentry]
      rfl
    · rw [if_neg hentry]
  alarms := h.alarms
  events event hevent := (h.events event hevent).later hchange
  history := h.history
  due := by
    intro entry hentry
    obtain ⟨before, hbefore, rfl⟩ := List.mem_map.mp hentry
    by_cases hrecord : before.1 = recordId
    · rw [if_pos hrecord]
      have hrow : before = (recordId, row) :=
        List.inj_on_of_nodup_map h.maintenanceKeys hbefore hstored hrecord
      subst hrow
      exact dueAfterWork_written (h.due _ hbefore) hdue (hheld.trans hsame.performedAt.symm)
    · rw [if_neg hrecord]
      exact h.due before hbefore

theorem isAcknowledgementOf_alarmAcknowledged (alarm : Alarm) (alarmId : Nat) (user : Account)
    (other : Nat) :
    (alarmAcknowledged alarm alarmId user).isAcknowledgementOf other = decide (alarmId = other) := by
  simp only [RouteAuditEvent.isAcknowledgementOf, alarmAcknowledged, decide_true, Bool.true_and,
    toString_nat_inj]

theorem audited_alarm (h : Audited tables) {alarmId key : Nat} {loaded stored : Alarm} {user : Account}
    {now : Int} (hactor : tables.IsActor user.username False) (hfirst : loaded.acknowledgedAt = none)
    (hby : loaded.acknowledgedBy = none) (hstored : tables.alarms[alarmId]? = some stored)
    (hdevice : stored.deviceId = loaded.deviceId) (hcode : stored.code = loaded.code)
    (hchange : OperatorChange tables
      ((tables.write key (.alarm alarmId loaded (loaded.acknowledge user.toUser now))).record
        (some (alarmAcknowledged loaded alarmId user)))) :
    Audited ((tables.write key (.alarm alarmId loaded (loaded.acknowledge user.toUser now))).record
      (some (alarmAcknowledged loaded alarmId user))) where
  calibrationKeys := h.calibrationKeys
  maintenanceKeys := h.maintenanceKeys
  calibrations := by
    rw [eventsOf_record_other (by simp), write_eventsOf]
    exact h.calibrations
  maintenance := by
    rw [eventsOf_record_other (by simp), write_eventsOf]
    exact h.maintenance
  alarms other alarm halarm := by
    rw [record_alarms, write_alarm] at halarm
    rw [acknowledgements_record, isAcknowledgementOf_alarmAcknowledged,
      write_acknowledgements]
    by_cases hother : alarmId = other
    · subst hother
      rw [if_pos rfl, hstored, Option.map_some] at halarm
      obtain rfl := Option.some.inj halarm
      rw [acknowledgedAt_written stored user.toUser now hfirst,
        acknowledgedBy_written stored user.toUser now hby]
      simp [alarmAcknowledged]
    · rw [if_neg hother] at halarm
      simpa [hother] using h.alarms other alarm halarm
  events event hevent := by
    rw [record_audit, write_audit] at hevent
    rcases List.mem_append.mp hevent with hold | hnew
    · exact (h.events event hold).later hchange
    · rw [Option.toList_some, List.mem_singleton] at hnew
      subst hnew
      refine ⟨fun _ => ?_, fun haction => absurd haction (by simp), fun _ => ?_⟩
      · obtain ⟨account, haccount, hactive, -⟩ := hactor.later hchange
        exact ⟨account, haccount, hactive,
          fun haction => absurd haction (by simp [alarmAcknowledged, adminActions])⟩
      · obtain ⟨alarm', halarm', hdevice', hcode', -⟩ := hchange.alarms alarmId stored hstored
        refine ⟨alarmId, alarm', user, halarm', ?_⟩
        rw [alarmAcknowledged, alarmAcknowledged, hdevice', hcode', hdevice, hcode]
  history := h.history
  due := h.due

theorem audited_commit (h : Audited tables) {write : OperatorWrite}
    {event : Option (Nat → RouteAuditEvent)} {key : Nat}
    (hproper : CommitProper format tables write event) (htakes : tables.Takes key write) :
    Audited ((tables.write key write).record (event.map fun made => made key)) := by
  have hchange : OperatorChange tables
      ((tables.write key write).record (event.map fun made => made key)) := commit_change hproper
  have hwritten : OperatorChange tables (tables.write key write) :=
    ⟨hchange.accounts, hchange.calibrations, hchange.maintenance, hchange.alarms⟩
  cases hproper with
  | newCalibration hactor hfollows => exact audited_newCalibration h hactor hfollows htakes hchange
  | newMaintenance hactor hdue => exact audited_newMaintenance h hactor hdue htakes hchange
  | @maintenance recordId loaded held user hactor hstored hheld hdue =>
      obtain ⟨row, hrow, hsame⟩ := hstored
      apply (audited_maintenance h hrow hsame hheld hdue hwritten).record
      · refine ⟨fun _ => ?_, fun _ => ?_, fun haction => absurd haction (by simp)⟩
        · obtain ⟨account, haccount, hactive, -⟩ := hactor.later hwritten
          exact ⟨account, haccount, hactive,
            fun haction => absurd haction (by simp [maintenanceUpdated, adminActions])⟩
        · obtain ⟨row', hrow', hsame'⟩ := hwritten.maintenance _ hrow
          refine ⟨_, hrow', user, ?_⟩
          rw [maintenanceUpdated, maintenanceUpdated, hsame'.deviceId, hsame.deviceId]
      · simp
      · simp
      · simp
  | defaultThresholds deviceId =>
      exact h.of_same hchange rfl rfl rfl (by rw [record_audit, write_audit]; simp)
  | newThresholds hactor =>
      refine Audited.record (h.of_same hwritten rfl rfl rfl write_audit) ?_ ?_ ?_ ?_
      · refine ⟨fun _ => ?_, fun haction => absurd haction (by simp),
          fun haction => absurd haction (by simp)⟩
        obtain ⟨account, haccount, hactive, hadmin⟩ := hactor.later hwritten
        exact ⟨account, haccount, hactive, fun _ => hadmin trivial⟩
      · simp
      · simp
      · simp
  | thresholds hactor =>
      refine Audited.record (h.of_same hwritten rfl rfl rfl write_audit) ?_ ?_ ?_ ?_
      · refine ⟨fun _ => ?_, fun haction => absurd haction (by simp),
          fun haction => absurd haction (by simp)⟩
        obtain ⟨account, haccount, hactive, hadmin⟩ := hactor.later hwritten
        exact ⟨account, haccount, hactive, fun _ => hadmin trivial⟩
      · simp
      · simp
      · simp
  | alarm hactor hfirst hby hstored =>
      obtain ⟨stored, halarm, hdevice, hcode⟩ := hstored
      exact audited_alarm h hactor hfirst hby halarm hdevice hcode hchange

/-! ### Other processes -/

theorem OutsideChange.change {after : OperatorTables} (h : OutsideChange tables after) :
    OperatorChange tables after where
  accounts := h.accounts
  calibrations := by rw [h.calibrations]
  maintenance entry hentry := ⟨entry.2, h.maintenance.symm ▸ hentry, .refl _⟩
  alarms key alarm halarm := by
    obtain ⟨alarm', halarm', hsame⟩ := h.alarms key alarm halarm
    refine ⟨alarm', halarm', hsame.deviceId, hsame.code, ?_⟩
    rw [hsame.acknowledgedAt]
    exact id

theorem eventsOf_outside {events : List RouteAuditEvent} {action : String}
    (hevents : ∀ event ∈ events, event.action ∉ operatorActions) (haction : action ∈ operatorActions)
    (audit : List RouteAuditEvent) :
    (audit ++ events).filter (·.action = action) = audit.filter (·.action = action) := by
  rw [List.filter_append]
  have hnone : events.filter (·.action = action) = [] := by
    apply List.filter_eq_nil_iff.mpr
    intro event hevent hsame
    exact hevents event hevent ((of_decide_eq_true hsame).symm ▸ haction)
  rw [hnone, List.append_nil]

theorem acknowledgements_outside {events : List RouteAuditEvent}
    (hevents : ∀ event ∈ events, event.action ∉ operatorActions) (key : Nat)
    (audit : List RouteAuditEvent) :
    (audit ++ events).filter (·.isAcknowledgementOf key) =
      audit.filter (·.isAcknowledgementOf key) := by
  rw [List.filter_append]
  have hnone : events.filter (·.isAcknowledgementOf key) = [] := by
    apply List.filter_eq_nil_iff.mpr
    intro event hevent hsame
    rw [not_isAcknowledgementOf] at hsame
    · exact absurd hsame (by simp)
    · intro haction
      exact hevents event hevent (haction ▸ by simp [operatorActions])
  rw [hnone, List.append_nil]

/-- The ingestor and the workers leave the trail true: an alarm that they open is not acknowledged, as
no event names it. -/
theorem audited_outside (h : Audited tables) {after : OperatorTables}
    (houtside : OutsideChange tables after) : Audited after := by
  obtain ⟨events, haudit, hevents⟩ := houtside.audit
  have hchange := houtside.change
  refine ⟨houtside.calibrations ▸ h.calibrationKeys, houtside.maintenance ▸ h.maintenanceKeys, ?_, ?_,
    ?_, ?_, houtside.calibrations ▸ h.history, houtside.maintenance ▸ h.due⟩
  · rw [OperatorTables.eventsOf, haudit, eventsOf_outside hevents (by simp [operatorActions]),
      houtside.calibrations]
    exact h.calibrations
  · rw [OperatorTables.eventsOf, haudit, eventsOf_outside hevents (by simp [operatorActions]),
      houtside.maintenance]
    exact h.maintenance
  · intro key alarm halarm
    rw [OperatorTables.acknowledgements, haudit, acknowledgements_outside hevents]
    cases hbefore : tables.alarms[key]? with
    | some alarm' =>
        obtain ⟨alarm'', halarm'', hsame⟩ := houtside.alarms key alarm' hbefore
        obtain rfl := Option.some.inj (halarm.symm.trans halarm'')
        rw [hsame.acknowledgedBy, hsame.acknowledgedAt]
        exact h.alarms key alarm' hbefore
    | none =>
        obtain ⟨hat, hby⟩ := houtside.opened key alarm hbefore halarm
        have hnone : tables.audit.filter (·.isAcknowledgementOf key) = [] := by
          apply List.filter_eq_nil_iff.mpr
          intro event hevent hsame
          simp only [RouteAuditEvent.isAcknowledgementOf, Bool.and_eq_true, decide_eq_true_eq] at hsame
          obtain ⟨other, alarm', user, halarm', rfl⟩ := (h.events event hevent).acknowledged hsame.1
          obtain rfl : other = key := toString_nat_inj.mp hsame.2
          rw [hbefore] at halarm'
          cases halarm'
        rw [hat, hby, hnone]
        exact ⟨rfl, rfl⟩
  · intro event hevent
    rw [haudit] at hevent
    rcases List.mem_append.mp hevent with hold | hnew
    · exact (h.events event hold).later hchange
    · have hother := hevents event hnew
      exact ⟨fun haction => absurd haction hother,
        fun haction => absurd (haction ▸ by simp [operatorActions]) hother,
        fun haction => absurd (haction ▸ by simp [operatorActions]) hother⟩

/-! ### The discipline of the routes -/

/-- The routes keep the trail true, whatever other requests do between their statements. -/
def operatorRules (format : FloatFormat) : Discipline OperatorTables operatorAnswers where
  invariant := Audited
  changes := OperatorChange
  allowed op tables answer after := operatorAnswers op tables answer after ∧ op.Proper format tables
  refl := .refl
  trans := .trans
  kept := by
    rintro op tables answer after haudited ⟨hanswer, hproper⟩
    cases op with
    | commit write event =>
        cases answer with
        | none =>
            obtain rfl : after = tables := hanswer
            exact ⟨haudited, .refl _⟩
        | some key =>
            obtain ⟨htakes, rfl⟩ := hanswer
            exact ⟨audited_commit haudited hproper htakes, commit_change hproper⟩
    | outside => exact ⟨audited_outside haudited hanswer, OutsideChange.change hanswer⟩
    | utcNow =>
        obtain rfl : after = tables := hanswer
        exact ⟨haudited, .refl _⟩
    | _ =>
        obtain ⟨-, rfl⟩ := hanswer
        exact ⟨haudited, .refl _⟩

end Commits

end IiotMonitoring
