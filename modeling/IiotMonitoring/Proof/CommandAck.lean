import IiotMonitoring.Server.Command

/-!
# Acknowledgements one after another

Once a command is acknowledged, its row has the status of the last envelope processed, so an envelope
is a duplicate exactly when it repeats that status. The statuses processed so far are then either all
the same, or some `accepted` followed by one terminal status.
-/

namespace IiotMonitoring

theorem toCommandStatus_injective : Function.Injective AckStatus.toCommandStatus := by
  intro left right h
  cases left <;> cases right <;> first | rfl | cases h

@[simp]
theorem acknowledge_commandId (command : DeviceCommand) (envelope : CommandAckEnvelope)
    (utcNow : Int) : (command.acknowledge envelope utcNow).commandId = command.commandId := rfl

@[simp]
theorem acknowledge_deviceId (command : DeviceCommand) (envelope : CommandAckEnvelope)
    (utcNow : Int) : (command.acknowledge envelope utcNow).deviceId = command.deviceId := rfl

/-- A write on the row that was loaded stores what the session holds. -/
theorem writeChanged_acknowledge (command : DeviceCommand) (envelope : CommandAckEnvelope)
    (utcNow : Int) :
    writeChanged command (command.acknowledge envelope utcNow) command =
      command.acknowledge envelope utcNow := by
  have hcolumn : ∀ {α : Type} [DecidableEq α] (held loaded : α),
      (if held = loaded then loaded else held) = held := by
    intro α _ held loaded
    split
    · exact Eq.symm (by assumption)
    · rfl
  unfold writeChanged
  simp only [hcolumn]
  rfl

section Sequential

variable {run : AckRun} {command : DeviceCommand} {delivery : AckDelivery}

theorem persistCommandAck_mismatch (hfor : delivery.envelope.commandId = command.commandId)
    (hstored : run.tables.commands command.commandId = some command)
    (hdevice : delivery.envelope.deviceId ≠ command.deviceId) :
    persistCommandAck run.tables delivery.envelope delivery.utcNow =
      (.error .deviceMismatch, run.tables) := by
  unfold persistCommandAck readCommandAck
  rw [hfor, hstored]
  simp only [ne_eq, hdevice.symm, not_false_eq_true, if_true]

theorem persistCommandAck_duplicate (hfor : delivery.envelope.commandId = command.commandId)
    (hstored : run.tables.commands command.commandId = some command)
    (hdevice : delivery.envelope.deviceId = command.deviceId)
    (hacknowledged : command.acknowledgedAt.isSome)
    (hstatus : command.status = delivery.envelope.status.toCommandStatus) :
    persistCommandAck run.tables delivery.envelope delivery.utcNow =
      (.ok ⟨.duplicate, delivery.envelope.messageId⟩, run.tables) := by
  unfold persistCommandAck readCommandAck
  rw [hfor, hstored]
  simp only [hdevice, ne_eq, not_true_eq_false, if_false, hacknowledged, hstatus, and_self, if_true]

theorem persistCommandAck_update (hfor : delivery.envelope.commandId = command.commandId)
    (hstored : run.tables.commands command.commandId = some command)
    (hdevice : delivery.envelope.deviceId = command.deviceId)
    (hnew : ¬ (command.acknowledgedAt.isSome ∧
      command.status = delivery.envelope.status.toCommandStatus)) :
    (persistCommandAck run.tables delivery.envelope delivery.utcNow).1 =
        .ok ⟨.inserted, delivery.envelope.messageId⟩ ∧
      (persistCommandAck run.tables delivery.envelope delivery.utcNow).2.commands command.commandId =
        some (command.acknowledge delivery.envelope delivery.utcNow) := by
  unfold persistCommandAck readCommandAck
  rw [hfor, hstored]
  simp only [hdevice, ne_eq, not_true_eq_false, if_false, if_neg hnew]
  refine ⟨trivial, ?_⟩
  unfold commitCommandAck CommandTables.write
  simp only [Function.update_self, hstored, Option.map_some, writeChanged_acknowledge]

/-- The row reflects the last envelope processed, and an `accepted` may have come before a terminal
status. -/
structure AckTracked (run : AckRun) (command : DeviceCommand) : Prop where
  stored : run.tables.commands command.commandId = some command
  status : command.acknowledgedAt.isSome →
    ∃ status : AckStatus, command.status = status.toCommandStatus
  processed : ∀ envelope ∈ run.processed, envelope.deviceId = command.deviceId ∧
    command.acknowledgedAt.isSome ∧ (command.status = envelope.status.toCommandStatus ∨
      ¬ envelope.status.Terminal ∧ command.Settled)

theorem terminal_of_settled {status : AckStatus} (hsettled : command.Settled)
    (hstatus : command.status = status.toCommandStatus) : status.Terminal := by
  obtain ⟨-, status', hterminal, hstatus'⟩ := hsettled
  rwa [toCommandStatus_injective (hstatus.symm.trans hstatus')]

/-- The rest of a sequence agrees with a settled row. -/
def SettledRepeats (command : DeviceCommand) (deliveries : List AckDelivery) : Prop :=
  command.Settled → ∀ delivery ∈ deliveries, delivery.envelope.deviceId = command.deviceId →
    command.status = delivery.envelope.status.toCommandStatus

/-- An envelope of another device is refused, and changes nothing. -/
theorem ackStep_mismatch (h : AckTracked run command)
    (hfor : delivery.envelope.commandId = command.commandId)
    (hdevice : delivery.envelope.deviceId ≠ command.deviceId) :
    ackStep run delivery = run ∧ AckIdempotent command.commandId run delivery := by
  have hpersist := persistCommandAck_mismatch hfor h.stored hdevice
  unfold ackStep AckIdempotent
  rw [hpersist]
  refine ⟨rfl, ?_, ?_⟩
  · intro command' hstored _
    exact ⟨command', hstored, rfl, rfl, rfl, rfl⟩
  · intro hmem
    exact absurd (h.processed _ hmem).1 hdevice

/-- An envelope that repeats the status is a duplicate. -/
theorem ackStep_duplicate (h : AckTracked run command)
    (hfor : delivery.envelope.commandId = command.commandId)
    (hdevice : delivery.envelope.deviceId = command.deviceId)
    (hacknowledged : command.acknowledgedAt.isSome)
    (hstatus : command.status = delivery.envelope.status.toCommandStatus) :
    AckTracked (ackStep run delivery) command ∧ AckIdempotent command.commandId run delivery := by
  have hpersist := persistCommandAck_duplicate hfor h.stored hdevice hacknowledged hstatus
  unfold ackStep AckIdempotent
  rw [hpersist]
  refine ⟨⟨h.stored, h.status, ?_⟩, ?_, ?_⟩
  · intro envelope hmem
    rw [List.mem_append, List.mem_singleton] at hmem
    rcases hmem with hmem | rfl
    · exact h.processed envelope hmem
    · exact ⟨hdevice, hacknowledged, .inl hstatus⟩
  · intro command' hstored _
    exact ⟨command', hstored, rfl, rfl, rfl, rfl⟩
  · exact fun _ => ⟨rfl, rfl⟩

/-- Any other envelope is stored, which only a settled command objects to. -/
theorem ackStep_update (h : AckTracked run command)
    (hfor : delivery.envelope.commandId = command.commandId)
    (hdevice : delivery.envelope.deviceId = command.deviceId)
    (hnew : ¬ (command.acknowledgedAt.isSome ∧
      command.status = delivery.envelope.status.toCommandStatus)) :
    (¬ command.Settled → AckTracked (ackStep run delivery)
      (command.acknowledge delivery.envelope delivery.utcNow)) ∧
      (AckIdempotent command.commandId run delivery ↔ ¬ command.Settled) := by
  obtain ⟨hresult, hrow⟩ := persistCommandAck_update hfor h.stored hdevice hnew
  constructor
  · intro hsettled
    have hstep : ackStep run delivery =
        ⟨(persistCommandAck run.tables delivery.envelope delivery.utcNow).2,
          run.processed ++ [delivery.envelope]⟩ := by
      unfold ackStep
      dsimp only
      rw [hresult]
    rw [hstep]
    refine ⟨hrow, fun _ => ⟨delivery.envelope.status, rfl⟩, ?_⟩
    intro envelope hmem
    rw [List.mem_append, List.mem_singleton] at hmem
    rcases hmem with hmem | rfl
    · -- an earlier envelope was not terminal, and this one has another status
      obtain ⟨hdevice', hacknowledged, hstatus | ⟨-, hsettled'⟩⟩ := h.processed envelope hmem
      · have haccepted : ¬ envelope.status.Terminal :=
          fun hterminal => hsettled ⟨hacknowledged, _, hterminal, hstatus⟩
        have hterminal : delivery.envelope.status.Terminal := by
          intro heq
          rw [AckStatus.Terminal, not_not] at haccepted
          rw [haccepted, ← heq] at hstatus
          exact hnew ⟨hacknowledged, hstatus⟩
        exact ⟨hdevice', rfl, .inr ⟨haccepted, rfl, _, hterminal, rfl⟩⟩
      · exact absurd hsettled' hsettled
    · exact ⟨hdevice, rfl, .inl rfl⟩
  · unfold AckIdempotent
    dsimp only
    rw [hresult, hrow]
    constructor
    · rintro ⟨hkept, -⟩ hsettled
      obtain ⟨command', hcommand', hstatus, -⟩ := hkept command h.stored hsettled
      obtain rfl := Option.some.inj hcommand'
      exact hnew ⟨hsettled.1, hstatus.symm⟩
    · intro hsettled
      constructor
      · intro command' hstored hsettled'
        rw [h.stored] at hstored
        obtain rfl := Option.some.inj hstored
        exact absurd hsettled' hsettled
      · intro hmem
        obtain ⟨-, hacknowledged, hstatus | ⟨-, hsettled'⟩⟩ := h.processed _ hmem
        · exact absurd ⟨hacknowledged, hstatus⟩ hnew
        · exact absurd hsettled' hsettled

theorem ackIdempotent_iff {deliveries : List AckDelivery} (h : AckTracked run command)
    (hfor : ∀ delivery ∈ deliveries, delivery.envelope.commandId = command.commandId) :
    StepsMeet ackStep (AckIdempotent command.commandId) run deliveries ↔
      TerminalRepeats command.deviceId deliveries ∧ SettledRepeats command deliveries := by
  induction deliveries generalizing run command with
  | nil => exact ⟨fun _ => ⟨.nil, fun _ _ h => by cases h⟩, fun _ => trivial⟩
  | cons delivery rest ih =>
      have hhead := hfor delivery List.mem_cons_self
      have hrest : ∀ later ∈ rest, later.envelope.commandId = command.commandId :=
        fun later hmem => hfor later (List.mem_cons_of_mem _ hmem)
      unfold TerminalRepeats SettledRepeats at ih ⊢
      rw [List.pairwise_cons, List.forall_mem_cons]
      by_cases hdevice : delivery.envelope.deviceId = command.deviceId
      · by_cases hsame : command.acknowledgedAt.isSome ∧
            command.status = delivery.envelope.status.toCommandStatus
        · obtain ⟨htracked, hidempotent⟩ := ackStep_duplicate h hhead hdevice hsame.1 hsame.2
          show (AckIdempotent _ _ _ ∧ StepsMeet _ _ _ _) ↔ _
          rw [ih htracked hrest]
          constructor
          · rintro ⟨-, hpairs, hsettled⟩
            refine ⟨⟨?_, hpairs⟩, fun hset => ⟨fun _ => hsame.2, hsettled hset⟩⟩
            intro later hmem _ hlater hterminal
            have hstatus := hsettled ⟨hsame.1, _, hterminal, hsame.2⟩ later hmem hlater
            exact toCommandStatus_injective (hstatus.symm.trans hsame.2)
          · rintro ⟨⟨-, hpairs⟩, hsettled⟩
            exact ⟨hidempotent, hpairs, fun hset => (hsettled hset).2⟩
        · obtain ⟨htracked, hidempotent⟩ := ackStep_update h hhead hdevice hsame
          show (AckIdempotent _ _ _ ∧ StepsMeet _ _ _ _) ↔ _
          rw [hidempotent]
          by_cases hsettled : command.Settled
          · constructor
            · exact fun hboth => absurd hsettled hboth.1
            · intro hboth
              exact absurd ⟨hsettled.1, (hboth.2 hsettled).1 hdevice⟩ hsame
          · have hafter := ih (htracked hsettled) hrest
            simp only [acknowledge_commandId, acknowledge_deviceId] at hafter
            rw [hafter]
            constructor
            · rintro ⟨-, hpairs, hnext⟩
              refine ⟨⟨?_, hpairs⟩, fun hset => absurd hset hsettled⟩
              intro later hmem _ hlater hterminal
              exact (toCommandStatus_injective
                (hnext ⟨rfl, _, hterminal, rfl⟩ later hmem hlater)).symm
            · rintro ⟨⟨hfirst, hpairs⟩, -⟩
              refine ⟨hsettled, hpairs, ?_⟩
              intro hset later hmem hlater
              have hterminal := terminal_of_settled hset rfl
              exact congrArg AckStatus.toCommandStatus (hfirst later hmem hdevice hlater hterminal).symm
      · obtain ⟨hstep, hidempotent⟩ := ackStep_mismatch h hhead hdevice
        show (AckIdempotent _ _ _ ∧ StepsMeet _ _ _ _) ↔ _
        rw [hstep, ih h hrest]
        constructor
        · rintro ⟨-, hpairs, hsettled⟩
          exact ⟨⟨fun _ _ hother => absurd hother hdevice, hpairs⟩,
            fun hset => ⟨fun hother => absurd hother hdevice, hsettled hset⟩⟩
        · rintro ⟨⟨-, hpairs⟩, hsettled⟩
          exact ⟨hidempotent, hpairs, fun hset => (hsettled hset).2⟩

end Sequential

/-- **Final acknowledgements.** Over a sequence of acknowledgements for a command, terminal states are
final and redeliveries are duplicates exactly when, after a terminal status, the command's device sends
that status only. -/
theorem command_ack_idempotent_iff {tables : CommandTables} {command : DeviceCommand}
    (hstored : tables.commands command.commandId = some command)
    (hissued : command.acknowledgedAt = none) {deliveries : List AckDelivery}
    (hfor : ∀ delivery ∈ deliveries, delivery.envelope.commandId = command.commandId) :
    StepsMeet ackStep (AckIdempotent command.commandId) ⟨tables, []⟩ deliveries ↔
      TerminalRepeats command.deviceId deliveries := by
  have htracked : AckTracked ⟨tables, []⟩ command := by
    refine ⟨hstored, ?_, fun _ h => by cases h⟩
    rw [hissued]
    intro h
    cases h
  rw [ackIdempotent_iff htracked hfor]
  constructor
  · exact fun h => h.1
  · intro hrepeats
    refine ⟨hrepeats, fun hsettled => ?_⟩
    have hacknowledged := hsettled.1
    rw [hissued] at hacknowledged
    cases hacknowledged

def sampleIssue : CommandIssue :=
  ⟨"c0ffee00-0000-4000-8000-000000000001", "motor-01", "demo-admin", ⟨true, 30⟩, 0⟩

def sampleAck (messageId : String) (status : AckStatus) : CommandAckEnvelope where
  messageId := messageId
  commandId := sampleIssue.commandId
  siteId := "workshop-demo"
  deviceId := "motor-01"
  deviceTime := none
  status := status
  resultCode := "RELAY_ON"
  detail := none
  relayOn := true

/-- Tables with the row of a command that was just issued. -/
def sampleTables : CommandTables where
  commands := Function.update (fun _ => none) sampleIssue.commandId (some sampleIssue.command)
  audit := []
  notices := []

theorem sampleTables_stored :
    sampleTables.commands sampleIssue.command.commandId = some sampleIssue.command := by
  simp [sampleTables, CommandIssue.command]

theorem command_ack_idempotent_iff_sample :
    StepsMeet ackStep (AckIdempotent sampleIssue.command.commandId) ⟨sampleTables, []⟩
      [⟨sampleAck "a" .accepted, 1⟩, ⟨sampleAck "b" .completed, 2⟩, ⟨sampleAck "b" .completed, 3⟩] := by
  apply (command_ack_idempotent_iff sampleTables_stored rfl ?_).mpr
  · simp [TerminalRepeats, sampleAck, AckStatus.Terminal]
  · simp [sampleAck, CommandIssue.command]

/-- An `accepted` is redelivered after the command was completed. -/
theorem command_ack_regresses :
    ¬ ∀ (tables : CommandTables) (command : DeviceCommand) (deliveries : List AckDelivery),
        tables.commands command.commandId = some command → command.acknowledgedAt = none →
        (∀ delivery ∈ deliveries, delivery.envelope.commandId = command.commandId) →
        StepsMeet ackStep (AckIdempotent command.commandId) ⟨tables, []⟩ deliveries := by
  intro hall
  have hfor : ∀ delivery ∈ ([⟨sampleAck "a" .accepted, 1⟩, ⟨sampleAck "b" .completed, 2⟩,
      ⟨sampleAck "a" .accepted, 3⟩] : List AckDelivery),
      delivery.envelope.commandId = sampleIssue.command.commandId := by
    simp [sampleAck, CommandIssue.command]
  have hmeets := hall sampleTables sampleIssue.command _ sampleTables_stored rfl hfor
  have htracked : AckTracked ⟨sampleTables, []⟩ sampleIssue.command :=
    ⟨sampleTables_stored, (fun h => by cases h), fun _ h => by cases h⟩
  have hrepeats := ((ackIdempotent_iff htracked hfor).mp hmeets).1
  simp [TerminalRepeats, sampleAck, AckStatus.Terminal, CommandIssue.command, sampleIssue] at hrepeats

end IiotMonitoring
