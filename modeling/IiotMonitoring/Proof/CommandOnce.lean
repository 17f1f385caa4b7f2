import IiotMonitoring.Proof.RelayTasks

/-!
# Commands that are delivered again

A run is compared with the run on the same deliveries without the redelivered copies. A copy that does
not enter `command_queue` changes nothing, so the two runs agree while none does. The first copy that
enters it is dealt with like a first delivery, and the ids the gateway has dealt with or still holds
then differ for good.
-/

namespace IiotMonitoring

variable {parse : List UInt8 → Option CJson} {identity : GatewayIdentity} {tasks : RelayTasks}

/-! ### Copies that are not accepted -/

theorem commandReceived_of_not_accepts {topic : String} {payload : List UInt8}
    (haccepts : tasks.accepts identity topic payload = false) :
    tasks.commandReceived identity topic payload = tasks := by
  unfold RelayTasks.commandReceived
  rw [if_neg (Bool.eq_false_iff.mp haccepts)]

theorem noteDelivery_of_mem {topic : String} {payload : List UInt8} {commandId : String}
    (hid : deliveredId parse identity topic payload = some commandId)
    (hmem : commandId ∈ tasks.delivered) : tasks.noteDelivery parse identity topic payload = tasks := by
  unfold RelayTasks.noteDelivery
  rw [hid]
  exact if_pos hmem

@[simp]
theorem commandReceived_delivered (tasks : RelayTasks) (topic : String) (payload : List UInt8) :
    (tasks.commandReceived identity topic payload).delivered = tasks.delivered := by
  unfold RelayTasks.commandReceived
  split
  · rfl
  · rfl

/-- A copy that is not accepted changes nothing. -/
theorem relayStep_copy {topic : String} {payload : List UInt8} {commandId : String}
    (hid : deliveredId parse identity topic payload = some commandId)
    (hmem : commandId ∈ tasks.delivered)
    (haccepts : tasks.accepts identity topic payload = false) :
    relayStep parse identity tasks (.mqttData topic payload) = tasks := by
  simp only [relayStep]
  rw [commandReceived_of_not_accepts haccepts, noteDelivery_of_mem hid hmem]

/-- The ids delivered once the event has happened. -/
def deliveredAfter (parse : List UInt8 → Option CJson) (identity : GatewayIdentity)
    (delivered : List String) : RelayEvent → List String
  | .mqttData topic payload =>
      match deliveredId parse identity topic payload with
      | some commandId => if commandId ∈ delivered then delivered else delivered ++ [commandId]
      | none => delivered
  | _ => delivered

theorem mem_deliveredAfter {delivered : List String} {commandId : String} (event : RelayEvent)
    (hmem : commandId ∈ delivered) : commandId ∈ deliveredAfter parse identity delivered event := by
  unfold deliveredAfter
  split
  · split
    · split
      · exact hmem
      · exact List.mem_append_left _ hmem
    · exact hmem
  · exact hmem

theorem relayStep_delivered (tasks : RelayTasks) (event : RelayEvent) :
    (relayStep parse identity tasks event).delivered =
      deliveredAfter parse identity tasks.delivered event := by
  cases event with
  | mqttData topic payload =>
      simp only [relayStep, RelayTasks.noteDelivery, deliveredAfter]
      cases deliveredId parse identity topic payload with
      | none => exact commandReceived_delivered _ _ _
      | some commandId =>
          simp only [commandReceived_delivered]
          split
          · exact commandReceived_delivered _ _ _
          · rfl
  | wifiDisconnected => rfl
  | gotIp => rfl
  | mqttConnected => rfl
  | mqttDisconnected => rfl
  | stable => rfl
  | receive => simp only [relayStep]; split <;> rfl
  | check clock =>
      simp only [relayStep]
      split
      · split <;> rfl
      · rfl
  | unlock =>
      simp only [relayStep]
      split
      · split
        · rfl
        · split <;> rfl
      · rfl
  | apply => simp only [relayStep]; split <;> rfl
  | answer accepted => simp only [relayStep]; split <;> rfl
  | expire =>
      simp only [relayStep]
      split
      · split <;> rfl
      · rfl
  | callback => simp only [relayStep]; split <;> rfl
  | tick => simp only [relayStep]; split <;> rfl

/-- A redelivery: an id that was delivered before arrives on the command topic. -/
def IsCopy (parse : List UInt8 → Option CJson) (identity : GatewayIdentity)
    (delivered : List String) : RelayEvent → Prop
  | .mqttData topic payload =>
      ∃ commandId ∈ delivered, deliveredId parse identity topic payload = some commandId
  | _ => False

theorem firstDeliveries_copy {delivered : List String} {event : RelayEvent}
    (hcopy : IsCopy parse identity delivered event) (events : List RelayEvent) :
    firstDeliveries parse identity delivered (event :: events) =
      firstDeliveries parse identity delivered events := by
  cases event with
  | mqttData topic payload =>
      obtain ⟨commandId, hmem, hid⟩ := hcopy
      simp only [firstDeliveries, hid, if_pos hmem]
  | _ => exact hcopy.elim

theorem firstDeliveries_first {delivered : List String} {event : RelayEvent}
    (hfirst : ¬ IsCopy parse identity delivered event) (events : List RelayEvent) :
    firstDeliveries parse identity delivered (event :: events) =
      event :: firstDeliveries parse identity (deliveredAfter parse identity delivered event)
        events := by
  cases event with
  | mqttData topic payload =>
      simp only [firstDeliveries, deliveredAfter]
      cases hid : deliveredId parse identity topic payload with
      | none => rfl
      | some commandId =>
          have hnew : commandId ∉ delivered := fun hmem => hfirst ⟨commandId, hmem, hid⟩
          simp only [if_neg hnew]
  | _ => rfl

theorem acceptsFirstOnly_of_first {event : RelayEvent}
    (hfirst : ¬ IsCopy parse identity tasks.delivered event) :
    AcceptsFirstOnly parse identity tasks event := by
  cases event with
  | mqttData topic payload =>
      intro commandId hid hmem
      exact absurd ⟨commandId, hmem, hid⟩ hfirst
  | _ => trivial

/-- While no copy is accepted, the copies make no difference to the state. -/
theorem exec_firstDeliveries {events : List RelayEvent}
    (haccepts : StepsMeet (relayStep parse identity) (AcceptsFirstOnly parse identity) tasks events) :
    exec (relayStep parse identity) tasks (firstDeliveries parse identity tasks.delivered events) =
      exec (relayStep parse identity) tasks events := by
  induction events generalizing tasks with
  | nil => rfl
  | cons event events ih =>
      obtain ⟨hmeets, hrest⟩ := haccepts
      by_cases hcopy : IsCopy parse identity tasks.delivered event
      · rw [firstDeliveries_copy hcopy, exec_cons]
        cases event with
        | mqttData topic payload =>
            obtain ⟨commandId, hmem, hid⟩ := hcopy
            have hsame := relayStep_copy hid hmem (hmeets commandId hid hmem)
            rw [hsame] at hrest ⊢
            exact ih hrest
        | _ => exact hcopy.elim
      · rw [firstDeliveries_first hcopy, exec_cons, exec_cons, ← relayStep_delivered]
        exact ih hrest

/-! ### The ids the gateway has dealt with or holds -/

def CommandPoint.heldIds (parse : List UInt8 → Option CJson) : CommandPoint → List (Option String)
  | .checking payload => [payloadId parse payload]
  | .unlocking command => [some command.commandId]
  | .applying _ change => [some change.commandId]
  | _ => []

/-- The ids of the commands applied, in the hands of `command_task`, and in the queue. -/
def RelayTasks.ids (parse : List UInt8 → Option CJson) (tasks : RelayTasks) : List (Option String) :=
  tasks.changes.map (some ·.commandId) ++ tasks.command.heldIds parse ++
    tasks.commandQueue.map (payloadId parse)

/-- What an event adds to them. -/
def RelayTasks.newIds (parse : List UInt8 → Option CJson) (identity : GatewayIdentity)
    (tasks : RelayTasks) : RelayEvent → List (Option String)
  | .mqttData topic payload =>
      if tasks.accepts identity topic payload then [payloadId parse payload] else []
  | _ => []

theorem count_newIds_of_first {event : RelayEvent} {commandId : String}
    (hfirst : ¬ IsCopy parse identity tasks.delivered event) (hmem : commandId ∈ tasks.delivered) :
    (tasks.newIds parse identity event).count (some commandId) = 0 := by
  cases event with
  | mqttData topic payload =>
      unfold RelayTasks.newIds
      dsimp only
      split
      · rename_i haccepts
        rw [List.count_eq_zero, List.mem_singleton]
        intro hid
        refine hfirst ⟨commandId, hmem, ?_⟩
        unfold RelayTasks.accepts at haccepts
        rw [Bool.and_eq_true] at haccepts
        unfold deliveredId
        rw [if_pos haccepts.1, hid]
      · rfl
  | _ => rfl

/-- The relay is unlocked, and every command held passes its checks. -/
structure Unobstructed (parse : List UInt8 → Option CJson) (identity : GatewayIdentity)
    (clocks : List (Option String)) (tasks : RelayTasks) : Prop where
  unlocked : tasks.relayLocked = false
  queued : ∀ payload ∈ tasks.commandQueue, PassesChecks parse identity clocks payload
  checking : ∀ payload, tasks.command = .checking payload →
    PassesChecks parse identity clocks payload
  unlocking : ∀ command, tasks.command = .unlocking command →
    ∃ change, checkParameters command = .ok change

variable {clocks : List (Option String)}

theorem Unobstructed.of_same {tasks' : RelayTasks} (h : Unobstructed parse identity clocks tasks)
    (hlocked : tasks'.relayLocked = tasks.relayLocked)
    (hqueue : tasks'.commandQueue = tasks.commandQueue) (hcommand : tasks'.command = tasks.command) :
    Unobstructed parse identity clocks tasks' := by
  constructor
  · rw [hlocked]
    exact h.unlocked
  · rw [hqueue]
    exact h.queued
  · rw [hcommand]
    exact h.checking
  · rw [hcommand]
    exact h.unlocking

theorem ids_of_same {tasks' : RelayTasks} (happlied : tasks'.applied = tasks.applied)
    (hqueue : tasks'.commandQueue = tasks.commandQueue) (hcommand : tasks'.command = tasks.command) :
    tasks'.ids parse = tasks.ids parse ++ [] := by
  unfold RelayTasks.ids RelayTasks.changes
  rw [happlied, hqueue, hcommand, List.append_nil]

@[simp]
theorem noteDelivery_relayLocked (tasks : RelayTasks) (topic : String) (payload : List UInt8) :
    (tasks.noteDelivery parse identity topic payload).relayLocked = tasks.relayLocked := by
  unfold RelayTasks.noteDelivery
  split
  · split <;> rfl
  · rfl

@[simp]
theorem noteDelivery_commandQueue (tasks : RelayTasks) (topic : String) (payload : List UInt8) :
    (tasks.noteDelivery parse identity topic payload).commandQueue = tasks.commandQueue := by
  unfold RelayTasks.noteDelivery
  split
  · split <;> rfl
  · rfl

@[simp]
theorem noteDelivery_command (tasks : RelayTasks) (topic : String) (payload : List UInt8) :
    (tasks.noteDelivery parse identity topic payload).command = tasks.command := by
  unfold RelayTasks.noteDelivery
  split
  · split <;> rfl
  · rfl

@[simp]
theorem noteDelivery_applied (tasks : RelayTasks) (topic : String) (payload : List UInt8) :
    (tasks.noteDelivery parse identity topic payload).applied = tasks.applied := by
  unfold RelayTasks.noteDelivery
  split
  · split <;> rfl
  · rfl

/-- A command held is neither lost nor dealt with twice: its id passes from the queue to the task and
from there to the changes. -/
theorem unobstructed_step (event : RelayEvent) (h : Unobstructed parse identity clocks tasks)
    (hdelivers : DeliversCommands parse identity clocks event) :
    Unobstructed parse identity clocks (relayStep parse identity tasks event) ∧
      (relayStep parse identity tasks event).ids parse =
        tasks.ids parse ++ tasks.newIds parse identity event := by
  have hidle : Unobstructed parse identity clocks tasks ∧ tasks.ids parse = tasks.ids parse ++ [] :=
    ⟨h, ids_of_same rfl rfl rfl⟩
  cases event with
  | wifiDisconnected => exact ⟨h.of_same rfl rfl rfl, ids_of_same rfl rfl rfl⟩
  | gotIp => exact ⟨h.of_same rfl rfl rfl, ids_of_same rfl rfl rfl⟩
  | mqttConnected => exact ⟨h.of_same rfl rfl rfl, ids_of_same rfl rfl rfl⟩
  | mqttDisconnected => exact ⟨h.of_same rfl rfl rfl, ids_of_same rfl rfl rfl⟩
  | mqttData topic payload =>
      simp only [relayStep, RelayTasks.newIds, RelayTasks.commandReceived]
      by_cases haccepts : tasks.accepts identity topic payload = true
      · rw [if_pos haccepts, if_pos haccepts]
        have hcommand : isCommand identity topic payload = true := by
          unfold RelayTasks.accepts at haccepts
          rw [Bool.and_eq_true] at haccepts
          exact haccepts.1
        constructor
        · constructor
          · rw [noteDelivery_relayLocked]
            exact h.unlocked
          · intro queued hmem
            rw [noteDelivery_commandQueue, List.mem_append, List.mem_singleton] at hmem
            rcases hmem with hmem | rfl
            · exact h.queued queued hmem
            · exact hdelivers hcommand
          · rw [noteDelivery_command]
            exact h.checking
          · rw [noteDelivery_command]
            exact h.unlocking
        · unfold RelayTasks.ids RelayTasks.changes
          rw [noteDelivery_applied, noteDelivery_command, noteDelivery_commandQueue, List.map_append]
          simp
      · rw [if_neg haccepts, if_neg haccepts]
        exact ⟨h.of_same (by simp) (by simp) (by simp), ids_of_same (by simp) (by simp) (by simp)⟩
  | receive =>
      simp only [relayStep, RelayTasks.newIds]
      split
      · rename_i payload rest hpoint hqueue
        constructor
        · constructor
          · exact h.unlocked
          · intro queued hmem
            exact h.queued queued (by rw [hqueue]; exact List.mem_cons_of_mem _ hmem)
          · intro payload' hpoint'
            obtain rfl := CommandPoint.checking.inj hpoint'
            exact h.queued payload (by rw [hqueue]; exact List.mem_cons_self)
          · intro _ h
            cases h
        · simp [RelayTasks.ids, RelayTasks.changes, CommandPoint.heldIds, hpoint, hqueue]
      · exact hidle
  | check clock =>
      simp only [relayStep, RelayTasks.newIds]
      split
      · rename_i payload hpoint
        obtain ⟨command, change, hchecked, hchange⟩ := h.checking payload hpoint clock hdelivers
        have hid := payloadId_of_item (checkCommand_ok hchecked).2.2
        rw [hchecked]
        constructor
        · refine ⟨h.unlocked, h.queued, (fun _ h => by cases h), ?_⟩
          intro command' hpoint'
          obtain rfl := CommandPoint.unlocking.inj hpoint'
          exact ⟨change, hchange⟩
        · simp [RelayTasks.ids, RelayTasks.changes, CommandPoint.heldIds, hpoint, hid]
      · exact hidle
  | unlock =>
      simp only [relayStep, RelayTasks.newIds]
      split
      · rename_i command hpoint
        obtain ⟨change, hchange⟩ := h.unlocking command hpoint
        rw [if_neg (Bool.eq_false_iff.mp h.unlocked), hchange]
        constructor
        · exact ⟨h.unlocked, h.queued, (fun _ h => by cases h), fun _ h => by cases h⟩
        · simp [RelayTasks.ids, RelayTasks.changes, CommandPoint.heldIds, hpoint,
            checkParameters_commandId hchange]
      · exact hidle
  | apply =>
      simp only [relayStep, RelayTasks.newIds]
      split
      · rename_i command change hpoint
        constructor
        · exact ⟨h.unlocked, h.queued, (fun _ h => by cases h), fun _ h => by cases h⟩
        · simp [RelayTasks.ids, RelayTasks.changes, CommandPoint.heldIds, hpoint,
            RelayTasks.applyChange, RelayTasks.relaySet]
      · exact hidle
  | answer accepted =>
      simp only [relayStep, RelayTasks.newIds]
      split
      · rename_i hpoint
        constructor
        · exact ⟨h.unlocked, h.queued, (fun _ h => by cases h), fun _ h => by cases h⟩
        · simp [RelayTasks.ids, RelayTasks.changes, CommandPoint.heldIds, hpoint]
      · exact hidle
  | expire =>
      simp only [relayStep, RelayTasks.newIds]
      split
      · split
        · exact ⟨h.of_same rfl rfl rfl, ids_of_same rfl rfl rfl⟩
        · exact hidle
      · exact hidle
  | callback =>
      simp only [relayStep, RelayTasks.newIds]
      split
      · exact ⟨h.of_same rfl rfl rfl, ids_of_same rfl rfl rfl⟩
      · exact hidle
  | tick =>
      simp only [relayStep, RelayTasks.newIds]
      split
      · exact hidle
      · exact ⟨h.of_same rfl rfl rfl, ids_of_same rfl rfl rfl⟩
  | stable =>
      exact ⟨⟨rfl, h.queued, h.checking, h.unlocking⟩, ids_of_same rfl rfl rfl⟩

/-- The ids only grow, by what the run's events add. -/
theorem count_ids_exec {events : List RelayEvent} (h : Unobstructed parse identity clocks tasks)
    (hdelivers : ∀ event ∈ events, DeliversCommands parse identity clocks event)
    (commandId : String) :
    (tasks.ids parse).count (some commandId) ≤
      ((exec (relayStep parse identity) tasks events).ids parse).count (some commandId) := by
  induction events generalizing tasks with
  | nil => exact le_refl _
  | cons event events ih =>
      obtain ⟨hnext, hids⟩ := unobstructed_step event h (hdelivers event List.mem_cons_self)
      have hrest := ih hnext fun later hmem => hdelivers later (List.mem_cons_of_mem _ hmem)
      rw [hids, List.count_append] at hrest
      exact (Nat.le_add_right _ _).trans hrest

/-- An id that is not delivered any more is not dealt with again. -/
theorem count_ids_exec_firstDeliveries {events : List RelayEvent}
    (h : Unobstructed parse identity clocks tasks)
    (hdelivers : ∀ event ∈ events, DeliversCommands parse identity clocks event)
    {commandId : String} (hmem : commandId ∈ tasks.delivered) :
    ((exec (relayStep parse identity) tasks
        (firstDeliveries parse identity tasks.delivered events)).ids parse).count (some commandId) =
      (tasks.ids parse).count (some commandId) := by
  induction events generalizing tasks with
  | nil => rfl
  | cons event events ih =>
      have hlater : ∀ later ∈ events, DeliversCommands parse identity clocks later :=
        fun later hmem => hdelivers later (List.mem_cons_of_mem _ hmem)
      by_cases hcopy : IsCopy parse identity tasks.delivered event
      · rw [firstDeliveries_copy hcopy]
        exact ih h hlater hmem
      · obtain ⟨hnext, hids⟩ := unobstructed_step event h (hdelivers event List.mem_cons_self)
        have hkept : commandId ∈ (relayStep parse identity tasks event).delivered := by
          rw [relayStep_delivered]
          exact mem_deliveredAfter event hmem
        rw [firstDeliveries_first hcopy, exec_cons, ← relayStep_delivered, ih hnext hlater hkept, hids,
          List.count_append, count_newIds_of_first hcopy hmem, Nat.add_zero]

/-! ### The two runs -/

theorem ids_of_drained (h : Drained tasks) :
    tasks.ids parse = tasks.changes.map (some ·.commandId) := by
  unfold RelayTasks.ids
  rw [h.1, h.2]
  simp [CommandPoint.heldIds]

/-- Two drained runs with the same changes had no copy accepted: the first accepted copy would put its
id into one run once more than into the other. -/
theorem acceptsFirstOnly_of_changes_eq {events : List RelayEvent}
    (h : Unobstructed parse identity clocks tasks)
    (hdelivers : ∀ event ∈ events, DeliversCommands parse identity clocks event)
    (hall : Drained (exec (relayStep parse identity) tasks events))
    (honce : Drained (exec (relayStep parse identity) tasks
      (firstDeliveries parse identity tasks.delivered events)))
    (hchanges : (exec (relayStep parse identity) tasks events).changes =
      (exec (relayStep parse identity) tasks
        (firstDeliveries parse identity tasks.delivered events)).changes) :
    StepsMeet (relayStep parse identity) (AcceptsFirstOnly parse identity) tasks events := by
  induction events generalizing tasks with
  | nil => trivial
  | cons event events ih =>
      have hevent := hdelivers event List.mem_cons_self
      have hlater : ∀ later ∈ events, DeliversCommands parse identity clocks later :=
        fun later hmem => hdelivers later (List.mem_cons_of_mem _ hmem)
      obtain ⟨hnext, hids⟩ := unobstructed_step event h hevent
      by_cases hcopy : IsCopy parse identity tasks.delivered event
      · rw [firstDeliveries_copy hcopy] at honce hchanges
        cases event with
        | mqttData topic payload =>
            obtain ⟨commandId, hmem, hid⟩ := hcopy
            have hrefused : tasks.accepts identity topic payload = false := by
              by_contra haccepts
              rw [Bool.not_eq_false] at haccepts
              have hpayload : payloadId parse payload = some commandId := by
                unfold deliveredId at hid
                split at hid
                · exact hid
                · cases hid
              have hmore := count_ids_exec hnext hlater commandId
              have hsame := count_ids_exec_firstDeliveries h hlater hmem
              rw [exec_cons] at hall hchanges
              rw [ids_of_drained hall, hchanges, ← ids_of_drained honce, hsame, hids,
                List.count_append] at hmore
              unfold RelayTasks.newIds at hmore
              dsimp only at hmore
              rw [if_pos haccepts, hpayload, List.count_singleton_self] at hmore
              omega
            have hsame := relayStep_copy hid hmem hrefused
            rw [exec_cons, hsame] at hall hchanges
            refine ⟨fun _ _ _ => hrefused, ?_⟩
            rw [hsame]
            exact ih h hlater hall honce hchanges
        | _ => exact hcopy.elim
      · rw [firstDeliveries_first hcopy, exec_cons, ← relayStep_delivered] at honce hchanges
        exact ⟨acceptsFirstOnly_of_first hcopy, ih hnext hlater hall honce hchanges⟩

/-! ### A run on one command -/

/-- One delivery of an ON, dealt with. -/
def sampleRun : List RelayEvent :=
  [.mqttData sampleIdentity.commandTopic samplePayload, .receive, .check (some sampleNow), .unlock,
    .apply, .answer true]

theorem sampleRun_delivers : ∀ event ∈ sampleRun,
    DeliversCommands sampleParse sampleIdentity [some sampleNow] event := by
  have hpasses : PassesChecks sampleParse sampleIdentity [some sampleNow] samplePayload := by
    intro clock hclock
    rw [List.mem_singleton.mp hclock, parse_sample]
    exact ⟨_, _, checkCommand_sample, checkParameters_sample⟩
  intro event hmem
  simp only [sampleRun, List.mem_cons, List.not_mem_nil, or_false] at hmem
  rcases hmem with rfl | rfl | rfl | rfl | rfl | rfl
  · exact fun _ => hpasses
  · trivial
  · exact List.mem_singleton_self _
  · trivial
  · trivial
  · trivial

theorem exec_sampleRun (tasks : RelayTasks) (hidle : Drained tasks)
    (hunlocked : tasks.relayLocked = false) :
    Drained (exec (relayStep sampleParse sampleIdentity) tasks sampleRun) ∧
      (exec (relayStep sampleParse sampleIdentity) tasks sampleRun).relayLocked = false ∧
      (exec (relayStep sampleParse sampleIdentity) tasks sampleRun).changes =
        tasks.changes ++ [⟨sampleCommandId, true, 30⟩] := by
  obtain ⟨hqueue, hcommand⟩ := hidle
  by_cases hmem : sampleCommandId ∈ tasks.delivered
  · simp [Drained, sampleRun, relayStep, RelayTasks.commandReceived, RelayTasks.accepts,
      RelayTasks.noteDelivery, RelayTasks.relaySet, RelayTasks.applyChange, RelayTasks.changes,
      isCommand_sample, deliveredId_sample, parse_sample, checkCommand_sample, checkParameters_sample,
      commandQueueLength, hqueue, hcommand, hunlocked, hmem]
  · simp [Drained, sampleRun, relayStep, RelayTasks.commandReceived, RelayTasks.accepts,
      RelayTasks.noteDelivery, RelayTasks.relaySet, RelayTasks.applyChange, RelayTasks.changes,
      isCommand_sample, deliveredId_sample, parse_sample, checkCommand_sample, checkParameters_sample,
      commandQueueLength, hqueue, hcommand, hunlocked, hmem]

/-- Without its delivery, the rest of the run does nothing. -/
theorem exec_sampleRun_tail {tasks : RelayTasks} (hidle : Drained tasks) :
    exec (relayStep sampleParse sampleIdentity) tasks sampleRun.tail = tasks := by
  obtain ⟨hqueue, hcommand⟩ := hidle
  simp [sampleRun, relayStep, hqueue, hcommand]

/-! ### A copy that finds the queue full -/

/-- The id of the sample command with another last digit. -/
def queuedId (digit : Char) : String := "c0ffee00-0000-4000-8000-00000000000".push digit

/-- The sample command with that id, whose last digit is the byte at 69. -/
def queuedPayload (digit : Char) : List UInt8 := samplePayload.set 69 digit.toUInt8

def queuedRoot (digit : Char) : CJson :=
  .object [
    ("schema_version", .number (.ofInt 1)),
    ("command_id", .string (queuedId digit)),
    ("site_id", .string "workshop-demo"),
    ("device_id", .string "motor-01"),
    ("expires_at", .string "2027-01-01T00:00:10Z"),
    ("kind", .string "set_demo_relay"),
    ("parameters", .object [("relay_on", .bool true), ("timeout_s", .number (.ofInt 30))])]

def queuedDigits : List Char := ['1', '2', '3', '4']

def queuedParse (bytes : List UInt8) : Option CJson :=
  (queuedDigits.find? fun digit => queuedPayload digit = bytes).map queuedRoot

/-- Four commands fill the queue, the first is delivered again, and then all are dealt with. -/
def queuedRun : List RelayEvent :=
  queuedDigits.map (fun digit => .mqttData sampleIdentity.commandTopic (queuedPayload digit)) ++
    .mqttData sampleIdentity.commandTopic (queuedPayload '1') ::
      queuedDigits.flatMap fun _ => sampleRun.tail

theorem queuedId_inj {digit other : Char} : queuedId digit = queuedId other ↔ digit = other := by
  unfold queuedId
  rw [String.push_inj, and_iff_right rfl]

theorem isCommand_queued (digit : Char) :
    isCommand sampleIdentity sampleIdentity.commandTopic (queuedPayload digit) = true := by
  unfold isCommand queuedPayload
  simp [length_samplePayload, commandPayloadMax]

theorem queuedPayload_inj {digit other : Char} :
    queuedPayload digit = queuedPayload other ↔ digit.toUInt8 = other.toUInt8 := by
  constructor
  · intro h
    have hbyte := congrArg (·[69]?) h
    simpa [queuedPayload, List.getElem?_set_self, length_samplePayload] using hbyte
  · intro h
    rw [queuedPayload, h, queuedPayload]

theorem parse_queued {digit : Char} (h : digit ∈ queuedDigits) :
    queuedParse (queuedPayload digit) = some (queuedRoot digit) := by
  unfold queuedParse
  simp only [queuedPayload_inj]
  simp only [queuedDigits, List.mem_cons, List.not_mem_nil, or_false] at h
  rcases h with rfl | rfl | rfl | rfl
  · rfl
  · rfl
  · rfl
  · rfl

theorem deliveredId_queued {digit : Char} (h : digit ∈ queuedDigits) :
    deliveredId queuedParse sampleIdentity sampleIdentity.commandTopic (queuedPayload digit) =
      some (queuedId digit) :=
  deliveredId_of_item (isCommand_queued digit) (by rw [parse_queued h]; rfl)

theorem checkCommand_queued {digit : Char} (h : digit ∈ queuedDigits) :
    checkCommand sampleIdentity (some sampleNow) (some (queuedRoot digit)) =
      .ok ⟨queuedRoot digit, queuedId digit, sampleNow⟩ := by
  simp only [queuedDigits, List.mem_cons, List.not_mem_nil, or_false] at h
  rcases h with rfl | rfl | rfl | rfl
  · rfl
  · rfl
  · rfl
  · rfl

theorem checkParameters_queued (digit : Char) :
    checkParameters ⟨queuedRoot digit, queuedId digit, sampleNow⟩ =
      .ok ⟨queuedId digit, true, 30⟩ :=
  rfl

theorem queuedRun_delivers : ∀ event ∈ queuedRun,
    DeliversCommands queuedParse sampleIdentity [some sampleNow] event := by
  have hpasses : ∀ digit ∈ queuedDigits,
      PassesChecks queuedParse sampleIdentity [some sampleNow] (queuedPayload digit) := by
    intro digit hdigit clock hclock
    rw [List.mem_singleton.mp hclock, parse_queued hdigit]
    exact ⟨_, _, checkCommand_queued hdigit, checkParameters_queued digit⟩
  intro event hmem
  simp only [queuedRun, List.mem_append, List.mem_cons, List.mem_map, List.mem_flatMap] at hmem
  rcases hmem with ⟨digit, hdigit, rfl⟩ | rfl | ⟨_, -, hrest⟩
  · exact fun _ => hpasses digit hdigit
  · exact fun _ => hpasses '1' (by decide)
  · simp only [sampleRun, List.tail_cons, List.mem_cons, List.not_mem_nil, or_false] at hrest
    rcases hrest with rfl | rfl | rfl | rfl | rfl
    · trivial
    · exact List.mem_singleton_self _
    · trivial
    · trivial
    · trivial

/-- The copy leaves no trace, and all four commands are dealt with. -/
theorem exec_queuedRun :
    exec (relayStep queuedParse sampleIdentity) (.boot ⟨0, 0⟩ true)
        (firstDeliveries queuedParse sampleIdentity [] queuedRun) =
      exec (relayStep queuedParse sampleIdentity) (.boot ⟨0, 0⟩ true) queuedRun ∧
    Drained (exec (relayStep queuedParse sampleIdentity) (.boot ⟨0, 0⟩ true) queuedRun) := by
  have hids := @deliveredId_queued
  have hroots := @parse_queued
  have hchecks := @checkCommand_queued
  simp only [queuedDigits, List.forall_mem_cons] at hids hroots hchecks
  simp [queuedRun, queuedDigits, sampleRun, firstDeliveries, Drained, relayStep, RelayTasks.boot,
    RelayTasks.commandReceived, RelayTasks.accepts, RelayTasks.noteDelivery, RelayTasks.relaySet,
    RelayTasks.applyChange, isCommand_queued, hids, hroots, hchecks, checkParameters_queued,
    queuedId_inj, commandQueueLength, initializeRebootGuard]

/-- The copy is left out of the first deliveries. -/
theorem length_firstDeliveries_queued :
    (firstDeliveries queuedParse sampleIdentity [] queuedRun).length < queuedRun.length := by
  have hids := @deliveredId_queued
  simp only [queuedDigits, List.forall_mem_cons] at hids
  simp [queuedRun, queuedDigits, sampleRun, firstDeliveries, hids, queuedId_inj]

/-! ### The comparison -/

/-- **At most once.** The relay changes of a run are those of its first deliveries when no redelivered
copy enters `command_queue`. For relay commands that pass their checks, on an unlocked relay, and with
every accepted command dealt with, only then. -/
theorem relay_changes_once_iff (parse : List UInt8 → Option CJson) (identity : GatewayIdentity)
    (guard : RebootGuard) (powerOn : Bool) (events : List RelayEvent) :
    (StepsMeet (relayStep parse identity) (AcceptsFirstOnly parse identity) (.boot guard powerOn)
        events →
      (exec (relayStep parse identity) (.boot guard powerOn) events).changes =
        (exec (relayStep parse identity) (.boot guard powerOn)
          (firstDeliveries parse identity [] events)).changes) ∧
    ∀ clocks : List (Option String), (RelayTasks.boot guard powerOn).relayLocked = false →
      (∀ event ∈ events, DeliversCommands parse identity clocks event) →
      Drained (exec (relayStep parse identity) (.boot guard powerOn) events) →
      Drained (exec (relayStep parse identity) (.boot guard powerOn)
        (firstDeliveries parse identity [] events)) →
      (exec (relayStep parse identity) (.boot guard powerOn) events).changes =
        (exec (relayStep parse identity) (.boot guard powerOn)
          (firstDeliveries parse identity [] events)).changes →
      StepsMeet (relayStep parse identity) (AcceptsFirstOnly parse identity) (.boot guard powerOn)
        events := by
  constructor
  · intro haccepts
    exact congrArg RelayTasks.changes (exec_firstDeliveries haccepts).symm
  · intro clocks hunlocked hdelivers hall honce hchanges
    have hboot : Unobstructed parse identity clocks (.boot guard powerOn) :=
      ⟨hunlocked, (fun _ h => by cases h), (fun _ h => by cases h), fun _ h => by cases h⟩
    exact acceptsFirstOnly_of_changes_eq hboot hdelivers hall honce hchanges

theorem relay_changes_once_iff_full :
    (firstDeliveries queuedParse sampleIdentity [] queuedRun).length < queuedRun.length ∧
    StepsMeet (relayStep queuedParse sampleIdentity) (AcceptsFirstOnly queuedParse sampleIdentity)
      (.boot ⟨0, 0⟩ true) queuedRun := by
  obtain ⟨hsame, hdrained⟩ := exec_queuedRun
  refine ⟨length_firstDeliveries_queued, ?_⟩
  apply (relay_changes_once_iff queuedParse sampleIdentity ⟨0, 0⟩ true queuedRun).2 [some sampleNow]
  · rfl
  · exact queuedRun_delivers
  · exact hdrained
  · rw [hsame]
    exact hdrained
  · rw [hsame]

/-- The same ON is delivered twice, and applied twice. -/
theorem relay_changes_twice :
    ¬ ∀ (parse : List UInt8 → Option CJson) (identity : GatewayIdentity) (guard : RebootGuard)
        (powerOn : Bool) (clocks : List (Option String)) (events : List RelayEvent),
        (RelayTasks.boot guard powerOn).relayLocked = false →
        (∀ event ∈ events, DeliversCommands parse identity clocks event) →
        Drained (exec (relayStep parse identity) (.boot guard powerOn) events) →
        Drained (exec (relayStep parse identity) (.boot guard powerOn)
          (firstDeliveries parse identity [] events)) →
        (exec (relayStep parse identity) (.boot guard powerOn) events).changes =
          (exec (relayStep parse identity) (.boot guard powerOn)
            (firstDeliveries parse identity [] events)).changes := by
  intro hall
  obtain ⟨hdrained, hunlocked, hchanges⟩ := exec_sampleRun (.boot ⟨0, 0⟩ true) ⟨rfl, rfl⟩ rfl
  obtain ⟨hdrained', -, hchanges'⟩ := exec_sampleRun _ hdrained hunlocked
  have hfirst : firstDeliveries sampleParse sampleIdentity [] (sampleRun ++ sampleRun) =
      sampleRun ++ sampleRun.tail := by
    simp [sampleRun, firstDeliveries, deliveredId_sample]
  have hequal := hall sampleParse sampleIdentity ⟨0, 0⟩ true [some sampleNow] (sampleRun ++ sampleRun)
    rfl
    (fun event hmem => (List.mem_append.mp hmem).elim (sampleRun_delivers event)
      (sampleRun_delivers event))
    (by rw [exec_append]; exact hdrained')
    (by rw [hfirst, exec_append, exec_sampleRun_tail hdrained]; exact hdrained)
  rw [hfirst, exec_append, exec_append, exec_sampleRun_tail hdrained, hchanges', hchanges] at hequal
  simp at hequal

end IiotMonitoring
