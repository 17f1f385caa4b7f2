import IiotMonitoring.Firmware.RelayTasks
import Mathlib.Tactic.SplitIfs

/-!
# The relay goes off

The checks of `command_task` are summed up once each, by what a command that passes them is. The
invariant then follows the command from one point of the task to the next, and the deadline of an ON
from the timer to its callback.
-/

namespace IiotMonitoring

variable {parse : List UInt8 → Option CJson} {identity : GatewayIdentity} {tasks : RelayTasks}

/-! ### What the checks establish -/

theorem eq_string_of_isString {item : Option CJson} (h : CJson.isString item = true) :
    item = some (.string (CJson.valuestring item)) := by
  unfold CJson.isString at h
  split at h
  · rfl
  · cases h

theorem eq_number_of_isNumber {item : Option CJson} (h : CJson.isNumber item = true) :
    item = some (.number (CJson.valuedouble item)) := by
  unfold CJson.isNumber at h
  split at h
  · rfl
  · cases h

theorem eq_object_of_isObject {item : Option CJson} (h : CJson.isObject item = true) :
    ∃ members, item = some (.object members) := by
  unfold CJson.isObject at h
  split at h
  · exact ⟨_, rfl⟩
  · cases h

theorem eq_bool_of_isBool {item : Option CJson} (h : CJson.isBool item = true) :
    item = some (.bool (CJson.isTrue item)) := by
  unfold CJson.isBool at h
  split at h
  · rfl
  · cases h

theorem checkCommand_ok {clock : Option String} {root : Option CJson} {command : CheckedCommand}
    (h : checkCommand identity clock root = .ok command) :
    root = some command.root ∧ Addressed identity command ∧
      CJson.getObjectItem root "command_id" = some (.string command.commandId) := by
  unfold checkCommand at h
  cases root with
  | none => cases h
  | some object =>
      cases clock with
      | none =>
          dsimp only at h
          split_ifs at h
      | some now =>
          dsimp only at h
          split_ifs at h with hobject hid hidentity hexpiry hexpired hkind
          obtain rfl := Except.ok.inj h
          simp only [not_or, not_not] at hid hidentity hexpiry hkind
          refine ⟨rfl, ⟨?_, ?_, ?_, ?_⟩, eq_string_of_isString hid.2.2.1⟩
          · have hstring := eq_string_of_isString hkind.1
            rwa [hkind.2] at hstring
          · have hstring := eq_string_of_isString hidentity.1
            rwa [hidentity.2.2.1] at hstring
          · have hstring := eq_string_of_isString hidentity.2.1
            rwa [hidentity.2.2.2] at hstring
          · exact ⟨_, eq_string_of_isString hexpiry.1, Bool.eq_false_iff.mpr hexpired⟩

/-- The range check and the integrality check leave the whole seconds from 1 to 30. -/
theorem timeout_in_range {value : CDouble} (hlow : ¬ value.lt (.ofInt 1) = true)
    (hhigh : ¬ (CDouble.ofInt 30).lt value = true)
    (hinteger : value.eq (.ofInt value.toInt) = true) :
    value = .ofInt value.toInt.toNat ∧ 1 ≤ value.toInt.toNat ∧ value.toInt.toNat ≤ 30 := by
  cases value with
  | infinite negative =>
      cases hinteger
  | nan =>
      cases hinteger
  | finite value =>
      simp only [CDouble.lt, CDouble.ofInt, CDouble.eq, decide_eq_true_eq, not_lt] at hlow hhigh hinteger
      generalize (CDouble.finite value).toInt = seconds at hinteger
      subst hinteger
      have hone : 1 ≤ seconds := by exact_mod_cast hlow
      have hthirty : seconds ≤ 30 := by exact_mod_cast hhigh
      refine ⟨?_, by omega, by omega⟩
      unfold CDouble.ofInt
      rw [Int.toNat_of_nonneg (by omega)]

theorem checkParameters_commandId {command : CheckedCommand} {change : RelayChange}
    (h : checkParameters command = .ok change) : change.commandId = command.commandId := by
  unfold checkParameters at h
  dsimp only at h
  split_ifs at h
  obtain rfl := Except.ok.inj h
  rfl

theorem checkParameters_ok {command : CheckedCommand} {change : RelayChange}
    (haddressed : Addressed identity command) (h : checkParameters command = .ok change)
    (hon : change.relayOn = true) : SwitchesOn identity command change.timeoutS := by
  unfold checkParameters at h
  dsimp only at h
  split_ifs at h with hinvalid
  obtain rfl := Except.ok.inj h
  simp only [not_or, not_not] at hinvalid
  obtain ⟨hobject, -, hbool, hnumber, hlow, hhigh, hinteger⟩ := hinvalid
  obtain ⟨members, hmembers⟩ := eq_object_of_isObject hobject
  obtain ⟨hvalue, hone, hthirty⟩ := timeout_in_range hlow hhigh hinteger
  have hrelay := eq_bool_of_isBool hbool
  have htimeout := eq_number_of_isNumber hnumber
  dsimp only at hon
  rw [hon] at hrelay
  rw [hvalue] at htimeout
  rw [hmembers] at hrelay htimeout
  refine ⟨haddressed, ⟨members, hmembers, hrelay, ?_⟩, hone, hthirty⟩
  rw [hmembers]
  exact htimeout

theorem payloadId_of_item {payload : List UInt8} {commandId : String}
    (hitem : CJson.getObjectItem (parse payload) "command_id" = some (.string commandId)) :
    payloadId parse payload = some commandId := by
  unfold payloadId
  rw [hitem]

theorem deliveredId_of_item {topic : String} {payload : List UInt8} {commandId : String}
    (hcommand : isCommand identity topic payload = true)
    (hitem : CJson.getObjectItem (parse payload) "command_id" = some (.string commandId)) :
    deliveredId parse identity topic payload = some commandId := by
  unfold deliveredId
  rw [if_pos hcommand, payloadId_of_item hitem]

/-! ### The invariant -/

/-- The deadline of the command that was applied last, while the relay is on. -/
structure RelayTimed (identity : GatewayIdentity) (tasks : RelayTasks) : Prop where
  unlocking : ∀ command, tasks.command = .unlocking command → Addressed identity command
  applying : ∀ command change, tasks.command = .applying command change →
    Addressed identity command ∧ checkParameters command = .ok change ∧ tasks.relayLocked = false
  armed : ∀ deadline, tasks.deadline = some deadline → tasks.now ≤ deadline
  autoOff : AutoOff identity tasks

/-- Steps of `command_task` before it applies a command. -/
theorem RelayTimed.of_point {tasks' : RelayTasks} (h : RelayTimed identity tasks)
    (hunlocking : ∀ command, tasks'.command = .unlocking command → Addressed identity command)
    (happlying : ∀ command change, tasks'.command = .applying command change →
      Addressed identity command ∧ checkParameters command = .ok change ∧
        tasks'.relayLocked = false)
    (hrelay : tasks'.relayOn = tasks.relayOn) (happlied : tasks'.applied = tasks.applied)
    (hnow : tasks'.now = tasks.now) (hdeadline : tasks'.deadline = tasks.deadline)
    (hpending : tasks'.pending = tasks.pending) : RelayTimed identity tasks' := by
  constructor
  · exact hunlocking
  · exact happlying
  · rw [hdeadline, hnow]
    exact h.armed
  · unfold AutoOff
    rw [hrelay, happlied, hnow, hdeadline, hpending]
    exact h.autoOff

/-- Steps that force the relay off. -/
theorem RelayTimed.of_off {tasks' : RelayTasks} (h : RelayTimed identity tasks)
    (hoff : tasks'.relayOn = false) (hcommand : tasks'.command = tasks.command)
    (hlocked : tasks'.relayLocked = tasks.relayLocked) (hnow : tasks'.now = tasks.now)
    (hdeadline : tasks'.deadline = tasks.deadline) : RelayTimed identity tasks' := by
  constructor
  · rw [hcommand]
    exact h.unlocking
  · rw [hcommand, hlocked]
    exact h.applying
  · rw [hdeadline, hnow]
    exact h.armed
  · intro hon
    rw [hoff] at hon
    cases hon

/-- A delivery changes the queue and the record of ids only. -/
theorem relayStep_mqttData (parse : List UInt8 → Option CJson) (identity : GatewayIdentity)
    (tasks : RelayTasks) (topic : String) (payload : List UInt8) :
    ∃ queue delivered, relayStep parse identity tasks (.mqttData topic payload) =
      { tasks with commandQueue := queue, delivered := delivered } := by
  have hreceived : ∃ queue, tasks.commandReceived identity topic payload =
      { tasks with commandQueue := queue } := by
    unfold RelayTasks.commandReceived
    split
    · exact ⟨_, rfl⟩
    · exact ⟨_, rfl⟩
  obtain ⟨queue, hqueue⟩ := hreceived
  refine ⟨queue, ?_⟩
  simp only [relayStep, hqueue]
  unfold RelayTasks.noteDelivery
  split
  · split
    · exact ⟨_, rfl⟩
    · exact ⟨_, rfl⟩
  · exact ⟨_, rfl⟩

theorem point_ne_unlocking (refusal : CommandRefusal) (command : CheckedCommand) :
    refusal.point ≠ .unlocking command := by
  cases refusal <;> simp [CommandRefusal.point]

theorem point_ne_applying (refusal : CommandRefusal) (command : CheckedCommand)
    (change : RelayChange) : refusal.point ≠ .applying command change := by
  cases refusal <;> simp [CommandRefusal.point]

/-- An applied command is the last one, and an ON arms the timer. -/
theorem RelayTimed.applyChange (h : RelayTimed identity tasks) {command : CheckedCommand}
    {change : RelayChange} (hpoint : tasks.command = .applying command change) :
    RelayTimed identity (tasks.applyChange command change) := by
  obtain ⟨haddressed, hchecked, hlocked⟩ := h.applying command change hpoint
  constructor
  · intro _ h
    cases h
  · intro _ _ h
    cases h
  · intro deadline hdeadline
    unfold RelayTasks.applyChange at hdeadline
    dsimp only at hdeadline
    split at hdeadline
    · obtain rfl := Option.some.inj hdeadline
      exact Nat.le_add_right _ _
    · cases hdeadline
  · intro hon
    have hchange : change.relayOn = true := hon
    refine ⟨⟨command, change, tasks.relayLocked, tasks.now⟩, ?_, hchange, hlocked, ?_, ?_, ?_⟩
    · exact List.getLast?_concat
    · exact checkParameters_ok haddressed hchecked hchange
    · exact Nat.le_add_right _ _
    · left
      unfold RelayTasks.applyChange
      dsimp only
      rw [if_pos hchange]

theorem relayTimed_step (parse : List UInt8 → Option CJson) (event : RelayEvent) (h : RelayTimed identity tasks) :
    RelayTimed identity (relayStep parse identity tasks event) := by
  cases event with
  | wifiDisconnected => exact h.of_off rfl rfl rfl rfl rfl
  | mqttDisconnected => exact h.of_off rfl rfl rfl rfl rfl
  | gotIp => exact h.of_point h.unlocking h.applying rfl rfl rfl rfl rfl
  | mqttConnected => exact h.of_point h.unlocking h.applying rfl rfl rfl rfl rfl
  | mqttData topic payload =>
      obtain ⟨queue, delivered, hstep⟩ := relayStep_mqttData parse identity tasks topic payload
      rw [hstep]
      exact h.of_point h.unlocking h.applying rfl rfl rfl rfl rfl
  | receive =>
      simp only [relayStep]
      split
      · exact h.of_point (by simp) (by simp) rfl rfl rfl rfl rfl
      · exact h
  | check clock =>
      simp only [relayStep]
      split
      · split
        · rename_i refusal _
          refine h.of_point ?_ ?_ rfl rfl rfl rfl rfl
          · intro command hpoint
            exact absurd hpoint (point_ne_unlocking refusal command)
          · intro command change hpoint
            exact absurd hpoint (point_ne_applying refusal command change)
        · rename_i command hchecked
          refine h.of_point ?_ (by simp) rfl rfl rfl rfl rfl
          intro command' hpoint
          obtain rfl := CommandPoint.unlocking.inj hpoint
          exact (checkCommand_ok hchecked).2.1
      · exact h
  | unlock =>
      simp only [relayStep]
      split
      · rename_i command hpoint
        split
        · exact h.of_point (by simp) (by simp) rfl rfl rfl rfl rfl
        · rename_i hlocked
          split
          · rename_i refusal _
            refine h.of_point ?_ ?_ rfl rfl rfl rfl rfl
            · intro command' hpoint'
              exact absurd hpoint' (point_ne_unlocking refusal command')
            · intro command' change hpoint'
              exact absurd hpoint' (point_ne_applying refusal command' change)
          · rename_i change hchecked
            refine h.of_point (by simp) ?_ rfl rfl rfl rfl rfl
            intro command' change' hpoint'
            obtain ⟨rfl, rfl⟩ := CommandPoint.applying.inj hpoint'
            exact ⟨h.unlocking command hpoint, hchecked, Bool.eq_false_iff.mpr hlocked⟩
      · exact h
  | apply =>
      simp only [relayStep]
      split
      · rename_i command change hpoint
        exact h.applyChange hpoint
      · exact h
  | answer accepted =>
      simp only [relayStep]
      split
      · exact h.of_point (by simp) (by simp) rfl rfl rfl rfl rfl
      · exact h
  | expire =>
      simp only [relayStep]
      split
      · rename_i deadline hdeadline hpending
        split
        · rename_i hdue
          refine ⟨h.unlocking, h.applying, by simp, ?_⟩
          -- the deadline passes from the timer to the callback
          intro hon
          obtain ⟨last, hlast, hchange, hunlocked, hswitches, hnow, htimer⟩ := h.autoOff hon
          refine ⟨last, hlast, hchange, hunlocked, hswitches, hnow, .inr ?_⟩
          rw [hdeadline, hpending] at htimer
          rcases htimer with htimer | htimer
          · exact htimer
          · cases htimer
        · exact h
      · exact h
  | callback =>
      simp only [relayStep]
      split
      · exact h.of_off rfl rfl rfl rfl rfl
      · exact h
  | tick =>
      simp only [relayStep]
      split
      · exact h
      · rename_i hpasses
        rw [not_or, Option.not_isSome_iff_eq_none] at hpasses
        obtain ⟨hpending, hdeadline⟩ := hpasses
        have hlater : ∀ deadline, tasks.deadline = some deadline → tasks.now + 1 ≤ deadline := by
          intro deadline hsome
          have hle := h.armed deadline hsome
          have hne : tasks.now ≠ deadline := by
            intro heq
            rw [heq] at hdeadline
            exact hdeadline hsome
          omega
        refine ⟨h.unlocking, h.applying, hlater, ?_⟩
        intro hon
        obtain ⟨last, hlast, hchange, hunlocked, hswitches, -, htimer⟩ := h.autoOff hon
        rcases htimer with htimer | htimer
        · exact ⟨last, hlast, hchange, hunlocked, hswitches, hlater _ htimer, .inl htimer⟩
        · rw [hpending] at htimer
          cases htimer
  | stable =>
      refine h.of_point h.unlocking ?_ rfl rfl rfl rfl rfl
      intro command change hpoint
      obtain ⟨haddressed, hchecked, -⟩ := h.applying command change hpoint
      exact ⟨haddressed, hchecked, rfl⟩

theorem relayTimed_boot (identity : GatewayIdentity) (guard : RebootGuard) (powerOn : Bool) :
    RelayTimed identity (.boot guard powerOn) where
  unlocking _ := by
    intro h
    cases h
  applying _ _ := by
    intro h
    cases h
  armed _ := by
    intro h
    cases h
  autoOff := by
    intro h
    cases h

/-- **Auto-off.** In every state of every run, a relay that is on was switched on by the last command
applied, a valid ON for this gateway, and its timer or callback is due within the command's timeout. -/
theorem relay_auto_off (parse : List UInt8 → Option CJson) (identity : GatewayIdentity)
    (guard : RebootGuard) (powerOn : Bool) (events : List RelayEvent) :
    StatesMeet (relayStep parse identity) (AutoOff identity) (.boot guard powerOn) events := by
  have htimed := statesMeet_of_invariant (fun _ event h => relayTimed_step parse event h)
    (relayTimed_boot identity guard powerOn) events
  exact htimed.mono fun _ h => h.autoOff

/-! ### The relay and the link -/

/-- Only the application of an ON switches the relay on, and only a disconnect clears the bit. -/
theorem offWithoutLink_step_iff (event : RelayEvent) (h : OffWithoutLink tasks) :
    SwitchesOnLinked tasks event ↔ OffWithoutLink (relayStep parse identity tasks event) := by
  cases event with
  | apply =>
      unfold SwitchesOnLinked OffWithoutLink
      by_cases hpoint : ∃ command change, tasks.command = .applying command change
      · obtain ⟨command, change, hpoint⟩ := hpoint
        simp only [relayStep, hpoint]
        show (change.relayOn = true → tasks.mqttConnected = true) ↔
          (tasks.mqttConnected = false → change.relayOn = false)
        cases change.relayOn <;> cases tasks.mqttConnected <;> simp
      · have hsame : relayStep parse identity tasks .apply = tasks := by
          simp only [relayStep]
          split
          · exact absurd ⟨_, _, by assumption⟩ hpoint
          · rfl
        rw [hsame]
        refine ⟨fun _ => h, fun _ => ?_⟩
        split
        · exact absurd ⟨_, _, by assumption⟩ hpoint
        · trivial
  | wifiDisconnected => exact ⟨fun _ _ => rfl, fun _ => trivial⟩
  | mqttDisconnected => exact ⟨fun _ _ => rfl, fun _ => trivial⟩
  | gotIp => exact ⟨fun _ => h, fun _ => trivial⟩
  | mqttConnected => exact ⟨(fun _ h => by cases h), fun _ => trivial⟩
  | mqttData topic payload =>
      obtain ⟨queue, delivered, hstep⟩ := relayStep_mqttData parse identity tasks topic payload
      rw [hstep]
      exact ⟨fun _ => h, fun _ => trivial⟩
  | receive =>
      refine ⟨fun _ => ?_, fun _ => trivial⟩
      simp only [relayStep]
      split
      · exact h
      · exact h
  | check clock =>
      refine ⟨fun _ => ?_, fun _ => trivial⟩
      simp only [relayStep]
      split
      · split
        · exact h
        · exact h
      · exact h
  | unlock =>
      refine ⟨fun _ => ?_, fun _ => trivial⟩
      simp only [relayStep]
      split
      · split
        · exact h
        · split
          · exact h
          · exact h
      · exact h
  | answer accepted =>
      refine ⟨fun _ => ?_, fun _ => trivial⟩
      simp only [relayStep]
      split
      · exact h
      · exact h
  | expire =>
      refine ⟨fun _ => ?_, fun _ => trivial⟩
      simp only [relayStep]
      split
      · split
        · exact h
        · exact h
      · exact h
  | callback =>
      refine ⟨fun _ => ?_, fun _ => trivial⟩
      simp only [relayStep]
      split
      · exact fun _ => rfl
      · exact h
  | tick =>
      refine ⟨fun _ => ?_, fun _ => trivial⟩
      simp only [relayStep]
      split
      · exact h
      · exact h
  | stable => exact ⟨fun _ => h, fun _ => trivial⟩

/-- **The relay without a link.** In a run from boot, the relay is off in every state without a link
exactly when no ON command is applied without one. -/
theorem relay_off_without_link_iff (parse : List UInt8 → Option CJson) (identity : GatewayIdentity)
    (guard : RebootGuard) (powerOn : Bool) (events : List RelayEvent) :
    StatesMeet (relayStep parse identity) OffWithoutLink (.boot guard powerOn) events ↔
      StepsMeet (relayStep parse identity) SwitchesOnLinked (.boot guard powerOn) events :=
  statesMeet_iff_stepsMeet (fun _ _ _ => trivial)
    (fun _ event (_ : True) h => offWithoutLink_step_iff event h) trivial (fun _ => rfl) events

/-! ### A run that switches the relay on without a link -/

def sampleIdentity : GatewayIdentity :=
  ⟨"workshop-demo", "motor-01", "iiot/v1/workshop-demo/motor-01/commands"⟩

def sampleCommandId : String := "c0ffee00-0000-4000-8000-000000000001"

def sampleNow : String := "2027-01-01T00:00:00Z"

def asciiBytes (text : String) : List UInt8 := text.toList.map Char.toUInt8

/-- The text of an ON command for 30 seconds. -/
def samplePayload : List UInt8 :=
  asciiBytes "\x7b\"schema_version\":1,\"command_id\":\"c0ffee00-0000-4000-8000-000000000001\"," ++
    asciiBytes "\"site_id\":\"workshop-demo\",\"device_id\":\"motor-01\"," ++
    asciiBytes "\"expires_at\":\"2027-01-01T00:00:10Z\",\"kind\":\"set_demo_relay\"," ++
    asciiBytes "\"parameters\":\x7b\"relay_on\":true,\"timeout_s\":30\x7d\x7d"

/-- The tree cJSON builds of it. -/
def sampleRoot : CJson :=
  .object [
    ("schema_version", .number (.ofInt 1)),
    ("command_id", .string sampleCommandId),
    ("site_id", .string "workshop-demo"),
    ("device_id", .string "motor-01"),
    ("expires_at", .string "2027-01-01T00:00:10Z"),
    ("kind", .string "set_demo_relay"),
    ("parameters", .object [("relay_on", .bool true), ("timeout_s", .number (.ofInt 30))])]

def sampleParse (bytes : List UInt8) : Option CJson :=
  if bytes = samplePayload then some sampleRoot else none

theorem length_samplePayload : samplePayload.length = 227 := by
  unfold samplePayload asciiBytes
  simp only [List.length_append, List.length_map, String.length_toList]
  rfl

theorem parse_sample : sampleParse samplePayload = some sampleRoot := if_pos rfl

theorem isCommand_sample :
    isCommand sampleIdentity sampleIdentity.commandTopic samplePayload = true := by
  unfold isCommand
  simp [length_samplePayload, commandPayloadMax]

theorem deliveredId_sample :
    deliveredId sampleParse sampleIdentity sampleIdentity.commandTopic samplePayload =
      some sampleCommandId :=
  deliveredId_of_item isCommand_sample (by rw [parse_sample]; rfl)

theorem checkCommand_sample :
    checkCommand sampleIdentity (some sampleNow) (some sampleRoot) =
      .ok ⟨sampleRoot, sampleCommandId, sampleNow⟩ := by
  rfl

theorem checkParameters_sample :
    checkParameters ⟨sampleRoot, sampleCommandId, sampleNow⟩ = .ok ⟨sampleCommandId, true, 30⟩ :=
  rfl

/-- The command waits in `command_queue` while the link goes down. -/
theorem relay_on_without_link :
    ¬ ∀ (parse : List UInt8 → Option CJson) (identity : GatewayIdentity) (guard : RebootGuard)
        (powerOn : Bool) (events : List RelayEvent),
        StatesMeet (relayStep parse identity) OffWithoutLink (.boot guard powerOn) events := by
  intro hall
  have hoff := (hall sampleParse sampleIdentity ⟨0, 0⟩ true
    [.mqttConnected, .mqttData sampleIdentity.commandTopic samplePayload, .mqttDisconnected, .receive,
      .check (some sampleNow), .unlock, .apply]).last
  simp [OffWithoutLink, relayStep, RelayTasks.boot, RelayTasks.commandReceived, RelayTasks.accepts,
    RelayTasks.noteDelivery, RelayTasks.relayForceOff, RelayTasks.relaySet, RelayTasks.applyChange,
    isCommand_sample, deliveredId_sample, parse_sample, checkCommand_sample, checkParameters_sample,
    commandQueueLength, initializeRebootGuard] at hoff

end IiotMonitoring
