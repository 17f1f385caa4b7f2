import IiotMonitoring.Firmware.Command
import IiotMonitoring.Lib.Run

/-!
# The relay of the gateway

What writes the relay or its timer: `command_task`, the callback of `relay_timer`, the network event
handler and `stability_task`. Each step is one call of a FreeRTOS or timer function, or one stretch of
a task between two of them. The block of `command_task` that applies a command is one step. Time is in
microseconds and does not pass a deadline before the callback of that deadline has run.
-/

namespace IiotMonitoring

/-! ### The reboot guard -/

/-- `REBOOT_GUARD_MAGIC`. -/
def rebootGuardMagic : UInt32 := 0x52424744

/-- What the guard keeps in RTC memory. -/
structure RebootGuard where
  magic : UInt32
  consecutiveReboots : UInt32
  deriving DecidableEq, Repr

/-- The guard after `initialize_reboot_guard`, and `relay_locked`. -/
def initializeRebootGuard (guard : RebootGuard) (powerOn : Bool) : RebootGuard × Bool :=
  let guard : RebootGuard :=
    if guard.magic ≠ rebootGuardMagic ∨ powerOn then ⟨rebootGuardMagic, 1⟩
    else if guard.consecutiveReboots < 0xffffffff then
      { guard with consecutiveReboots := guard.consecutiveReboots + 1 }
    else guard
  (guard, guard.consecutiveReboots ≥ 3)

/-! ### State and events -/

/-- Where `command_task` is: at its receive, with a payload to check, before its look at
`relay_locked`, before it applies a command, or before it publishes an acknowledgement. -/
inductive CommandPoint where
  | receiving
  | checking (payload : List UInt8)
  | unlocking (command : CheckedCommand)
  | applying (command : CheckedCommand) (change : RelayChange)
  | answering (commandId status resultCode : String)

structure CommandAck where
  commandId : String
  status : String
  resultCode : String
  relayOn : Bool

/-- An applied command, with `relay_locked` and the time when it was applied. -/
structure AppliedCommand where
  command : CheckedCommand
  change : RelayChange
  relayLocked : Bool
  appliedAt : Nat

/-- `COMMAND_PAYLOAD_MAX`. -/
def commandPayloadMax : Nat := 2048

/-- The length `command_queue` is created with. -/
def commandQueueLength : Nat := 4

/-- `deadline` is that of the armed timer and `pending` that of a callback due to run. `applied` and
`delivered` record the commands applied and the ids delivered so far; nothing reads them. -/
structure RelayTasks where
  relayOn : Bool
  relayLocked : Bool
  guard : RebootGuard
  wifiConnected : Bool
  mqttConnected : Bool
  commandQueue : List (List UInt8)
  command : CommandPoint
  now : Nat
  deadline : Option Nat
  pending : Option Nat
  acks : List CommandAck
  applied : List AppliedCommand
  delivered : List String

inductive RelayEvent where
  | wifiDisconnected | gotIp | mqttConnected | mqttDisconnected
  | mqttData (topic : String) (payload : List UInt8)
  | receive | check (clock : Option String) | unlock | apply | answer (accepted : Bool)
  | expire | callback | tick | stable

def RelayTasks.boot (guard : RebootGuard) (powerOn : Bool) : RelayTasks where
  relayOn := false
  relayLocked := (initializeRebootGuard guard powerOn).2
  guard := (initializeRebootGuard guard powerOn).1
  wifiConnected := false
  mqttConnected := false
  commandQueue := []
  command := .receiving
  now := 0
  deadline := none
  pending := none
  acks := []
  applied := []
  delivered := []

/-! ### Steps -/

section Steps

variable (parse : List UInt8 → Option CJson) (identity : GatewayIdentity)

/-- The checks of `network_event` and `mqtt_command_received` on what arrives. -/
def isCommand (topic : String) (payload : List UInt8) : Bool :=
  topic = identity.commandTopic && 0 < payload.length && payload.length < commandPayloadMax

/-- The command id in a payload, where it has one. -/
def payloadId (payload : List UInt8) : Option String :=
  match CJson.getObjectItem (parse payload) "command_id" with
  | some (.string commandId) => some commandId
  | _ => none

/-- The command id in what arrives on the command topic. -/
def deliveredId (topic : String) (payload : List UInt8) : Option String :=
  if isCommand identity topic payload then payloadId parse payload else none

/-- `gateway_relay_set`. -/
def RelayTasks.relaySet (tasks : RelayTasks) (enabled : Bool) : RelayTasks :=
  { tasks with relayOn := enabled }

/-- `gateway_relay_force_off`. -/
def RelayTasks.relayForceOff (tasks : RelayTasks) : RelayTasks := tasks.relaySet false

/-- Whether what arrives enters `command_queue`. -/
def RelayTasks.accepts (tasks : RelayTasks) (topic : String) (payload : List UInt8) : Bool :=
  isCommand identity topic payload && tasks.commandQueue.length < commandQueueLength

def RelayTasks.commandReceived (tasks : RelayTasks) (topic : String) (payload : List UInt8) :
    RelayTasks :=
  if tasks.accepts identity topic payload then
    { tasks with commandQueue := tasks.commandQueue ++ [payload] }
  else
    tasks

/-- Add a delivered command's id to the record of ids. -/
def RelayTasks.noteDelivery (tasks : RelayTasks) (topic : String) (payload : List UInt8) :
    RelayTasks :=
  match deliveredId parse identity topic payload with
  | some commandId =>
      if commandId ∈ tasks.delivered then tasks
      else { tasks with delivered := tasks.delivered ++ [commandId] }
  | none => tasks

/-- Where `command_task` goes when it turns a command down. -/
def CommandRefusal.point : CommandRefusal → CommandPoint
  | .logged _ => .receiving
  | .answered commandId status resultCode => .answering commandId status resultCode

/-- Stop the timer, set the relay, and start the timer for an ON. -/
def RelayTasks.applyChange (tasks : RelayTasks) (command : CheckedCommand) (change : RelayChange) :
    RelayTasks :=
  { tasks.relaySet change.relayOn with
    deadline := if change.relayOn then some (tasks.now + change.timeoutS * 1000000) else none
    command := .answering change.commandId "completed"
      (if change.relayOn then "RELAY_ON" else "RELAY_OFF")
    applied := tasks.applied ++ [⟨command, change, tasks.relayLocked, tasks.now⟩] }

def relayStep (tasks : RelayTasks) : RelayEvent → RelayTasks
  | .wifiDisconnected =>
      { tasks.relayForceOff with wifiConnected := false, mqttConnected := false }
  | .gotIp => { tasks with wifiConnected := true }
  | .mqttConnected => { tasks with mqttConnected := true }
  | .mqttDisconnected => { tasks.relayForceOff with mqttConnected := false }
  | .mqttData topic payload =>
      (tasks.commandReceived identity topic payload).noteDelivery parse identity topic payload
  | .receive =>
      match tasks.command, tasks.commandQueue with
      | .receiving, payload :: rest =>
          { tasks with commandQueue := rest, command := .checking payload }
      | _, _ => tasks
  | .check clock =>
      match tasks.command with
      | .checking payload =>
          match checkCommand identity clock (parse payload) with
          | .error refusal => { tasks with command := refusal.point }
          | .ok command => { tasks with command := .unlocking command }
      | _ => tasks
  | .unlock =>
      match tasks.command with
      | .unlocking command =>
          if tasks.relayLocked then
            { tasks with
              command := .answering command.commandId "rejected" "RELAY_LOCKED_REBOOT_GUARD" }
          else
            match checkParameters command with
            | .error refusal => { tasks with command := refusal.point }
            | .ok change => { tasks with command := .applying command change }
      | _ => tasks
  | .apply =>
      match tasks.command with
      | .applying command change => tasks.applyChange command change
      | _ => tasks
  | .answer accepted =>
      match tasks.command with
      | .answering commandId status resultCode =>
          { tasks with
            command := .receiving
            acks :=
              if tasks.mqttConnected && accepted then
                tasks.acks ++ [⟨commandId, status, resultCode, tasks.relayOn⟩]
              else tasks.acks }
      | _ => tasks
  | .expire =>
      match tasks.deadline, tasks.pending with
      | some deadline, none =>
          if deadline ≤ tasks.now then
            { tasks with deadline := none, pending := some deadline }
          else tasks
      | _, _ => tasks
  | .callback =>
      match tasks.pending with
      | some _ => { tasks.relayForceOff with pending := none }
      | none => tasks
  | .tick =>
      if tasks.pending.isSome ∨ tasks.deadline = some tasks.now then tasks
      else { tasks with now := tasks.now + 1 }
  | .stable =>
      { tasks with
        relayLocked := false
        guard := { tasks.guard with consecutiveReboots := 0 } }

end Steps

/-! ### Properties -/

/-- A relay command for this gateway that had not expired when it was checked. -/
structure Addressed (identity : GatewayIdentity) (command : CheckedCommand) : Prop where
  kind : CJson.getObjectItem (some command.root) "kind" = some (.string "set_demo_relay")
  site : CJson.getObjectItem (some command.root) "site_id" = some (.string identity.siteId)
  device : CJson.getObjectItem (some command.root) "device_id" = some (.string identity.deviceId)
  unexpired : ∃ expiresAt, CJson.getObjectItem (some command.root) "expires_at" =
    some (.string expiresAt) ∧ utcExpired command.now expiresAt = false

/-- Such a command that switches the relay on for `timeoutS` seconds. -/
structure SwitchesOn (identity : GatewayIdentity) (command : CheckedCommand) (timeoutS : Nat) : Prop
    extends Addressed identity command where
  parameters : ∃ members, CJson.getObjectItem (some command.root) "parameters" =
      some (.object members) ∧
    members.lookup "relay_on" = some (.bool true) ∧
    members.lookup "timeout_s" = some (.number (.ofInt timeoutS))
  bounded : 1 ≤ timeoutS ∧ timeoutS ≤ 30

/-- A relay that is on was switched on by the last command applied, was not locked, and goes off by
the deadline of that command. -/
def AutoOff (identity : GatewayIdentity) (tasks : RelayTasks) : Prop :=
  tasks.relayOn = true → ∃ last, tasks.applied.getLast? = some last ∧
    last.change.relayOn = true ∧ last.relayLocked = false ∧
    SwitchesOn identity last.command last.change.timeoutS ∧
    tasks.now ≤ last.appliedAt + last.change.timeoutS * 1000000 ∧
    (tasks.deadline = some (last.appliedAt + last.change.timeoutS * 1000000) ∨
      tasks.pending = some (last.appliedAt + last.change.timeoutS * 1000000))

/-- While `MQTT_CONNECTED_BIT` is clear, the relay is off. -/
def OffWithoutLink (tasks : RelayTasks) : Prop := tasks.mqttConnected = false → tasks.relayOn = false

/-- No ON command is applied while `MQTT_CONNECTED_BIT` is clear. -/
def SwitchesOnLinked (tasks : RelayTasks) (event : RelayEvent) : Prop :=
  match event, tasks.command with
  | .apply, .applying _ change => change.relayOn = true → tasks.mqttConnected = true
  | _, _ => True

/-- No command whose id was delivered before enters `command_queue`. -/
def AcceptsFirstOnly (parse : List UInt8 → Option CJson) (identity : GatewayIdentity)
    (tasks : RelayTasks) (event : RelayEvent) : Prop :=
  match event with
  | .mqttData topic payload =>
      ∀ commandId ∈ deliveredId parse identity topic payload, commandId ∈ tasks.delivered →
        tasks.accepts identity topic payload = false
  | _ => True

/-- A delivery sequence without the redeliveries: each command id is delivered once, the first
time. -/
def firstDeliveries (parse : List UInt8 → Option CJson) (identity : GatewayIdentity) :
    List String → List RelayEvent → List RelayEvent
  | _, [] => []
  | delivered, .mqttData topic payload :: events =>
      match deliveredId parse identity topic payload with
      | some commandId =>
          if commandId ∈ delivered then firstDeliveries parse identity delivered events
          else .mqttData topic payload ::
            firstDeliveries parse identity (delivered ++ [commandId]) events
      | none => .mqttData topic payload :: firstDeliveries parse identity delivered events
  | delivered, event :: events => event :: firstDeliveries parse identity delivered events

/-- A relay command that passes the checks at every clock reading of the list. -/
def PassesChecks (parse : List UInt8 → Option CJson) (identity : GatewayIdentity)
    (clocks : List (Option String)) (payload : List UInt8) : Prop :=
  ∀ clock ∈ clocks, ∃ command change, checkCommand identity clock (parse payload) = .ok command ∧
    checkParameters command = .ok change

/-- Only such commands are delivered, and they are checked at those readings. -/
def DeliversCommands (parse : List UInt8 → Option CJson) (identity : GatewayIdentity)
    (clocks : List (Option String)) : RelayEvent → Prop
  | .mqttData topic payload =>
      isCommand identity topic payload = true → PassesChecks parse identity clocks payload
  | .check clock => clock ∈ clocks
  | _ => True

/-- Every command accepted so far has been dealt with. -/
def Drained (tasks : RelayTasks) : Prop := tasks.commandQueue = [] ∧ tasks.command = .receiving

/-- The relay changes made so far. -/
def RelayTasks.changes (tasks : RelayTasks) : List RelayChange := tasks.applied.map (·.change)

end IiotMonitoring
