import IiotMonitoring.Firmware.OfflineStore
import IiotMonitoring.Lib.Ring
import IiotMonitoring.Lib.Run

/-!
# Runs of the durable offline queue

A device is its flash and, while it is powered, the RAM of the offline queue. A run makes calls of
`gateway_offline_load`, `gateway_offline_push` and `gateway_offline_pop` one after the other; each call
is an execution of its program, which power loss can cut anywhere. After a cut the RAM is gone and
only a load can follow.
-/

namespace IiotMonitoring

open Program

/-- The records a queue holds, oldest first. -/
def IiotOfflineQueue.items (queue : IiotOfflineQueue) : List IiotTelemetry :=
  ringItems queue.records queue.capacity queue.head queue.count

/-! ### Calls -/

/-- A call, with the RAM it is given. -/
inductive OfflineCall where
  | load (capacity : Nat)
  | push (state : OfflineState) (telemetry : IiotTelemetry)
  | pop (state : OfflineState)

/-- What a call returns, the record it copied out and the RAM it leaves. -/
structure OfflineResult where
  succeeded : Bool
  record : Option IiotTelemetry
  state : OfflineState

/-- The result of a load or a push, which copy no record out. -/
def OfflineResult.ofPair (value : Bool × OfflineState) : OfflineResult := ⟨value.1, none, value.2⟩

def OfflineResult.ofPop (value : Bool × Option IiotTelemetry × OfflineState) : OfflineResult :=
  ⟨value.1, value.2.1, value.2.2⟩

def OfflineCall.program : OfflineCall → NvsProgram OfflineResult
  | .load capacity => OfflineResult.ofPair <$> gatewayOfflineLoad capacity
  | .push state telemetry => OfflineResult.ofPair <$> gatewayOfflinePush state telemetry
  | .pop state => OfflineResult.ofPop <$> gatewayOfflinePop state

/-- A call that was made, what the flash answered, and its result unless the power went first. -/
structure OfflineEntry where
  call : OfflineCall
  trace : List (Answered NvsAnswer)
  outcome : Option OfflineResult

/-! ### Traces -/

/-- The keys whose blobs were written, in order. -/
def storedKeys (trace : List (Answered NvsAnswer)) : List String :=
  trace.filterMap fun
    | ⟨.setBlob key _, .ok⟩ => some key
    | _ => none

/-- The keys whose blob writes failed, in order. -/
def failedKeys (trace : List (Answered NvsAnswer)) : List String :=
  trace.filterMap fun
    | ⟨.setBlob key _, .fail⟩ => some key
    | _ => none

def loggedTexts (trace : List (Answered NvsAnswer)) : List String :=
  trace.filterMap fun
    | ⟨.log _ text, _⟩ => some text
    | _ => none

/-- The slot writes since the metadata was last stored, `before` of them before these. -/
def unsavedAfter (before : Nat) (keys : List String) : Nat :=
  keys.foldl (fun unsaved key =>
    if key = "queue_meta" then 0 else if key = "q_pending" then unsaved else unsaved + 1) before

/-! ### Devices -/

/-- The flash and, while powered, the RAM. `unsaved` counts the enqueues whose slot was written since
the metadata was last stored or the device was last started; no function reads it. -/
structure OfflineDevice where
  nvs : Nvs
  ram : Option OfflineState
  unsaved : Nat

/-- A device that was never started: its slots may hold anything. -/
def OfflineDevice.Blank (device : OfflineDevice) : Prop :=
  device.nvs "queue_meta" = none ∧ device.nvs "q_pending" = none ∧ device.ram = none

/-- One call, to its end or to a power loss. -/
inductive OfflineStep (mayFail : Prop) (capacity : Nat) :
    OfflineDevice → OfflineEntry → OfflineDevice → Prop where
  | load {device : OfflineDevice} {trace : List (Answered NvsAnswer)}
      {outcome : Option OfflineResult} {nvs : Nvs}
      (hrun : Exec (nvsAnswers mayFail) (OfflineCall.load capacity).program device.nvs trace outcome
        nvs) :
      OfflineStep mayFail capacity device ⟨.load capacity, trace, outcome⟩
        ⟨nvs, outcome.map OfflineResult.state, unsavedAfter 0 (storedKeys trace)⟩
  | push {device : OfflineDevice} {state : OfflineState} {telemetry : IiotTelemetry}
      {trace : List (Answered NvsAnswer)} {outcome : Option OfflineResult} {nvs : Nvs}
      (hram : device.ram = some state)
      (hrun : Exec (nvsAnswers mayFail) (OfflineCall.push state telemetry).program device.nvs trace
        outcome nvs) :
      OfflineStep mayFail capacity device ⟨.push state telemetry, trace, outcome⟩
        ⟨nvs, outcome.map OfflineResult.state, unsavedAfter device.unsaved (storedKeys trace)⟩
  | pop {device : OfflineDevice} {state : OfflineState} {trace : List (Answered NvsAnswer)}
      {outcome : Option OfflineResult} {nvs : Nvs}
      (hram : device.ram = some state)
      (hrun : Exec (nvsAnswers mayFail) (OfflineCall.pop state).program device.nvs trace outcome
        nvs) :
      OfflineStep mayFail capacity device ⟨.pop state, trace, outcome⟩
        ⟨nvs, outcome.map OfflineResult.state, unsavedAfter device.unsaved (storedKeys trace)⟩

/-! ### The reference queue -/

/-- What a call does to the queue it stands for. -/
def OfflineCall.apply {capacity : Nat} (call : OfflineCall)
    (fifo : BoundedFifo capacity IiotTelemetry) : BoundedFifo capacity IiotTelemetry :=
  match call with
  | .load _ => fifo
  | .push _ telemetry => fifo.push telemetry
  | .pop _ => fifo.pop

/-- The same records in the same order, and the same count of dropped records modulo `2 ^ 32`. -/
def IiotOfflineQueue.Shows {capacity : Nat} (queue : IiotOfflineQueue)
    (fifo : BoundedFifo capacity IiotTelemetry) : Prop :=
  queue.items = fifo.items ∧ queue.droppedMessageCount = UInt32.ofNat fifo.dropped

/-- A completed call is applied once and leaves RAM that shows the reference queue; an interrupted
one is applied once or not at all. -/
def ReferenceStep {capacity : Nat} (fifo : BoundedFifo capacity IiotTelemetry) (entry : OfflineEntry)
    (fifo' : BoundedFifo capacity IiotTelemetry) : Prop :=
  match entry.outcome with
  | some result => fifo' = entry.call.apply fifo ∧ result.state.queue.Shows fifo'
  | none => fifo' = fifo ∨ fifo' = entry.call.apply fifo

/-- The run's calls, one by one, on a reference queue. -/
abbrev ReferenceRun (capacity : Nat) :
    List OfflineEntry → BoundedFifo capacity IiotTelemetry → Prop :=
  Trail ReferenceStep BoundedFifo.empty

/-! ### Accounting for acknowledged records -/

/-- The record a push acknowledged by returning true. -/
def OfflineEntry.acknowledged (entry : OfflineEntry) : Option IiotTelemetry :=
  match entry.call, entry.outcome with
  | .push _ telemetry, some result => if result.succeeded then some telemetry else none
  | _, _ => none

/-- The record removed by a pop whose metadata was stored. -/
def OfflineEntry.savedPop (entry : OfflineEntry) : Option IiotTelemetry :=
  match entry.call with
  | .pop state =>
      if "queue_meta" ∈ storedKeys entry.trace then iiotOfflineQueuePeek state.queue else none
  | _ => none

/-- How a record left the ring. -/
inductive Removal where
  | popped | evicted
  deriving DecidableEq, Repr

/-- The records that left the ring in one way, in order. -/
def removedBy (removal : Removal) (removed : List (Removal × IiotTelemetry)) : List IiotTelemetry :=
  (removed.filter fun entry => entry.1 = removal).map Prod.snd

/-- Every acknowledged record is in the ring, in push order, or left it before those that are: by a
pop of its own whose metadata was stored, or evicted. Evictions are at most one a call, and counted. -/
def Accounted (entries : List OfflineEntry) (items : List IiotTelemetry) (dropped : UInt32) : Prop :=
  ∃ removed : List (Removal × IiotTelemetry),
    (entries.filterMap OfflineEntry.acknowledged).Sublist (removed.map Prod.snd ++ items) ∧
    (removedBy .popped removed).Sublist (entries.filterMap OfflineEntry.savedPop) ∧
    (removedBy .evicted removed).length ≤ entries.length ∧
    dropped = UInt32.ofNat (removedBy .evicted removed).length

/-- The stored ring is full, its oldest slot already holds the journaled record, and the journal
entry is the one a load replays. -/
def Nvs.HeadOverwritten (nvs : Nvs) (metadata : QueueMetadata) : Prop :=
  readQueueMetadata (nvs.get "queue_meta" queueMetadataLayout.size) = some metadata ∧
  metadata.count = metadata.capacity ∧
  ∃ pending, readPendingEnqueue (nvs.get "q_pending" pendingEnqueueLayout.size) = some pending ∧
    pending.previousGeneration = metadata.generation ∧
    nvs (slotKey metadata.head.toNat) = some (telemetryLayout.encode pending.telemetry)

/-- The number of records in the stored ring. -/
def Nvs.storedCount (nvs : Nvs) : Nat :=
  match readQueueMetadata (nvs.get "queue_meta" queueMetadataLayout.size) with
  | some metadata => metadata.count.toNat
  | none => 0

/-- The condition under which a call cannot lose an acknowledged record. A load that must replay a
journaled enqueue over an overwritten head gets its slot write through. A push made while earlier
enqueues are unsaved does not reach its journal, or stores the metadata, or leaves every slot of the
stored ring alone. -/
def SafeCall (capacity : Nat) (device : OfflineDevice) (entry : OfflineEntry) : Prop :=
  match entry.call with
  | .load _ =>
      ∀ metadata, device.nvs.HeadOverwritten metadata →
        slotKey metadata.head.toNat ∉ failedKeys entry.trace
  | .push _ _ =>
      device.unsaved = 0 ∨ "q_pending" ∉ storedKeys entry.trace ∨
        "queue_meta" ∈ storedKeys entry.trace ∨
        device.nvs.storedCount + unsavedAfter device.unsaved (storedKeys entry.trace) ≤ capacity
  | .pop _ => True

end IiotMonitoring
