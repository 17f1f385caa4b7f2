import IiotMonitoring.Firmware.Nvs
import IiotMonitoring.Firmware.OfflineQueue

/-!
# The durable offline queue

`gateway_offline_load`, `gateway_offline_push` and `gateway_offline_pop` of `gateway_platform.c`, with
their helpers. Each is a program over the NVS calls in the order the C code issues them, so a run can
be cut between any two. The RAM it works on is the queue and `queue_generation`.
-/

namespace IiotMonitoring

/-! ### Stored structures -/

/-- `queue_metadata_t`. -/
structure QueueMetadata where
  magic : UInt32
  generation : UInt32
  dropped : UInt32
  head : UInt8
  count : UInt8
  capacity : UInt8
  reserved : UInt8
  checksum : UInt32
  deriving DecidableEq, Repr

/-- The fields `queue_metadata_t` has before its checksum. -/
def queueMetadataHeaderLayout :
    Layout (UInt32 × UInt32 × UInt32 × UInt8 × UInt8 × UInt8 × UInt8) :=
  Layout.u32.pair (Layout.u32.pair (Layout.u32.pair (Layout.u8.pair (Layout.u8.pair
    (Layout.u8.pair Layout.u8)))))

def queueMetadataLayout : Layout QueueMetadata :=
  (queueMetadataHeaderLayout.pair Layout.u32).via
    (fun value => ((value.magic, value.generation, value.dropped, value.head, value.count,
      value.capacity, value.reserved), value.checksum))
    (fun fields => ⟨fields.1.1, fields.1.2.1, fields.1.2.2.1, fields.1.2.2.2.1, fields.1.2.2.2.2.1,
      fields.1.2.2.2.2.2.1, fields.1.2.2.2.2.2.2, fields.2⟩) fun _ => rfl

/-- `sizeof(queue_metadata_t)`. -/
theorem size_queueMetadataLayout : queueMetadataLayout.size = 20 := rfl

/-- `iiot_crc32(&metadata, offsetof(queue_metadata_t, checksum))`. -/
def QueueMetadata.crc (metadata : QueueMetadata) : UInt32 :=
  iiotCrc32 ((queueMetadataLayout.encode metadata).take queueMetadataHeaderLayout.size)

/-- `pending_enqueue_t`. -/
structure PendingEnqueue where
  magic : UInt32
  previousGeneration : UInt32
  telemetry : IiotTelemetry
  checksum : UInt32
  deriving DecidableEq, Repr

/-- The fields `pending_enqueue_t` has before its checksum. -/
def pendingEnqueueHeaderLayout : Layout (UInt32 × UInt32 × IiotTelemetry) :=
  Layout.u32.pair (Layout.u32.pair telemetryLayout)

def pendingEnqueueLayout : Layout PendingEnqueue :=
  (pendingEnqueueHeaderLayout.pair (Layout.u32.pair (Layout.padding 4))).via
    (fun value => ((value.magic, value.previousGeneration, value.telemetry), value.checksum, ()))
    (fun fields => ⟨fields.1.1, fields.1.2.1, fields.1.2.2, fields.2.1⟩) fun _ => rfl

/-- `sizeof(pending_enqueue_t)`. -/
theorem size_pendingEnqueueLayout : pendingEnqueueLayout.size = 336 := by
  simp [pendingEnqueueLayout, pendingEnqueueHeaderLayout, size_telemetryLayout, Layout.u32,
    Layout.padding]

/-- `iiot_crc32(&pending, offsetof(pending_enqueue_t, checksum))`. -/
def PendingEnqueue.crc (pending : PendingEnqueue) : UInt32 :=
  iiotCrc32 ((pendingEnqueueLayout.encode pending).take pendingEnqueueHeaderLayout.size)

def queueMetadataMagic : UInt32 := 0x51554555

def pendingEnqueueMagic : UInt32 := 0x51504e44

/-! ### Writes -/

/-- The RAM of the offline queue: the caller's queue and the static `queue_generation`. -/
structure OfflineState where
  queue : IiotOfflineQueue
  queueGeneration : UInt32

/-- The metadata `save_queue_metadata` fills in, before its checksum. -/
def QueueMetadata.ofState (state : OfflineState) : QueueMetadata where
  magic := queueMetadataMagic
  generation := state.queueGeneration
  dropped := state.queue.droppedMessageCount
  head := UInt8.ofNat state.queue.head
  count := UInt8.ofNat state.queue.count
  capacity := UInt8.ofNat state.queue.capacity
  reserved := 0
  checksum := 0

def QueueMetadata.sealed (metadata : QueueMetadata) : QueueMetadata :=
  { metadata with checksum := metadata.crc }

def saveQueueMetadata (state : OfflineState) : NvsProgram Bool := do
  let metadata := (QueueMetadata.ofState state).sealed
  let stored ← nvsSetBlob "queue_meta" (queueMetadataLayout.encode metadata)
  if stored = .ok then
    let committed ← nvsCommit
    return committed = .ok
  else
    return false

def erasePendingEnqueue : NvsProgram Bool := do
  let result ← nvsEraseKey "q_pending"
  if result = .ok ∨ result = .nvsNotFound then
    let committed ← nvsCommit
    return committed = .ok
  else
    return false

def PendingEnqueue.sealed (pending : PendingEnqueue) : PendingEnqueue :=
  { pending with checksum := pending.crc }

/-- The journal entry `save_pending_enqueue` fills in, before its checksum. -/
def PendingEnqueue.ofState (state : OfflineState) (telemetry : IiotTelemetry) : PendingEnqueue where
  magic := pendingEnqueueMagic
  previousGeneration := state.queueGeneration
  telemetry := telemetry
  checksum := 0

def savePendingEnqueue (state : OfflineState) (telemetry : IiotTelemetry) : NvsProgram Bool := do
  let pending := (PendingEnqueue.ofState state telemetry).sealed
  let stored ← nvsSetBlob "q_pending" (pendingEnqueueLayout.encode pending)
  if stored = .ok then
    let committed ← nvsCommit
    return committed = .ok
  else
    return false

/-- `snprintf(key, 8, "q%02u", slot)`. -/
def slotKey (slot : Nat) : String :=
  "q" ++ (if slot < 10 then "0" else "") ++ toString slot

/-- The slot the next enqueue writes. -/
def enqueueSlot (queue : IiotOfflineQueue) : Nat :=
  if queue.count = queue.capacity then queue.head
  else (queue.head + queue.count) % queue.capacity

def persistEnqueuedRecord (state : OfflineState) (telemetry : IiotTelemetry) :
    NvsProgram (Bool × OfflineState) := do
  let slot := enqueueSlot state.queue
  let stored ← nvsSetBlob (slotKey slot) (telemetryLayout.encode telemetry)
  if stored = .ok then
    let state : OfflineState :=
      { queue := (iiotOfflineQueuePush state.queue telemetry).2
        queueGeneration := state.queueGeneration + 1 }
    let saved ← saveQueueMetadata state
    return (saved, state)
  else
    return (false, state)

/-! ### Loading and recovery -/

/-- The checks `gateway_offline_load` makes of the stored metadata. -/
def readQueueMetadata : Except EspErr (List UInt8) → Option QueueMetadata
  | .error _ => none
  | .ok image =>
      let metadata := queueMetadataLayout.decode image
      if image.length ≠ queueMetadataLayout.size ∨ metadata.magic ≠ queueMetadataMagic ∨
          metadata.checksum ≠ iiotCrc32 (image.take queueMetadataHeaderLayout.size) ∨
          metadata.capacity = 0 ∨
          metadata.capacity.toNat > iiotOfflineCapacityMax ∨ metadata.count > metadata.capacity ∨
          metadata.head ≥ metadata.capacity then
        none
      else
        some metadata

/-- The loop that reads the live slots back; `none` where one is missing or has another length. -/
def loadRecords : Nat → Nat → IiotOfflineQueue → NvsProgram (Option IiotOfflineQueue)
  | 0, _, queue => return some queue
  | remaining + 1, offset, queue => do
      let slot := (queue.head + offset) % queue.capacity
      let answer ← nvsGetBlob (slotKey slot) telemetryLayout.size
      match answer with
      | .error _ => return none
      | .ok image =>
          if image.length ≠ telemetryLayout.size then
            return none
          else
            loadRecords remaining (offset + 1)
              { queue with
                records := Function.update queue.records slot (telemetryLayout.decode image) }

/-- The queue the metadata describes, before its records are read. -/
def QueueMetadata.toState (metadata : QueueMetadata) : OfflineState where
  queue :=
    { iiotOfflineQueueInit metadata.capacity.toNat with
      head := metadata.head.toNat
      count := metadata.count.toNat
      droppedMessageCount := metadata.dropped }
  queueGeneration := metadata.generation

/-- The empty queue `gateway_offline_load` starts over with. -/
def freshState (capacity : Nat) : OfflineState where
  queue := iiotOfflineQueueInit capacity
  queueGeneration := 0

/-- The first half of `gateway_offline_load`: the stored ring, or an early return. -/
def loadRing (capacity : Nat) : NvsProgram (Except (Bool × OfflineState) OfflineState) := do
  let answer ← nvsGetBlob "queue_meta" queueMetadataLayout.size
  match readQueueMetadata answer with
  | none =>
      let state := freshState capacity
      let saved ← saveQueueMetadata state
      if saved then return .ok state else return .error (false, state)
  | some metadata =>
      let state := metadata.toState
      let loaded ← loadRecords state.queue.count 0 state.queue
      match loaded with
      | some queue => return .ok { state with queue := queue }
      | none =>
          let state := freshState capacity
          let saved ← saveQueueMetadata state
          if saved then
            let erased ← erasePendingEnqueue
            return .error (erased, state)
          else
            return .error (false, state)

/-- The checks `gateway_offline_load` makes of a journal entry it could read. -/
def readPendingEnqueue : Except EspErr (List UInt8) → Option PendingEnqueue
  | .error _ => none
  | .ok image =>
      let pending := pendingEnqueueLayout.decode image
      if image.length ≠ pendingEnqueueLayout.size ∨ pending.magic ≠ pendingEnqueueMagic ∨
          pending.checksum ≠ iiotCrc32 (image.take pendingEnqueueHeaderLayout.size) then
        none
      else
        some pending

def journalInvalidText : String := "code=OFFLINE_QUEUE_JOURNAL_INVALID"

def generationMismatchText : String := "code=OFFLINE_QUEUE_JOURNAL_GENERATION_MISMATCH"

/-- The second half of `gateway_offline_load`: finish or discard the journaled enqueue. -/
def recoverPending (state : OfflineState) : NvsProgram (Bool × OfflineState) := do
  let answer ← nvsGetBlob "q_pending" pendingEnqueueLayout.size
  match answer with
  | .error .nvsNotFound => return (true, state)
  | answer =>
      match readPendingEnqueue answer with
      | none =>
          espLog .error journalInvalidText
          let erased ← erasePendingEnqueue
          return (erased, state)
      | some pending =>
          if state.queueGeneration = pending.previousGeneration then
            let (persisted, state) ← persistEnqueuedRecord state pending.telemetry
            if persisted then
              espLog .warning ("code=OFFLINE_QUEUE_JOURNAL_RECOVERED generation=" ++
                toString state.queueGeneration.toNat)
              let erased ← erasePendingEnqueue
              return (erased, state)
            else
              return (false, state)
          else if state.queueGeneration ≠ pending.previousGeneration + 1 then
            espLog .error generationMismatchText
            return (false, state)
          else
            let erased ← erasePendingEnqueue
            return (erased, state)

def gatewayOfflineLoad (capacity : Nat) : NvsProgram (Bool × OfflineState) := do
  let ring ← loadRing capacity
  match ring with
  | .error early => return early
  | .ok state => recoverPending state

/-! ### Enqueue and dequeue -/

/-- The three writes `gateway_offline_push` makes one after the other, stopping at a failure. -/
def journaledEnqueue (state : OfflineState) (telemetry : IiotTelemetry) :
    NvsProgram (Bool × OfflineState) := do
  let journaled ← savePendingEnqueue state telemetry
  if journaled then
    let (persisted, state) ← persistEnqueuedRecord state telemetry
    if persisted then
      let erased ← erasePendingEnqueue
      return (erased, state)
    else
      return (false, state)
  else
    return (false, state)

def gatewayOfflinePush (state : OfflineState) (telemetry : IiotTelemetry) :
    NvsProgram (Bool × OfflineState) := do
  let droppedBefore := state.queue.droppedMessageCount
  let (durable, state) ← journaledEnqueue state telemetry
  if durable then
    if state.queue.droppedMessageCount ≠ droppedBefore then
      espLog .warning ("code=OFFLINE_QUEUE_DROPPED_OLDEST dropped=" ++
        toString state.queue.droppedMessageCount.toNat)
      return (true, state)
    else
      return (true, state)
  else
    espLog .error "code=OFFLINE_QUEUE_PERSIST_FAILED"
    return (false, state)

/-- The result of `gateway_offline_pop`, the record it copied out if it got that far, and the RAM it
leaves. A failed metadata write puts the head, the count and the generation back. -/
def gatewayOfflinePop (state : OfflineState) :
    NvsProgram (Bool × Option IiotTelemetry × OfflineState) := do
  if state.queue.count = 0 then
    return (false, none, state)
  else
    let slot := state.queue.head
    match iiotOfflineQueuePop state.queue with
    | none => return (false, none, state)
    | some (telemetry, queue) =>
        let popped : OfflineState :=
          { queue := queue, queueGeneration := state.queueGeneration + 1 }
        let saved ← saveQueueMetadata popped
        if saved then
          let _ ← nvsEraseKey (slotKey slot)
          let committed ← nvsCommit
          return (committed = .ok, some telemetry, popped)
        else
          return (false, some telemetry,
            { queue := { queue with head := state.queue.head, count := queue.count + 1 }
              queueGeneration := popped.queueGeneration - 1 })

end IiotMonitoring
