import IiotMonitoring.Firmware.OfflineRun
import IiotMonitoring.Lib.Run

/-!
# The telemetry tasks of the gateway

`aggregation_task` and `communication_task` of `app_main.c`, interleaved. A step is one FreeRTOS queue
operation, one critical section under `offline_mutex`, one publish or one change of the link. Each task
is at one of the points between them, with the record it carries there. An event that does not apply
where its task is leaves the state alone. NVS operations succeed.
-/

namespace IiotMonitoring

/-! ### Sequence numbers -/

/-- `SEQUENCE_RESERVATION`. -/
def sequenceReservation : UInt64 := 256

/-- The statics of `gateway_next_sequence` and the stored `sequence_hi`. -/
structure SequenceCounter where
  sequenceNext : UInt64
  sequenceEnd : UInt64
  sequenceHi : Option UInt64
  deriving DecidableEq, Repr

/-- The first half of `gateway_next_sequence`: reserve a block of numbers when none is left. -/
def SequenceCounter.reserve (counter : SequenceCounter) : SequenceCounter :=
  if counter.sequenceNext = 0 ∨ counter.sequenceNext > counter.sequenceEnd then
    let highWater := counter.sequenceHi.getD 0
    { sequenceNext := highWater + 1
      sequenceEnd := highWater + sequenceReservation
      sequenceHi := some (highWater + sequenceReservation) }
  else
    counter

def gatewayNextSequence (counter : SequenceCounter) : UInt64 × SequenceCounter :=
  let counter := counter.reserve
  (counter.sequenceNext, { counter with sequenceNext := counter.sequenceNext + 1 })

/-! ### Tasks -/

/-- Where `aggregation_task` is: collecting samples, sending a record, or storing one it could not
send. -/
inductive AggregationPoint where
  | sampling
  | sending (telemetry : IiotTelemetry)
  | storing (telemetry : IiotTelemetry)

/-- Where `communication_task` is. -/
inductive CommunicationPoint where
  | top
  | peeking
  | replaying (replay : IiotTelemetry)
  | popping (replay : IiotTelemetry)
  | receiving
  | publishing (telemetry : IiotTelemetry)
  | storing (telemetry : IiotTelemetry)

/-- The length `telemetry_queue` is created with. -/
def telemetryQueueLength : Nat := 8

/-- The state the two tasks share. `published` records what `gateway_mqtt_publish` accepted and
`evictedSincePeek` whether the ring gave up a record since the last peek; neither task reads them. -/
structure TelemetryTasks where
  offline : OfflineState
  nvs : Nvs
  telemetryQueue : List IiotTelemetry
  connected : Bool
  sequence : SequenceCounter
  offlineQueueDrop : Bool
  aggregation : AggregationPoint
  communication : CommunicationPoint
  published : List IiotTelemetry
  evictedSincePeek : Bool

inductive TelemetryEvent where
  | connect | disconnect
  | aggregate (telemetry : IiotTelemetry)
  | send | sendTimeout | storeAggregated
  | check | peek | publishReplay (accepted : Bool) | pop
  | receive | receiveTimeout | publishReceived (accepted : Bool) | storeReceived

/-- The tasks as `app_main` starts them, on the ring the load left. -/
def TelemetryTasks.start (offline : OfflineState) (nvs : Nvs) (sequenceHi : Option UInt64) :
    TelemetryTasks where
  offline := offline
  nvs := nvs
  telemetryQueue := []
  connected := false
  sequence := ⟨0, 0, sequenceHi⟩
  offlineQueueDrop := false
  aggregation := .sampling
  communication := .top
  published := []
  evictedSincePeek := false

/-- The critical section that stores a record and raises the drop fault. -/
def TelemetryTasks.store (tasks : TelemetryTasks) (telemetry : IiotTelemetry) : TelemetryTasks :=
  let before := tasks.offline.queue.droppedMessageCount
  let pushed := (gatewayOfflinePush tasks.offline telemetry).run nvsDevice tasks.nvs
  let dropped : Bool := pushed.1.2.queue.droppedMessageCount ≠ before
  { tasks with
    offline := pushed.1.2
    nvs := pushed.2
    offlineQueueDrop := tasks.offlineQueueDrop || dropped
    evictedSincePeek := tasks.evictedSincePeek || dropped }

/-- The critical section that removes the oldest record, and whether it did. -/
def TelemetryTasks.remove (tasks : TelemetryTasks) : Bool × TelemetryTasks :=
  let popped := (gatewayOfflinePop tasks.offline).run nvsDevice tasks.nvs
  (popped.1.1, { tasks with offline := popped.1.2.2, nvs := popped.2 })

/-- One step of the tasks or the link. -/
def telemetryStep (tasks : TelemetryTasks) : TelemetryEvent → TelemetryTasks
  | .connect => { tasks with connected := true }
  | .disconnect => { tasks with connected := false }
  | .aggregate telemetry =>
      match tasks.aggregation with
      | .sampling =>
          let (sequence, counter) := gatewayNextSequence tasks.sequence
          { tasks with
            sequence := counter
            aggregation := .sending { telemetry with sequence := sequence, replayed := false } }
      | _ => tasks
  | .send =>
      match tasks.aggregation with
      | .sending telemetry =>
          if tasks.telemetryQueue.length < telemetryQueueLength then
            { tasks with
              telemetryQueue := tasks.telemetryQueue ++ [telemetry]
              aggregation := .sampling }
          else
            tasks
      | _ => tasks
  | .sendTimeout =>
      match tasks.aggregation with
      | .sending telemetry =>
          if tasks.telemetryQueue.length < telemetryQueueLength then tasks
          else { tasks with aggregation := .storing telemetry }
      | _ => tasks
  | .storeAggregated =>
      match tasks.aggregation with
      | .storing telemetry => { tasks.store telemetry with aggregation := .sampling }
      | _ => tasks
  | .check =>
      match tasks.communication with
      | .top => { tasks with communication := if tasks.connected then .peeking else .receiving }
      | _ => tasks
  | .peek =>
      match tasks.communication with
      | .peeking =>
          match iiotOfflineQueuePeek tasks.offline.queue with
          | none => { tasks with communication := .receiving }
          | some replay =>
              { tasks with
                communication := .replaying { replay with replayed := true }
                evictedSincePeek := false }
      | _ => tasks
  | .publishReplay accepted =>
      match tasks.communication with
      | .replaying replay =>
          if tasks.connected && accepted then
            { tasks with
              communication := .popping replay
              published := tasks.published ++ [replay] }
          else
            { tasks with communication := .receiving }
      | _ => tasks
  | .pop =>
      match tasks.communication with
      | .popping _ =>
          let (removed, tasks) := tasks.remove
          { tasks with communication := if removed then .peeking else .receiving }
      | _ => tasks
  | .receive =>
      match tasks.communication, tasks.telemetryQueue with
      | .receiving, telemetry :: rest =>
          { tasks with telemetryQueue := rest, communication := .publishing telemetry }
      | _, _ => tasks
  | .receiveTimeout =>
      match tasks.communication, tasks.telemetryQueue with
      | .receiving, [] => { tasks with communication := .top }
      | _, _ => tasks
  | .publishReceived accepted =>
      match tasks.communication with
      | .publishing telemetry =>
          if tasks.connected && accepted then
            { tasks with
              communication := .top
              published := tasks.published ++ [telemetry] }
          else
            { tasks with communication := .storing telemetry }
      | _ => tasks
  | .storeReceived =>
      match tasks.communication with
      | .storing telemetry => { tasks.store telemetry with communication := .top }
      | _ => tasks

/-! ### Properties of a step -/

/-- The ring, oldest record first. -/
def TelemetryTasks.ring (tasks : TelemetryTasks) : List IiotTelemetry := tasks.offline.queue.items

/-- A step takes a record from the ring only by a pop of the record that was published last, or by an
eviction it counts. -/
def LossAccounted (tasks : TelemetryTasks) (event : TelemetryEvent) : Prop :=
  let after := telemetryStep tasks event
  (∃ added, after.ring = tasks.ring ++ added) ∨
    (∃ telemetry, after.ring = tasks.ring.tail ++ [telemetry] ∧
      after.offline.queue.droppedMessageCount = tasks.offline.queue.droppedMessageCount + 1) ∨
    ∃ oldest, tasks.ring = oldest :: after.ring ∧
      tasks.published.getLast? = some { oldest with replayed := true }

/-- No record was evicted between the peek of a replay and its pop. -/
def PopsPeeked (tasks : TelemetryTasks) (event : TelemetryEvent) : Prop :=
  match event, tasks.communication with
  | .pop, .popping _ => tasks.evictedSincePeek = false
  | _, _ => True

/-- Publication was in sequence order so far, the ring is in sequence order, and nothing older than a
published record waits in the ring or in `telemetry_queue`. -/
def OldestFirst (tasks : TelemetryTasks) : Prop :=
  tasks.published.Pairwise (fun earlier later => earlier.sequence < later.sequence) ∧
    tasks.ring.Pairwise (fun earlier later => earlier.sequence < later.sequence) ∧
    ∀ published ∈ tasks.published, ∀ waiting ∈ tasks.ring ++ tasks.telemetryQueue,
      published.sequence ≤ waiting.sequence

/-- The conditions of ordered publication: sequence numbers do not wrap, `telemetry_queue` has room
before a send times out, and a received record is not published while the ring holds any. -/
def KeepsOrder (tasks : TelemetryTasks) (event : TelemetryEvent) : Prop :=
  match event, tasks.aggregation, tasks.communication with
  | .aggregate _, .sampling, _ =>
      (tasks.sequence.sequenceHi.getD 0).toNat + sequenceReservation.toNat < 2 ^ 64 - 1
  | .sendTimeout, .sending _, _ => tasks.telemetryQueue.length < telemetryQueueLength
  | .publishReceived accepted, _, .publishing _ =>
      (tasks.connected && accepted) = true → tasks.ring = []
  | _, _, _ => True

end IiotMonitoring
