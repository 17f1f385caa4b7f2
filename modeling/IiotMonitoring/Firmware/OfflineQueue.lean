import IiotMonitoring.Firmware.Telemetry
import Mathlib.Logic.Function.Basic

/-!
# The offline ring in RAM

`iiot_offline_queue_t` and its operations from `iiot_core.c`, with the checksum the stored structures
carry.
-/

namespace IiotMonitoring

/-- One bit of `iiot_crc32`'s inner loop. -/
def crc32Bit (crc : UInt32) : UInt32 :=
  let mask := 0 - (crc &&& 1)
  (crc >>> 1) ^^^ (0xedb88320 &&& mask)

def crc32Byte (crc : UInt32) (byte : UInt8) : UInt32 :=
  (List.range 8).foldl (fun value _ => crc32Bit value) (crc ^^^ byte.toUInt32)

def iiotCrc32 (data : List UInt8) : UInt32 :=
  ~~~ data.foldl crc32Byte 0xffffffff

/-- `IIOT_OFFLINE_CAPACITY_MAX`. -/
def iiotOfflineCapacityMax : Nat := 32

/-- `iiot_offline_queue_t`. The indices used are below the capacity. -/
structure IiotOfflineQueue where
  records : Nat → IiotTelemetry
  droppedMessageCount : UInt32
  head : Nat
  count : Nat
  capacity : Nat

def iiotOfflineQueueInit (capacity : Nat) : IiotOfflineQueue where
  records := fun _ => telemetryLayout.zero
  droppedMessageCount := 0
  head := 0
  count := 0
  capacity :=
    if capacity = 0 ∨ capacity > iiotOfflineCapacityMax then iiotOfflineCapacityMax else capacity

def iiotOfflineQueuePush (queue : IiotOfflineQueue) (telemetry : IiotTelemetry) :
    Bool × IiotOfflineQueue :=
  let dropped := queue.count = queue.capacity
  let queue :=
    if queue.count = queue.capacity then
      { queue with
        head := (queue.head + 1) % queue.capacity
        count := queue.count - 1
        droppedMessageCount := queue.droppedMessageCount + 1 }
    else
      queue
  let tail := (queue.head + queue.count) % queue.capacity
  (!dropped,
    { queue with
      records := Function.update queue.records tail telemetry
      count := queue.count + 1 })

/-- The record `iiot_offline_queue_peek` copies out, if it returns true. -/
def iiotOfflineQueuePeek (queue : IiotOfflineQueue) : Option IiotTelemetry :=
  if queue.count = 0 then none else some (queue.records queue.head)

/-- The record `iiot_offline_queue_pop` copies out and the queue it leaves, if it returns true. -/
def iiotOfflineQueuePop (queue : IiotOfflineQueue) : Option (IiotTelemetry × IiotOfflineQueue) :=
  match iiotOfflineQueuePeek queue with
  | none => none
  | some telemetry =>
      some (telemetry,
        { queue with head := (queue.head + 1) % queue.capacity, count := queue.count - 1 })

end IiotMonitoring
