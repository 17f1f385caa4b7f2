import IiotMonitoring.Proof.NvsRules

/-!
# What the flash holds

The flash holds a ring when its metadata blob is the image of the ring's cursors and every live slot
blob is the image of the record there. What was stored is read back, distinct keys do not disturb each
other, and so each write of the protocol changes exactly one of the three parts: the metadata, one
slot, or the journal.
-/

namespace IiotMonitoring

/-! ### Keys -/

theorem slotKey_inj {left right : Nat} (hleft : left < 32) (hright : right < 32)
    (h : slotKey left = slotKey right) : left = right := by
  have hinj : ∀ left right : Fin 32, slotKey left = slotKey right → left = right := by decide
  exact Fin.mk.inj_iff.mp (hinj ⟨left, hleft⟩ ⟨right, hright⟩ h)

theorem slotKey_ne_reserved {slot : Nat} (hslot : slot < 32) :
    slotKey slot ≠ "queue_meta" ∧ slotKey slot ≠ "q_pending" := by
  have hne : ∀ slot : Fin 32, slotKey slot ≠ "queue_meta" ∧ slotKey slot ≠ "q_pending" := by decide
  exact hne ⟨slot, hslot⟩

/-! ### Well-formed queues -/

/-- The bounds `gateway_offline_load` checks and every operation keeps. -/
structure IiotOfflineQueue.WellFormed (queue : IiotOfflineQueue) : Prop where
  capacity_pos : 0 < queue.capacity
  capacity_le : queue.capacity ≤ 32
  head_lt : queue.head < queue.capacity
  count_le : queue.count ≤ queue.capacity

/-- The slot `offset` places behind the oldest record. -/
def IiotOfflineQueue.slot (queue : IiotOfflineQueue) (offset : Nat) : Nat :=
  ringSlot queue.capacity queue.head offset

theorem IiotOfflineQueue.WellFormed.slot_lt {queue : IiotOfflineQueue} (hqueue : queue.WellFormed)
    (offset : Nat) : queue.slot offset < 32 :=
  (ringSlot_lt hqueue.capacity_pos _ _).trans_le hqueue.capacity_le

theorem wellFormed_freshState {capacity : Nat} (hpos : 0 < capacity) (hle : capacity ≤ 32) :
    (freshState capacity).queue.WellFormed ∧ (freshState capacity).queue.capacity = capacity := by
  have hcapacity : (freshState capacity).queue.capacity = capacity :=
    if_neg (by simp only [iiotOfflineCapacityMax]; omega)
  refine ⟨⟨by omega, by omega, ?_, Nat.zero_le _⟩, hcapacity⟩
  rw [hcapacity]
  exact hpos

/-! ### The stored images read back -/

theorem QueueMetadata.crc_sealed (metadata : QueueMetadata) : metadata.sealed.crc = metadata.crc := by
  have htake : ∀ metadata : QueueMetadata,
      (queueMetadataLayout.encode metadata).take queueMetadataHeaderLayout.size =
        queueMetadataHeaderLayout.encode (metadata.magic, metadata.generation, metadata.dropped,
          metadata.head, metadata.count, metadata.capacity, metadata.reserved) := fun metadata =>
    Layout.take_encode_pair queueMetadataHeaderLayout Layout.u32 (_, metadata.checksum)
  simp only [QueueMetadata.crc, htake, QueueMetadata.sealed]

theorem PendingEnqueue.crc_sealed (pending : PendingEnqueue) : pending.sealed.crc = pending.crc := by
  have htake : ∀ pending : PendingEnqueue,
      (pendingEnqueueLayout.encode pending).take pendingEnqueueHeaderLayout.size =
        pendingEnqueueHeaderLayout.encode (pending.magic, pending.previousGeneration,
          pending.telemetry) := fun pending =>
    Layout.take_encode_pair pendingEnqueueHeaderLayout _ (_, pending.checksum, ())
  simp only [PendingEnqueue.crc, htake, PendingEnqueue.sealed]

theorem toNat_ofNat_of_le_32 {value : Nat} (h : value ≤ 32) : (UInt8.ofNat value).toNat = value := by
  rw [UInt8.toNat_ofNat']
  exact Nat.mod_eq_of_lt (by omega)

/-- The image `save_queue_metadata` stores. -/
def OfflineState.metadata (state : OfflineState) : QueueMetadata :=
  (QueueMetadata.ofState state).sealed

/-- The image `save_pending_enqueue` stores. -/
def pendingOf (generation : UInt32) (telemetry : IiotTelemetry) : PendingEnqueue :=
  PendingEnqueue.sealed ⟨pendingEnqueueMagic, generation, telemetry, 0⟩

/-- **Metadata round trip.** What `save_queue_metadata` stores passes every check of the load. -/
theorem readQueueMetadata_metadata {state : OfflineState} (hstate : state.queue.WellFormed) :
    readQueueMetadata (.ok (queueMetadataLayout.encode state.metadata)) = some state.metadata := by
  have hhead := hstate.head_lt
  have hcount := hstate.count_le
  have hcapacity := hstate.capacity_le
  have hpos := hstate.capacity_pos
  have hcrc : state.metadata.checksum = state.metadata.crc :=
    (QueueMetadata.crc_sealed (QueueMetadata.ofState state)).symm
  have hcapacityNat : (state.metadata.capacity).toNat = state.queue.capacity :=
    toNat_ofNat_of_le_32 hcapacity
  have hcountNat : (state.metadata.count).toNat = state.queue.count :=
    toNat_ofNat_of_le_32 (by omega)
  have hheadNat : (state.metadata.head).toNat = state.queue.head :=
    toNat_ofNat_of_le_32 (by omega)
  simp only [readQueueMetadata, Layout.decode_encode, Layout.length_encode]
  rw [if_neg]
  rintro (h | h | h | h | h | h | h)
  · exact h rfl
  · exact h rfl
  · exact h hcrc
  · have : (state.metadata.capacity).toNat = 0 := by rw [h]; rfl
    omega
  · simp only [iiotOfflineCapacityMax] at h
    omega
  · have := UInt8.lt_iff_toNat_lt.mp h
    omega
  · have := UInt8.le_iff_toNat_le.mp h
    omega

/-- The load's cursors are those that were stored; its records are still blank. -/
theorem toState_metadata {state : OfflineState} (hstate : state.queue.WellFormed) :
    state.metadata.toState =
      { state with queue := { state.queue with records := fun _ => telemetryLayout.zero } } := by
  have hhead := hstate.head_lt
  have hcount := hstate.count_le
  have hcapacity := hstate.capacity_le
  have hpos := hstate.capacity_pos
  have hcapacityNat : (state.metadata.capacity).toNat = state.queue.capacity :=
    toNat_ofNat_of_le_32 hcapacity
  have hcountNat : (state.metadata.count).toNat = state.queue.count :=
    toNat_ofNat_of_le_32 (by omega)
  have hheadNat : (state.metadata.head).toNat = state.queue.head :=
    toNat_ofNat_of_le_32 (by omega)
  have hinit : ¬ (state.queue.capacity = 0 ∨ state.queue.capacity > iiotOfflineCapacityMax) := by
    simp only [iiotOfflineCapacityMax]
    omega
  simp only [QueueMetadata.toState, hcapacityNat, hcountNat, hheadNat, iiotOfflineQueueInit,
    if_neg hinit]
  rfl

/-- **Journal round trip.** -/
theorem readPendingEnqueue_pendingOf (generation : UInt32) (telemetry : IiotTelemetry) :
    readPendingEnqueue (.ok (pendingEnqueueLayout.encode (pendingOf generation telemetry))) =
      some (pendingOf generation telemetry) := by
  have hcrc : (pendingOf generation telemetry).checksum = (pendingOf generation telemetry).crc :=
    (PendingEnqueue.crc_sealed _).symm
  simp only [readPendingEnqueue, Layout.decode_encode, Layout.length_encode]
  rw [if_neg]
  rintro (h | h | h)
  · exact h rfl
  · exact h rfl
  · exact h hcrc

/-! ### The three parts of the stored queue -/

namespace Nvs

def storeMetadata (nvs : Nvs) (state : OfflineState) : Nvs :=
  nvs.set "queue_meta" (queueMetadataLayout.encode state.metadata)

def storeRecord (nvs : Nvs) (slot : Nat) (telemetry : IiotTelemetry) : Nvs :=
  nvs.set (slotKey slot) (telemetryLayout.encode telemetry)

def storeJournal (nvs : Nvs) (generation : UInt32) (telemetry : IiotTelemetry) : Nvs :=
  nvs.set "q_pending" (pendingEnqueueLayout.encode (pendingOf generation telemetry))

def eraseJournal (nvs : Nvs) : Nvs := nvs.erase "q_pending"

/-- The stored cursors are the state's. A flash without metadata stands for the fresh state the load
would store. -/
def HoldsCursors (nvs : Nvs) (capacity : Nat) (state : OfflineState) : Prop :=
  (nvs "queue_meta" = none ∧ state = freshState capacity) ∨
    nvs "queue_meta" = some (queueMetadataLayout.encode state.metadata)

/-- Every live slot of the queue holds its record. -/
def HoldsRecords (nvs : Nvs) (queue : IiotOfflineQueue) : Prop :=
  ∀ offset < queue.count,
    nvs (slotKey (queue.slot offset)) =
      some (telemetryLayout.encode (queue.records (queue.slot offset)))

/-- The journal is empty, or holds an entry that was stored in full. -/
def HoldsJournal (nvs : Nvs) : Option (UInt32 × IiotTelemetry) → Prop
  | none => nvs "q_pending" = none
  | some (generation, telemetry) =>
      nvs "q_pending" = some (pendingEnqueueLayout.encode (pendingOf generation telemetry))

variable {nvs : Nvs} {capacity : Nat} {state : OfflineState} {queue : IiotOfflineQueue}

/-! A part is untouched by a write elsewhere. -/

theorem HoldsCursors.of_eq {nvs' : Nvs} (h : nvs.HoldsCursors capacity state)
    (hsame : nvs' "queue_meta" = nvs "queue_meta") : nvs'.HoldsCursors capacity state := by
  unfold HoldsCursors
  rw [hsame]
  exact h

theorem HoldsRecords.of_eq {nvs' : Nvs} (h : nvs.HoldsRecords queue)
    (hsame : ∀ offset < queue.count,
      nvs' (slotKey (queue.slot offset)) = nvs (slotKey (queue.slot offset))) :
    nvs'.HoldsRecords queue := by
  intro offset hoffset
  rw [hsame offset hoffset]
  exact h offset hoffset

theorem HoldsJournal.of_eq {nvs' : Nvs} {journal : Option (UInt32 × IiotTelemetry)}
    (h : nvs.HoldsJournal journal) (hsame : nvs' "q_pending" = nvs "q_pending") :
    nvs'.HoldsJournal journal := by
  cases journal with
  | none => exact hsame.trans h
  | some entry => exact hsame.trans h

theorem holdsCursors_storeMetadata : (nvs.storeMetadata state).HoldsCursors capacity state :=
  .inr (set_self ..)

theorem holdsCursors_storeRecord {slot : Nat} (hslot : slot < 32) (telemetry : IiotTelemetry)
    (h : nvs.HoldsCursors capacity state) :
    (nvs.storeRecord slot telemetry).HoldsCursors capacity state :=
  h.of_eq (set_of_ne _ _ (slotKey_ne_reserved hslot).1.symm)

theorem holdsCursors_storeJournal (generation : UInt32) (telemetry : IiotTelemetry)
    (h : nvs.HoldsCursors capacity state) :
    (nvs.storeJournal generation telemetry).HoldsCursors capacity state :=
  h.of_eq (set_of_ne _ _ (by decide))

theorem holdsCursors_eraseJournal (h : nvs.HoldsCursors capacity state) :
    nvs.eraseJournal.HoldsCursors capacity state :=
  h.of_eq (erase_of_ne _ (by decide))

theorem holdsCursors_eraseSlot {slot : Nat} (hslot : slot < 32)
    (h : nvs.HoldsCursors capacity state) : (nvs.erase (slotKey slot)).HoldsCursors capacity state :=
  h.of_eq (erase_of_ne _ (slotKey_ne_reserved hslot).1.symm)

theorem holdsRecords_storeMetadata (hqueue : queue.WellFormed) (h : nvs.HoldsRecords queue) :
    (nvs.storeMetadata state).HoldsRecords queue :=
  h.of_eq fun offset _ => set_of_ne _ _ (slotKey_ne_reserved (hqueue.slot_lt offset)).1

theorem holdsRecords_storeJournal (hqueue : queue.WellFormed) (generation : UInt32)
    (telemetry : IiotTelemetry) (h : nvs.HoldsRecords queue) :
    (nvs.storeJournal generation telemetry).HoldsRecords queue :=
  h.of_eq fun offset _ => set_of_ne _ _ (slotKey_ne_reserved (hqueue.slot_lt offset)).2

theorem holdsRecords_eraseJournal (hqueue : queue.WellFormed) (h : nvs.HoldsRecords queue) :
    nvs.eraseJournal.HoldsRecords queue :=
  h.of_eq fun offset _ => erase_of_ne _ (slotKey_ne_reserved (hqueue.slot_lt offset)).2

theorem holdsJournal_storeMetadata {journal : Option (UInt32 × IiotTelemetry)}
    (h : nvs.HoldsJournal journal) : (nvs.storeMetadata state).HoldsJournal journal :=
  h.of_eq (set_of_ne _ _ (by decide))

theorem holdsJournal_storeRecord {journal : Option (UInt32 × IiotTelemetry)} {slot : Nat}
    (hslot : slot < 32) (telemetry : IiotTelemetry) (h : nvs.HoldsJournal journal) :
    (nvs.storeRecord slot telemetry).HoldsJournal journal :=
  h.of_eq (set_of_ne _ _ (slotKey_ne_reserved hslot).2.symm)

theorem holdsJournal_storeJournal (generation : UInt32) (telemetry : IiotTelemetry) :
    (nvs.storeJournal generation telemetry).HoldsJournal (some (generation, telemetry)) :=
  set_self ..

theorem holdsJournal_eraseJournal : nvs.eraseJournal.HoldsJournal none :=
  erase_self ..

theorem holdsJournal_eraseSlot {journal : Option (UInt32 × IiotTelemetry)} {slot : Nat}
    (hslot : slot < 32) (h : nvs.HoldsJournal journal) :
    (nvs.erase (slotKey slot)).HoldsJournal journal :=
  h.of_eq (erase_of_ne _ (slotKey_ne_reserved hslot).2.symm)

/-! ### Slot writes -/

/-- A write to a slot that is not live leaves the queue's records. -/
theorem holdsRecords_storeRecord_of_dead (hqueue : queue.WellFormed) {slot : Nat} (hslot : slot < 32)
    (hdead : ∀ offset < queue.count, queue.slot offset ≠ slot) (telemetry : IiotTelemetry)
    (h : nvs.HoldsRecords queue) : (nvs.storeRecord slot telemetry).HoldsRecords queue :=
  h.of_eq fun offset hoffset =>
    set_of_ne _ _ fun heq => hdead offset hoffset (slotKey_inj (hqueue.slot_lt offset) hslot heq)

theorem holdsRecords_eraseSlot_of_dead (hqueue : queue.WellFormed) {slot : Nat} (hslot : slot < 32)
    (hdead : ∀ offset < queue.count, queue.slot offset ≠ slot) (h : nvs.HoldsRecords queue) :
    (nvs.erase (slotKey slot)).HoldsRecords queue :=
  h.of_eq fun offset hoffset =>
    erase_of_ne _ fun heq => hdead offset hoffset (slotKey_inj (hqueue.slot_lt offset) hslot heq)

/-- A slot write is a write to the queue's records, whether or not the slot is live. -/
theorem holdsRecords_storeRecord (hqueue : queue.WellFormed) {slot : Nat} (hslot : slot < 32)
    (telemetry : IiotTelemetry) (h : nvs.HoldsRecords queue) :
    (nvs.storeRecord slot telemetry).HoldsRecords
      { queue with records := Function.update queue.records slot telemetry } := by
  intro offset hoffset
  show (nvs.storeRecord slot telemetry) (slotKey (queue.slot offset)) =
    some (telemetryLayout.encode
      (Function.update queue.records slot telemetry (queue.slot offset)))
  by_cases heq : queue.slot offset = slot
  · rw [heq, Function.update_self]
    exact set_self ..
  · rw [Function.update_of_ne heq]
    have hkey : slotKey (queue.slot offset) ≠ slotKey slot := fun hkey =>
      heq (slotKey_inj (hqueue.slot_lt offset) hslot hkey)
    exact (set_of_ne _ _ hkey).trans (h offset hoffset)

end Nvs

end IiotMonitoring
