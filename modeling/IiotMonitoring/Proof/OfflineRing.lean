import IiotMonitoring.Proof.OfflineLoad

/-!
# The ring in RAM and its image in flash

Enqueue and dequeue as operations on the list of records, and what they need of the flash: the slot an
enqueue writes, then the cursors it stores, make the flash hold the enqueued ring; the cursors of a
dequeue alone make it hold the dequeued one.
-/

namespace IiotMonitoring

/-! ### Enqueue and dequeue on lists -/

section Ring

variable {state : OfflineState}

theorem enqueueSlot_of_full {queue : IiotOfflineQueue} (hfull : queue.count = queue.capacity) :
    enqueueSlot queue = queue.head :=
  if_pos hfull

theorem enqueueSlot_of_lt {queue : IiotOfflineQueue} (hroom : queue.count < queue.capacity) :
    enqueueSlot queue = queue.slot queue.count :=
  if_neg hroom.ne

/-- In either case the slot is the one after the newest record. -/
theorem enqueueSlot_eq {queue : IiotOfflineQueue} (hqueue : queue.WellFormed) :
    enqueueSlot queue = queue.slot queue.count := by
  by_cases hfull : queue.count = queue.capacity
  · rw [enqueueSlot_of_full hfull, IiotOfflineQueue.slot, hfull, ringSlot_turn hqueue.head_lt]
  · exact if_neg hfull

theorem enqueueSlot_lt {queue : IiotOfflineQueue} (hqueue : queue.WellFormed) :
    enqueueSlot queue < 32 := by
  rw [enqueueSlot_eq hqueue]
  exact hqueue.slot_lt _

/-- A push on a full ring writes over the oldest record and moves the head past it. -/
theorem enqueue_of_full (hqueue : state.queue.WellFormed)
    (hfull : state.queue.count = state.queue.capacity) (telemetry : IiotTelemetry) :
    (state.enqueue telemetry).queue =
      { state.queue with
        records := Function.update state.queue.records state.queue.head telemetry
        head := state.queue.slot 1
        droppedMessageCount := state.queue.droppedMessageCount + 1 } := by
  have hpos := hqueue.capacity_pos
  have hcount : state.queue.count - 1 + 1 = state.queue.count := by omega
  have htail : ((state.queue.head + 1) % state.queue.capacity + (state.queue.count - 1)) %
      state.queue.capacity = state.queue.head := by
    rw [Nat.mod_add_mod, show state.queue.head + 1 + (state.queue.count - 1) =
      state.queue.head + state.queue.capacity by omega, Nat.add_mod_right]
    exact Nat.mod_eq_of_lt hqueue.head_lt
  simp only [OfflineState.enqueue, iiotOfflineQueuePush, if_pos hfull, hcount, htail]
  rfl

theorem enqueue_of_lt (hroom : state.queue.count < state.queue.capacity)
    (telemetry : IiotTelemetry) :
    (state.enqueue telemetry).queue =
      { state.queue with
        records := Function.update state.queue.records (state.queue.slot state.queue.count) telemetry
        count := state.queue.count + 1 } := by
  simp only [OfflineState.enqueue, iiotOfflineQueuePush, if_neg hroom.ne]
  rfl

@[simp]
theorem enqueue_queueGeneration (telemetry : IiotTelemetry) :
    (state.enqueue telemetry).queueGeneration = state.queueGeneration + 1 := rfl

@[simp]
theorem dequeue_queueGeneration :
    state.dequeue.queueGeneration = state.queueGeneration + 1 := rfl

theorem enqueue_capacity (hqueue : state.queue.WellFormed) (telemetry : IiotTelemetry) :
    (state.enqueue telemetry).queue.capacity = state.queue.capacity := by
  rcases hqueue.count_le.eq_or_lt with hfull | hroom
  · rw [enqueue_of_full hqueue hfull]
  · rw [enqueue_of_lt hroom]

theorem enqueue_wellFormed (hqueue : state.queue.WellFormed) (telemetry : IiotTelemetry) :
    (state.enqueue telemetry).queue.WellFormed := by
  rcases hqueue.count_le.eq_or_lt with hfull | hroom
  · rw [enqueue_of_full hqueue hfull]
    exact ⟨hqueue.capacity_pos, hqueue.capacity_le, ringSlot_lt hqueue.capacity_pos _ _,
      hqueue.count_le⟩
  · rw [enqueue_of_lt hroom]
    exact ⟨hqueue.capacity_pos, hqueue.capacity_le, hqueue.head_lt, hroom⟩

/-- **Enqueue.** The new record goes last, and a full ring gives up its oldest. -/
theorem items_enqueue (hqueue : state.queue.WellFormed) (telemetry : IiotTelemetry) :
    (state.enqueue telemetry).queue.items =
      (if state.queue.count = state.queue.capacity then state.queue.items.tail
        else state.queue.items) ++ [telemetry] := by
  rcases hqueue.count_le.eq_or_lt with hfull | hroom
  · rw [enqueue_of_full hqueue hfull, if_pos hfull]
    simp only [IiotOfflineQueue.items, hfull]
    exact ringItems_overwrite _ hqueue.head_lt _
  · rw [enqueue_of_lt hroom, if_neg hroom.ne]
    exact ringItems_enqueue _ hroom _

theorem dropped_enqueue (hqueue : state.queue.WellFormed) (telemetry : IiotTelemetry) :
    (state.enqueue telemetry).queue.droppedMessageCount =
      if state.queue.count = state.queue.capacity then state.queue.droppedMessageCount + 1
        else state.queue.droppedMessageCount := by
  rcases hqueue.count_le.eq_or_lt with hfull | hroom
  · rw [enqueue_of_full hqueue hfull, if_pos hfull]
  · rw [enqueue_of_lt hroom, if_neg hroom.ne]

/-- The ring with one record replaced. -/
def OfflineState.overwrite (state : OfflineState) (slot : Nat) (telemetry : IiotTelemetry) :
    OfflineState where
  queue := { state.queue with records := Function.update state.queue.records slot telemetry }
  queueGeneration := state.queueGeneration

theorem overwrite_wellFormed (hqueue : state.queue.WellFormed) (slot : Nat)
    (telemetry : IiotTelemetry) : (state.overwrite slot telemetry).queue.WellFormed :=
  ⟨hqueue.capacity_pos, hqueue.capacity_le, hqueue.head_lt, hqueue.count_le⟩

/-- An enqueue writes its slot whatever the slot held. -/
theorem enqueue_overwrite (hqueue : state.queue.WellFormed) (telemetry : IiotTelemetry) :
    (state.overwrite (enqueueSlot state.queue) telemetry).enqueue telemetry =
      state.enqueue telemetry := by
  have hext : ∀ left right : OfflineState, left.queue = right.queue →
      left.queueGeneration = right.queueGeneration → left = right := by
    rintro ⟨⟩ ⟨⟩ rfl rfl
    rfl
  have hover := overwrite_wellFormed hqueue (enqueueSlot state.queue) telemetry
  refine hext _ _ ?_ rfl
  rcases hqueue.count_le.eq_or_lt with hfull | hroom
  · rw [enqueue_of_full hqueue hfull, enqueue_of_full hover hfull, enqueueSlot_of_full hfull]
    simp only [OfflineState.overwrite, Function.update_idem]
    rfl
  · rw [enqueue_of_lt hroom,
      enqueue_of_lt (show (state.overwrite _ telemetry).queue.count < _ from hroom),
      enqueueSlot_of_lt hroom]
    simp only [OfflineState.overwrite, IiotOfflineQueue.slot, Function.update_idem]

theorem dequeue_wellFormed (hqueue : state.queue.WellFormed) : state.dequeue.queue.WellFormed where
  capacity_pos := hqueue.capacity_pos
  capacity_le := hqueue.capacity_le
  head_lt := ringSlot_lt hqueue.capacity_pos _ 1
  count_le := (Nat.sub_le _ 1).trans hqueue.count_le

/-- The slot `offset` behind the advanced head. -/
theorem dequeue_slot (offset : Nat) :
    state.dequeue.queue.slot offset = state.queue.slot (offset + 1) :=
  ringSlot_advance _ _ _

/-- **Dequeue.** The oldest record leaves. -/
theorem items_dequeue (hqueue : state.queue.WellFormed) (hcount : state.queue.count ≠ 0) :
    state.dequeue.queue.items = state.queue.items.tail := by
  obtain ⟨count, hsucc⟩ := Nat.exists_eq_succ_of_ne_zero hcount
  have hpred : state.queue.count - 1 = count := by omega
  show ringItems state.queue.records state.queue.capacity
    (ringSlot state.queue.capacity state.queue.head 1) (state.queue.count - 1) = _
  rw [hpred, ringItems_dequeue _ hqueue.head_lt, IiotOfflineQueue.items, hsucc]

theorem length_items (queue : IiotOfflineQueue) : queue.items.length = queue.count :=
  length_ringItems ..

/-- The record a peek copies out is the oldest. -/
theorem peek_eq_head? {queue : IiotOfflineQueue} (hqueue : queue.WellFormed) :
    iiotOfflineQueuePeek queue = queue.items.head? := by
  rw [iiotOfflineQueuePeek, IiotOfflineQueue.items]
  cases hcount : queue.count with
  | zero => rfl
  | succ count =>
      rw [if_neg (Nat.succ_ne_zero _), ringItems_eq_cons _ hqueue.head_lt]
      rfl

end Ring

/-- A record of its own for each sequence number. -/
def sampleRecord (sequence : UInt64) : IiotTelemetry :=
  { telemetryLayout.zero with sequence := sequence }

theorem enqueue_freshState_items {capacity : Nat} (hpos : 0 < capacity) (hle : capacity ≤ 32)
    (telemetry : IiotTelemetry) :
    ((freshState capacity).enqueue telemetry).queue.items = [telemetry] := by
  obtain ⟨hwell, hcapacity⟩ := wellFormed_freshState hpos hle
  rw [items_enqueue hwell, if_neg]
  · rfl
  · rw [hcapacity]
    exact hpos.ne

/-! ### The flash holds a ring -/

/-- The flash holds the ring of a state of this capacity. -/
structure Nvs.Holds (nvs : Nvs) (capacity : Nat) (state : OfflineState) : Prop where
  wellFormed : state.queue.WellFormed
  capacity_eq : state.queue.capacity = capacity
  cursors : nvs.HoldsCursors capacity state
  records : nvs.HoldsRecords state.queue

namespace Nvs

variable {nvs : Nvs} {capacity : Nat} {state : OfflineState}

theorem Holds.fresh (hpos : 0 < capacity) (hle : capacity ≤ 32) (habsent : nvs "queue_meta" = none) :
    nvs.Holds capacity (freshState capacity) where
  wellFormed := (wellFormed_freshState hpos hle).1
  capacity_eq := (wellFormed_freshState hpos hle).2
  cursors := .inl ⟨habsent, rfl⟩
  records := fun offset hoffset => absurd hoffset (Nat.not_lt_zero offset)

theorem Holds.storeJournal (h : nvs.Holds capacity state) (generation : UInt32)
    (telemetry : IiotTelemetry) : (nvs.storeJournal generation telemetry).Holds capacity state :=
  ⟨h.wellFormed, h.capacity_eq, holdsCursors_storeJournal _ _ h.cursors,
    holdsRecords_storeJournal h.wellFormed _ _ h.records⟩

theorem Holds.eraseJournal (h : nvs.Holds capacity state) : nvs.eraseJournal.Holds capacity state :=
  ⟨h.wellFormed, h.capacity_eq, holdsCursors_eraseJournal h.cursors,
    holdsRecords_eraseJournal h.wellFormed h.records⟩

/-- Storing the cursors of a ring whose records are in place makes the flash hold it. -/
theorem holds_storeMetadata (hwell : state.queue.WellFormed)
    (hcapacity : state.queue.capacity = capacity) (hrecords : nvs.HoldsRecords state.queue) :
    (nvs.storeMetadata state).Holds capacity state :=
  ⟨hwell, hcapacity, holdsCursors_storeMetadata, holdsRecords_storeMetadata hwell hrecords⟩

/-- A write to a dead slot leaves the ring. -/
theorem Holds.storeRecord_of_dead (h : nvs.Holds capacity state) {slot : Nat} (hslot : slot < 32)
    (hdead : ∀ offset < state.queue.count, state.queue.slot offset ≠ slot)
    (telemetry : IiotTelemetry) : (nvs.storeRecord slot telemetry).Holds capacity state :=
  ⟨h.wellFormed, h.capacity_eq, holdsCursors_storeRecord hslot _ h.cursors,
    holdsRecords_storeRecord_of_dead h.wellFormed hslot hdead _ h.records⟩

theorem Holds.eraseSlot_of_dead (h : nvs.Holds capacity state) {slot : Nat} (hslot : slot < 32)
    (hdead : ∀ offset < state.queue.count, state.queue.slot offset ≠ slot) :
    (nvs.erase (slotKey slot)).Holds capacity state :=
  ⟨h.wellFormed, h.capacity_eq, holdsCursors_eraseSlot hslot h.cursors,
    holdsRecords_eraseSlot_of_dead h.wellFormed hslot hdead h.records⟩

/-- The ring a load read is held where the stored one is. -/
theorem Holds.agrees (h : nvs.Holds capacity state) {loaded : OfflineState}
    (hagrees : loaded.Agrees state)
    (hmetadata : nvs "queue_meta" = some (queueMetadataLayout.encode loaded.metadata)) :
    nvs.Holds capacity loaded :=
  ⟨hagrees.wellFormed h.wellFormed, hagrees.capacity.trans h.capacity_eq, .inr hmetadata,
    hagrees.holdsRecords h.records⟩

/-! ### Enqueue and dequeue -/

/-- **Enqueue, first write.** With the record in its slot, every record of the enqueued ring is in
place. -/
theorem holdsRecords_enqueue (hwell : state.queue.WellFormed)
    (hrecords : nvs.HoldsRecords state.queue) (telemetry : IiotTelemetry) :
    (nvs.storeRecord (enqueueSlot state.queue) telemetry).HoldsRecords
      (state.enqueue telemetry).queue := by
  have hslot := enqueueSlot_lt hwell
  have hrewritten := holdsRecords_storeRecord hwell hslot telemetry hrecords
  intro offset hoffset
  rcases hwell.count_le.eq_or_lt with hfull | hroom
  · rw [enqueue_of_full hwell hfull] at hoffset ⊢
    rw [enqueueSlot_of_full hfull] at hrewritten ⊢
    -- Every slot of a full ring is live before and after.
    have hsame : ∃ before < state.queue.count,
        ringSlot state.queue.capacity (state.queue.slot 1) offset = state.queue.slot before := by
      rw [IiotOfflineQueue.slot, ringSlot_advance]
      by_cases hlast : offset + 1 = state.queue.capacity
      · have hpos := hwell.capacity_pos
        refine ⟨0, by omega, ?_⟩
        rw [hlast, ringSlot_turn hwell.head_lt]
        exact (ringSlot_zero hwell.head_lt).symm
      · exact ⟨offset + 1, by simp only at hoffset; omega, rfl⟩
    obtain ⟨before, hbefore, hslot⟩ := hsame
    have hlive := hrewritten before hbefore
    rw [IiotOfflineQueue.slot] at hlive
    simp only [IiotOfflineQueue.slot] at hslot ⊢
    rw [hslot]
    exact hlive
  · rw [enqueue_of_lt hroom] at hoffset ⊢
    rw [enqueueSlot_of_lt hroom] at hrewritten ⊢
    rcases Nat.lt_succ_iff_lt_or_eq.mp hoffset with hold | rfl
    · exact hrewritten offset hold
    · simp only [IiotOfflineQueue.slot, Function.update_self]
      exact set_self ..

/-- **Enqueue, second write.** Storing the new cursors completes it. -/
theorem Holds.enqueue (h : nvs.Holds capacity state) (telemetry : IiotTelemetry) :
    ((nvs.storeRecord (enqueueSlot state.queue) telemetry).storeMetadata
      (state.enqueue telemetry)).Holds capacity (state.enqueue telemetry) :=
  holds_storeMetadata (enqueue_wellFormed h.wellFormed telemetry)
    ((enqueue_capacity h.wellFormed telemetry).trans h.capacity_eq)
    (holdsRecords_enqueue h.wellFormed h.records telemetry)

/-- With room, the slot an enqueue writes is dead, and the stored ring is as it was. -/
theorem Holds.storeRecord_of_lt (h : nvs.Holds capacity state)
    (hroom : state.queue.count < state.queue.capacity) (telemetry : IiotTelemetry) :
    (nvs.storeRecord (enqueueSlot state.queue) telemetry).Holds capacity state := by
  refine h.storeRecord_of_dead (enqueueSlot_lt h.wellFormed) (fun offset hoffset heq => ?_) telemetry
  rw [enqueueSlot_of_lt hroom] at heq
  have := ringSlot_inj (hoffset.trans hroom) hroom heq
  omega

/-- On a full ring it replaces the oldest stored record. -/
theorem Holds.storeRecord_of_full (h : nvs.Holds capacity state)
    (hfull : state.queue.count = state.queue.capacity) (telemetry : IiotTelemetry) :
    (nvs.storeRecord (enqueueSlot state.queue) telemetry).Holds capacity
      (state.overwrite (enqueueSlot state.queue) telemetry) where
  wellFormed := overwrite_wellFormed h.wellFormed _ telemetry
  capacity_eq := h.capacity_eq
  cursors := by
    have hslot := enqueueSlot_lt h.wellFormed
    rcases h.cursors with ⟨-, hfresh⟩ | hpresent
    · have hcount : state.queue.count = 0 := by
        rw [hfresh]
        rfl
      have := h.wellFormed.capacity_pos
      omega
    · exact .inr ((set_of_ne _ _ (slotKey_ne_reserved hslot).1.symm).trans hpresent)
  records := holdsRecords_storeRecord h.wellFormed (enqueueSlot_lt h.wellFormed) telemetry h.records

/-- Either way the stored ring is one on which the enqueue has the same effect. -/
theorem Holds.storeRecord (h : nvs.Holds capacity state) (telemetry : IiotTelemetry) :
    ∃ written : OfflineState,
      (nvs.storeRecord (enqueueSlot state.queue) telemetry).Holds capacity written ∧
        written.queueGeneration = state.queueGeneration ∧
        written.enqueue telemetry = state.enqueue telemetry := by
  rcases h.wellFormed.count_le.eq_or_lt with hfull | hroom
  · exact ⟨_, h.storeRecord_of_full hfull telemetry, rfl,
      enqueue_overwrite h.wellFormed telemetry⟩
  · exact ⟨state, h.storeRecord_of_lt hroom telemetry, rfl, rfl⟩

theorem holdsRecords_dequeue (hrecords : nvs.HoldsRecords state.queue) :
    nvs.HoldsRecords state.dequeue.queue := by
  intro offset hoffset
  rw [dequeue_slot]
  have hcount : state.dequeue.queue.count = state.queue.count - 1 := rfl
  exact hrecords (offset + 1) (by omega)

/-- **Dequeue.** Storing the advanced cursors is all of it. -/
theorem Holds.dequeue (h : nvs.Holds capacity state) :
    (nvs.storeMetadata state.dequeue).Holds capacity state.dequeue :=
  holds_storeMetadata (dequeue_wellFormed h.wellFormed) h.capacity_eq
    (holdsRecords_dequeue h.records)

/-- The slot of the record that left is dead. -/
theorem Holds.eraseHead (h : nvs.Holds capacity state.dequeue) (hwell : state.queue.WellFormed) :
    (nvs.erase (slotKey state.queue.head)).Holds capacity state.dequeue := by
  have hhead : state.queue.head < 32 := hwell.head_lt.trans_le hwell.capacity_le
  refine h.eraseSlot_of_dead hhead fun offset hoffset heq => ?_
  have hbound : offset + 1 < state.queue.capacity := by
    have hlive : state.dequeue.queue.count = state.queue.count - 1 := rfl
    have := hwell.count_le
    omega
  have hzero : state.queue.slot (offset + 1) = state.queue.slot 0 := by
    rw [← dequeue_slot, heq]
    exact (ringSlot_zero hwell.head_lt).symm
  have := ringSlot_inj hbound hwell.capacity_pos hzero
  omega

end Nvs

end IiotMonitoring
