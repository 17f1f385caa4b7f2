import IiotMonitoring.Proof.OfflineCrash

/-!
# Acknowledged records survive flash errors

When NVS calls may fail, RAM can run ahead of the flash: a push whose metadata write fails leaves RAM
with the enqueue and the flash without it. What keeps the acknowledged records is that RAM always
accounts for them, its records are always in their slots, and the flash accounts for them too unless
the oldest record of a full stored ring was overwritten, in which case the journal must still hold the
entry that did it. The condition on calls is what keeps that journal entry until it is needed.
-/

namespace IiotMonitoring

open Program

variable {mayFail : Prop} {capacity : Nat} {nvs nvs' : Nvs} {entries : List OfflineEntry}
  {entry : OfflineEntry} {state stored loaded : OfflineState}

/-! ### Accounting -/

/-- The ring accounts for every acknowledged record. -/
def Accounts (entries : List OfflineEntry) (queue : IiotOfflineQueue) : Prop :=
  Accounted entries queue.items queue.droppedMessageCount

theorem filterMap_concat {α β : Type} (f : α → Option β) (list : List α) (last : α) :
    (list ++ [last]).filterMap f = list.filterMap f ++ (f last).toList := by
  cases h : f last <;> simp [h]

/-- A call that acknowledges nothing and changes nothing in the ring. -/
theorem Accounts.of_silent {queue : IiotOfflineQueue} (h : Accounts entries queue)
    (hsilent : entry.acknowledged = none) : Accounts (entries ++ [entry]) queue := by
  obtain ⟨removed, hacks, hpops, hevictions, hdropped⟩ := h
  refine ⟨removed, ?_, ?_, ?_, hdropped⟩
  · rw [filterMap_concat, hsilent]
    simpa using hacks
  · rw [filterMap_concat]
    exact hpops.trans (List.sublist_append_left _ _)
  · rw [List.length_append]
    omega

/-- **Enqueue.** The record goes last; the one a full ring gives up is counted. -/
theorem Accounts.enqueue (h : Accounts entries state.queue) (hwell : state.queue.WellFormed)
    {telemetry : IiotTelemetry}
    (hentry : entry.acknowledged = none ∨ entry.acknowledged = some telemetry) :
    Accounts (entries ++ [entry]) (state.enqueue telemetry).queue := by
  obtain ⟨removed, hacks, hpops, hevictions, hdropped⟩ := h
  have hlast : entry.acknowledged.toList.Sublist [telemetry] := by
    rcases hentry with h | h <;> simp [h]
  have hgrown := hacks.append hlast
  rw [Accounts, items_enqueue hwell, dropped_enqueue hwell]
  split
  · rename_i hfull
    have hpos := hwell.capacity_pos
    obtain ⟨oldest, rest, hitems⟩ := List.exists_cons_of_length_pos
      (show 0 < state.queue.items.length by rw [length_items]; omega)
    rw [hitems] at hgrown
    rw [hitems, List.tail_cons]
    refine ⟨removed ++ [(.evicted, oldest)], ?_, ?_, ?_, ?_⟩
    · rw [filterMap_concat]
      simpa using hgrown
    · rw [filterMap_concat, removedBy, List.filter_append]
      simpa [removedBy] using hpops.trans (List.sublist_append_left _ _)
    · simpa [removedBy, List.filter_append] using hevictions
    · simp [removedBy, List.filter_append, hdropped, UInt32.ofNat_add]
  · refine ⟨removed, ?_, ?_, ?_, hdropped⟩
    · rw [filterMap_concat]
      simpa using hgrown
    · rw [filterMap_concat]
      exact hpops.trans (List.sublist_append_left _ _)
    · rw [List.length_append]
      omega

/-- **Dequeue.** The oldest record leaves with a pop of its own. -/
theorem Accounts.dequeue (h : Accounts entries state.queue) (hwell : state.queue.WellFormed)
    (hcount : state.queue.count ≠ 0) (hsilent : entry.acknowledged = none)
    (hpop : entry.savedPop = iiotOfflineQueuePeek state.queue) :
    Accounts (entries ++ [entry]) state.dequeue.queue := by
  obtain ⟨removed, hacks, hpops, hevictions, hdropped⟩ := h
  obtain ⟨oldest, rest, hitems⟩ := List.exists_cons_of_length_pos
    (show 0 < state.queue.items.length by rw [length_items]; omega)
  rw [peek_eq_head? hwell, hitems] at hpop
  rw [hitems] at hacks
  rw [Accounts, items_dequeue hwell hcount, hitems, List.tail_cons]
  have hsame : removedBy .evicted (removed ++ [(.popped, oldest)]) = removedBy .evicted removed := by
    simp [removedBy, List.filter_append]
  refine ⟨removed ++ [(.popped, oldest)], ?_, ?_, ?_, ?_⟩
  · rw [filterMap_concat, hsilent]
    simpa using hacks
  · rw [filterMap_concat, hpop, removedBy, List.filter_append]
    simpa [removedBy] using hpops
  · rw [hsame, List.length_append]
    omega
  · rw [hsame]
    exact hdropped

theorem OfflineState.Agrees.accounts (hagrees : loaded.Agrees stored)
    (h : Accounts entries stored.queue) : Accounts entries loaded.queue := by
  rw [Accounts, hagrees.items, hagrees.dropped]
  exact h

/-! ### The invariant -/

/-- The oldest record of a full stored ring was overwritten by the entry the journal still holds, and
the ring accounts for the acknowledged records once that entry is enqueued. -/
def Repairable (entries : List OfflineEntry) (stored : OfflineState)
    (journal : Option (UInt32 × IiotTelemetry)) : Prop :=
  stored.queue.count = stored.queue.capacity ∧
    ∃ telemetry, journal = some (stored.queueGeneration, telemetry) ∧
      stored.queue.records stored.queue.head = telemetry ∧
      Accounts entries (stored.enqueue telemetry).queue

/-- The flash accounts for the acknowledged records, as it is or with the journal's help. -/
structure FlashAccounts (capacity : Nat) (entries : List OfflineEntry) (nvs : Nvs)
    (stored : OfflineState) (journal : Option (UInt32 × IiotTelemetry)) : Prop where
  holds : nvs.Holds capacity stored
  entry : nvs.HoldsJournal journal
  accounts : Accounts entries stored.queue ∨ Repairable entries stored journal

/-- RAM accounts for them, with its records in their slots; it is `unsaved` enqueues ahead of the
flash, whose own records are intact while those fit beside them. -/
structure RamAccounts (capacity : Nat) (entries : List OfflineEntry) (nvs : Nvs)
    (stored : OfflineState) (unsaved : Nat) (state : OfflineState) : Prop where
  wellFormed : state.queue.WellFormed
  capacity_eq : state.queue.capacity = capacity
  records : nvs.HoldsRecords state.queue
  accounts : Accounts entries state.queue
  tail : state.queue.slot state.queue.count = stored.queue.slot (stored.queue.count + unsaved)
  intact : stored.queue.count + unsaved ≤ capacity → Accounts entries stored.queue
  current : unsaved = 0 → stored.queue.count = capacity →
    state.queueGeneration = stored.queueGeneration

/-- The invariant of runs. -/
def AcksSurvive (capacity : Nat) (entries : List OfflineEntry) (device : OfflineDevice) : Prop :=
  ∃ stored journal, FlashAccounts capacity entries device.nvs stored journal ∧
    ∀ state, device.ram = some state →
      RamAccounts capacity entries device.nvs stored device.unsaved state

theorem Repairable.of_silent {journal : Option (UInt32 × IiotTelemetry)}
    (h : Repairable entries stored journal) (hsilent : entry.acknowledged = none) :
    Repairable (entries ++ [entry]) stored journal := by
  obtain ⟨hfull, telemetry, hjournal, hhead, haccounts⟩ := h
  exact ⟨hfull, telemetry, hjournal, hhead, haccounts.of_silent hsilent⟩

theorem FlashAccounts.of_silent {journal : Option (UInt32 × IiotTelemetry)}
    (h : FlashAccounts capacity entries nvs stored journal) (hsilent : entry.acknowledged = none) :
    FlashAccounts capacity (entries ++ [entry]) nvs stored journal :=
  ⟨h.holds, h.entry, h.accounts.imp (·.of_silent hsilent) (·.of_silent hsilent)⟩

theorem RamAccounts.of_silent {unsaved : Nat}
    (h : RamAccounts capacity entries nvs stored unsaved state)
    (hsilent : entry.acknowledged = none) :
    RamAccounts capacity (entries ++ [entry]) nvs stored unsaved state :=
  ⟨h.wellFormed, h.capacity_eq, h.records, h.accounts.of_silent hsilent, h.tail,
    fun hfits => (h.intact hfits).of_silent hsilent, h.current⟩

/-- A ring that needs no repair, because its journal entry is missing or of another generation. -/
theorem FlashAccounts.intact {journal : Option (UInt32 × IiotTelemetry)}
    (h : FlashAccounts capacity entries nvs stored journal)
    (hjournal : ∀ telemetry, journal ≠ some (stored.queueGeneration, telemetry)) :
    Accounts entries stored.queue := by
  rcases h.accounts with haccounts | ⟨-, telemetry, hentry, -⟩
  · exact haccounts
  · exact absurd hentry (hjournal telemetry)

/-- With the journal's own entry enqueued, the ring accounts for everything either way. -/
theorem FlashAccounts.replay {telemetry : IiotTelemetry}
    (h : FlashAccounts capacity entries nvs stored (some (stored.queueGeneration, telemetry)))
    (hsilent : entry.acknowledged = none) :
    Accounts (entries ++ [entry]) (stored.enqueue telemetry).queue := by
  rcases h.accounts with haccounts | ⟨-, _, hentry, -, haccounts⟩
  · exact haccounts.enqueue h.holds.wellFormed (.inl hsilent)
  · obtain ⟨-, rfl⟩ := Prod.mk.inj (Option.some.inj hentry)
    exact haccounts.of_silent hsilent

/-- RAM that was just read from a ring that needs no repair. -/
theorem ramAccounts_self {journal : Option (UInt32 × IiotTelemetry)}
    (h : FlashAccounts capacity entries nvs stored journal)
    (haccounts : Accounts entries stored.queue) :
    RamAccounts capacity entries nvs stored 0 stored :=
  ⟨h.holds.wellFormed, h.holds.capacity_eq, h.holds.records, haccounts, rfl, fun _ => haccounts,
    fun _ _ => rfl⟩

/-! ### The three kinds of write -/

theorem slot_add (queue : IiotOfflineQueue) (offset later : Nat) :
    ringSlot queue.capacity (queue.slot offset) later = queue.slot (offset + later) := by
  simp [IiotOfflineQueue.slot, ringSlot, Nat.add_assoc]

/-- The slot after the newest record moves on by one. -/
theorem enqueue_tail (hwell : state.queue.WellFormed) (telemetry : IiotTelemetry) :
    (state.enqueue telemetry).queue.slot (state.enqueue telemetry).queue.count =
      state.queue.slot (state.queue.count + 1) := by
  rcases hwell.count_le.eq_or_lt with hfull | hroom
  · rw [enqueue_of_full hwell hfull]
    show ringSlot state.queue.capacity (state.queue.slot 1) state.queue.count = _
    rw [slot_add, Nat.add_comm]
  · rw [enqueue_of_lt hroom]
    rfl

/-- **Slot write.** It leaves the stored ring alone while the unsaved enqueues fit beside it. On a
full ring that is up to date it overwrites the oldest record, and the journal must hold the entry. -/
theorem accounts_storeRecord {journal : Option (UInt32 × IiotTelemetry)} {unsaved : Nat}
    {telemetry : IiotTelemetry} (hholds : nvs.Holds capacity stored)
    (hjournal : nvs.HoldsJournal journal) (hwell : state.queue.WellFormed)
    (hcapacity : state.queue.capacity = capacity) (hrecords : nvs.HoldsRecords state.queue)
    (htail : state.queue.slot state.queue.count =
      stored.queue.slot (stored.queue.count + unsaved))
    (hfits : (stored.queue.count + unsaved + 1 ≤ capacity ∧ Accounts entries stored.queue) ∨
      (unsaved = 0 ∧ stored.queue.count = capacity ∧
        journal = some (stored.queueGeneration, telemetry) ∧
        Accounts entries (stored.enqueue telemetry).queue))
    (haccounts : Accounts entries (state.enqueue telemetry).queue) :
    ∃ stored', FlashAccounts capacity entries
        (nvs.storeRecord (enqueueSlot state.queue) telemetry) stored' journal ∧
      RamAccounts capacity entries (nvs.storeRecord (enqueueSlot state.queue) telemetry) stored'
        (unsaved + 1) (state.enqueue telemetry) := by
  have hslot := enqueueSlot_lt hwell
  have hjournal' := Nvs.holdsJournal_storeRecord hslot telemetry hjournal
  have hrecords' := Nvs.holdsRecords_enqueue hwell hrecords telemetry
  have hwell' := enqueue_wellFormed hwell telemetry
  have hcapacity' := (enqueue_capacity hwell telemetry).trans hcapacity
  have htail' : (state.enqueue telemetry).queue.slot (state.enqueue telemetry).queue.count =
      stored.queue.slot (stored.queue.count + (unsaved + 1)) := by
    rw [enqueue_tail hwell, ← slot_add, htail, hcapacity, ← hholds.capacity_eq, slot_add,
      Nat.add_assoc]
  rcases hfits with ⟨hfits, hintact⟩ | ⟨rfl, hfull, hentry, hrepaired⟩
  · have hdead : ∀ offset < stored.queue.count, stored.queue.slot offset ≠
        enqueueSlot state.queue := by
      intro offset hoffset heq
      rw [enqueueSlot_eq hwell, htail] at heq
      have hlt := hholds.capacity_eq
      have := ringSlot_inj (by omega) (by omega) heq
      omega
    exact ⟨stored, ⟨hholds.storeRecord_of_dead hslot hdead telemetry, hjournal', .inl hintact⟩,
      hwell', hcapacity', hrecords', haccounts, htail', fun _ => hintact, by simp⟩
  · have hcapacityFull := hfull.trans hholds.capacity_eq.symm
    have hsame : enqueueSlot state.queue = enqueueSlot stored.queue := by
      rw [enqueueSlot_eq hwell, enqueueSlot_eq hholds.wellFormed, htail, Nat.add_zero]
    have hover := hholds.storeRecord_of_full hcapacityFull telemetry
    rw [hsame] at hjournal' hrecords' ⊢
    refine ⟨_, ⟨hover, hjournal', .inr ⟨hcapacityFull, telemetry, hentry, ?_, ?_⟩⟩,
      hwell', hcapacity', hrecords', haccounts, htail', fun h => ?_, by simp⟩
    · rw [enqueueSlot_of_full hcapacityFull]
      exact Function.update_self ..
    · rw [enqueue_overwrite hholds.wellFormed]
      exact hrepaired
    · have : stored.queue.count + (0 + 1) ≤ capacity := h
      omega

/-- **Metadata write.** With the cursors stored, the flash is up to date, whatever the journal. -/
theorem accounts_storeMetadata {journal : Option (UInt32 × IiotTelemetry)}
    (hjournal : nvs.HoldsJournal journal) (hwell : state.queue.WellFormed)
    (hcapacity : state.queue.capacity = capacity) (hrecords : nvs.HoldsRecords state.queue)
    (haccounts : Accounts entries state.queue) :
    FlashAccounts capacity entries (nvs.storeMetadata state) state journal ∧
      RamAccounts capacity entries (nvs.storeMetadata state) state 0 state := by
  have hflash : FlashAccounts capacity entries (nvs.storeMetadata state) state journal :=
    ⟨Nvs.holds_storeMetadata hwell hcapacity hrecords, Nvs.holdsJournal_storeMetadata hjournal,
      .inl haccounts⟩
  exact ⟨hflash, ramAccounts_self hflash haccounts⟩

/-- **Journal write or erasure.** A ring that needs no repair does not need the journal. -/
theorem FlashAccounts.storeJournal {journal : Option (UInt32 × IiotTelemetry)}
    (h : FlashAccounts capacity entries nvs stored journal)
    (haccounts : Accounts entries stored.queue) (generation : UInt32) (telemetry : IiotTelemetry) :
    FlashAccounts capacity entries (nvs.storeJournal generation telemetry) stored
      (some (generation, telemetry)) :=
  ⟨h.holds.storeJournal generation telemetry, Nvs.holdsJournal_storeJournal _ _, .inl haccounts⟩

theorem FlashAccounts.eraseJournal {journal : Option (UInt32 × IiotTelemetry)}
    (h : FlashAccounts capacity entries nvs stored journal)
    (haccounts : Accounts entries stored.queue) :
    FlashAccounts capacity entries nvs.eraseJournal stored none :=
  ⟨h.holds.eraseJournal, Nvs.holdsJournal_eraseJournal, .inl haccounts⟩

theorem RamAccounts.storeJournal {unsaved : Nat}
    (h : RamAccounts capacity entries nvs stored unsaved state) (generation : UInt32)
    (telemetry : IiotTelemetry) :
    RamAccounts capacity entries (nvs.storeJournal generation telemetry) stored unsaved state :=
  ⟨h.wellFormed, h.capacity_eq, Nvs.holdsRecords_storeJournal h.wellFormed _ _ h.records,
    h.accounts, h.tail, h.intact, h.current⟩

theorem RamAccounts.eraseJournal {unsaved : Nat}
    (h : RamAccounts capacity entries nvs stored unsaved state) :
    RamAccounts capacity entries nvs.eraseJournal stored unsaved state :=
  ⟨h.wellFormed, h.capacity_eq, Nvs.holdsRecords_eraseJournal h.wellFormed h.records,
    h.accounts, h.tail, h.intact, h.current⟩

/-! ### Counting unsaved enqueues -/

@[simp]
theorem unsavedAfter_nil (before : Nat) : unsavedAfter before [] = before := rfl

@[simp]
theorem unsavedAfter_journal (before : Nat) (keys : List String) :
    unsavedAfter before ("q_pending" :: keys) = unsavedAfter before keys := rfl

@[simp]
theorem unsavedAfter_metadata (before : Nat) (keys : List String) :
    unsavedAfter before ("queue_meta" :: keys) = unsavedAfter 0 keys := rfl

theorem unsavedAfter_slot {slot : Nat} (hslot : slot < 32) (before : Nat) (keys : List String) :
    unsavedAfter before (slotKey slot :: keys) = unsavedAfter (before + 1) keys := by
  obtain ⟨hmetadata, hjournal⟩ := slotKey_ne_reserved hslot
  rw [unsavedAfter, List.foldl_cons, if_neg hmetadata, if_neg hjournal]
  rfl

theorem storedCount_eq (hholds : nvs.Holds capacity stored) : nvs.storedCount = stored.queue.count := by
  rw [Nvs.storedCount]
  rcases hholds.cursors with ⟨habsent, rfl⟩ | hpresent
  · rw [Nvs.get_of_none habsent]
    rfl
  · rw [Nvs.get_of_some hpresent (Layout.length_encode _ _),
      readQueueMetadata_metadata hholds.wellFormed]
    exact toNat_ofNat_of_le_32 (hholds.wellFormed.count_le.trans hholds.wellFormed.capacity_le)

/-- A ring in need of repair is one whose head the journaled entry overwrote. -/
theorem Repairable.headOverwritten {journal : Option (UInt32 × IiotTelemetry)}
    (hholds : nvs.Holds capacity stored) (hjournal : nvs.HoldsJournal journal)
    (h : Repairable entries stored journal) : nvs.HeadOverwritten stored.metadata := by
  obtain ⟨hfull, telemetry, rfl, hhead, -⟩ := h
  have hwell := hholds.wellFormed
  have hpos := hwell.capacity_pos
  have hheadNat : stored.metadata.head.toNat = stored.queue.head :=
    toNat_ofNat_of_le_32 (hwell.head_lt.le.trans hwell.capacity_le)
  refine ⟨?_, congrArg UInt8.ofNat hfull, pendingOf stored.queueGeneration telemetry, ?_, rfl, ?_⟩
  · rcases hholds.cursors with ⟨-, hfresh⟩ | hpresent
    · have hcount : stored.queue.count = 0 := by
        rw [hfresh]
        rfl
      omega
    · rw [Nvs.get_of_some hpresent (Layout.length_encode _ _), readQueueMetadata_metadata hwell]
  · rw [Nvs.get_of_some hjournal (Layout.length_encode _ _)]
    exact readPendingEnqueue_pendingOf _ _
  · have hslot : stored.queue.slot 0 = stored.queue.head := ringSlot_zero hwell.head_lt
    have hrecord := hholds.records 0 (by omega)
    rw [hslot, hhead] at hrecord
    rw [hheadNat]
    exact hrecord

/-! ### Push -/

/-- A call that was cut or reported failure acknowledged nothing, and RAM is gone or as it left it. -/
theorem failed_outcome {call : OfflineCall} {trace : List (Answered NvsAnswer)}
    {returned : Option (Bool × OfflineState)}
    (houtcome : returned = none ∨ mayFail ∧ returned = some (false, state)) :
    OfflineEntry.acknowledged ⟨call, trace, returned.map OfflineResult.ofPair⟩ = none ∧
      ∀ left, (returned.map OfflineResult.ofPair).map OfflineResult.state = some left →
        left = state := by
  rcases houtcome with rfl | ⟨-, rfl⟩
  · cases call <;> simp [OfflineEntry.acknowledged]
  · cases call <;> simp [OfflineEntry.acknowledged, OfflineResult.ofPair, eq_comm]

theorem acksSurvive_push {device : OfflineDevice} {telemetry : IiotTelemetry}
    {trace : List (Answered NvsAnswer)} {returned : Option (Bool × OfflineState)}
    (hsurvive : AcksSurvive capacity entries device) (hram : device.ram = some state)
    (hrun : Exec (nvsAnswers mayFail) (gatewayOfflinePush state telemetry) device.nvs trace returned
      nvs')
    (hsafe : SafeCall capacity device
      ⟨.push state telemetry, trace, returned.map OfflineResult.ofPair⟩) :
    AcksSurvive capacity
      (entries ++ [⟨.push state telemetry, trace, returned.map OfflineResult.ofPair⟩])
      ⟨nvs', (returned.map OfflineResult.ofPair).map OfflineResult.state,
        unsavedAfter device.unsaved (storedKeys trace)⟩ := by
  obtain ⟨stored, journal, hflash, hrams⟩ := hsurvive
  have hstate := hrams state hram
  have hwell := hstate.wellFormed
  have hslot := enqueueSlot_lt hwell
  have hcount := hflash.holds.wellFormed.count_le.trans_eq hflash.holds.capacity_eq
  have hsafe : device.unsaved = 0 ∨ "q_pending" ∉ storedKeys trace ∨
      "queue_meta" ∈ storedKeys trace ∨
      stored.queue.count + unsavedAfter device.unsaved (storedKeys trace) ≤ capacity := by
    rw [← storedCount_eq hflash.holds]
    exact hsafe
  have hjournaled := hstate.storeJournal state.queueGeneration telemetry
  have hpending : (device.nvs.storeJournal state.queueGeneration telemetry).HoldsJournal
      (some (state.queueGeneration, telemetry)) := Nvs.holdsJournal_storeJournal _ _
  have hrecord := Nvs.holdsRecords_enqueue hwell hjournaled.records telemetry
  have hwell' := enqueue_wellFormed hwell telemetry
  have hcapacity' := (enqueue_capacity hwell telemetry).trans hstate.capacity_eq
  obtain ⟨hend, -⟩ := exec_gatewayOfflinePush hrun
  generalize storedKeys trace = keys at hend hsafe ⊢
  cases hend with
  | untouched houtcome =>
      obtain ⟨hsilent, hleft⟩ := failed_outcome houtcome
      refine ⟨stored, journal, hflash.of_silent hsilent, fun left hram' => ?_⟩
      rw [hleft left hram']
      exact hstate.of_silent hsilent
  | journaled houtcome =>
      obtain ⟨hsilent, hleft⟩ := failed_outcome houtcome
      have hintact : Accounts entries stored.queue := by
        refine hstate.intact ?_
        rcases hsafe with h | h | h | h
        · omega
        · simp at h
        · simp at h
        · simpa using h
      refine ⟨stored, _, (hflash.storeJournal hintact _ telemetry).of_silent hsilent,
        fun left hram' => ?_⟩
      rw [hleft left hram']
      exact hjournaled.of_silent hsilent
  | written houtcome =>
      obtain ⟨hsilent, hleft⟩ := failed_outcome houtcome
      rw [unsavedAfter_journal, unsavedAfter_slot hslot, unsavedAfter_nil] at hsafe ⊢
      obtain ⟨stored', hflash', hram'⟩ := accounts_storeRecord
        (hflash.holds.storeJournal state.queueGeneration telemetry) hpending hwell
        hstate.capacity_eq hjournaled.records hstate.tail (by
          have hreserved := slotKey_ne_reserved hslot
          rcases hsafe with h | h | h | h
          · have hintact := hstate.intact (by omega)
            rcases hcount.eq_or_lt with hfull | hroom
            · refine .inr ⟨h, hfull, ?_, hintact.enqueue hflash.holds.wellFormed (.inl hsilent)⟩
              rw [hstate.current h hfull]
            · exact .inl ⟨by omega, hintact.of_silent hsilent⟩
          · simp at h
          · simp [hreserved.1.symm] at h
          · exact .inl ⟨by omega, (hstate.intact (by omega)).of_silent hsilent⟩)
        (hstate.accounts.enqueue hwell (.inl hsilent))
      refine ⟨stored', _, hflash', fun left hleft' => ?_⟩
      rw [hleft left hleft']
      exact hram'
  | saved houtcome =>
      obtain ⟨hsilent, hleft⟩ := failed_outcome houtcome
      rw [unsavedAfter_journal, unsavedAfter_slot hslot, unsavedAfter_metadata, unsavedAfter_nil]
      obtain ⟨hflash', hram'⟩ := accounts_storeMetadata
        (Nvs.holdsJournal_storeRecord hslot telemetry hpending) hwell' hcapacity' hrecord
        (hstate.accounts.enqueue hwell (.inl hsilent))
      refine ⟨_, _, hflash', fun left hleft' => ?_⟩
      rw [hleft left hleft']
      exact hram'
  | erased houtcome =>
      rw [unsavedAfter_journal, unsavedAfter_slot hslot, unsavedAfter_metadata, unsavedAfter_nil]
      have hentry : OfflineEntry.acknowledged
            ⟨.push state telemetry, trace, returned.map OfflineResult.ofPair⟩ = none ∨
          OfflineEntry.acknowledged
            ⟨.push state telemetry, trace, returned.map OfflineResult.ofPair⟩ = some telemetry := by
        rcases houtcome with rfl | rfl | ⟨-, rfl⟩ <;>
          simp [OfflineEntry.acknowledged, OfflineResult.ofPair]
      have hleft : ∀ left, (returned.map OfflineResult.ofPair).map OfflineResult.state = some left →
          left = state.enqueue telemetry := by
        rcases houtcome with rfl | rfl | ⟨-, rfl⟩ <;> simp [OfflineResult.ofPair, eq_comm]
      have haccounts := hstate.accounts.enqueue hwell hentry
      obtain ⟨hflash', hram'⟩ := accounts_storeMetadata
        (Nvs.holdsJournal_storeRecord hslot telemetry hpending) hwell' hcapacity' hrecord haccounts
      refine ⟨_, _, hflash'.eraseJournal haccounts, fun left hleft' => ?_⟩
      rw [hleft left hleft']
      exact hram'.eraseJournal

/-! ### Pop -/

theorem acksSurvive_pop {device : OfflineDevice} {trace : List (Answered NvsAnswer)}
    {returned : Option (Bool × Option IiotTelemetry × OfflineState)}
    (hsurvive : AcksSurvive capacity entries device) (hram : device.ram = some state)
    (hrun : Exec (nvsAnswers mayFail) (gatewayOfflinePop state) device.nvs trace returned nvs') :
    AcksSurvive capacity (entries ++ [⟨.pop state, trace, returned.map OfflineResult.ofPop⟩])
      ⟨nvs', (returned.map OfflineResult.ofPop).map OfflineResult.state,
        unsavedAfter device.unsaved (storedKeys trace)⟩ := by
  obtain ⟨stored, journal, hflash, hrams⟩ := hsurvive
  have hstate := hrams state hram
  have hwell := hstate.wellFormed
  obtain ⟨hend, -⟩ := exec_gatewayOfflinePop hrun
  generalize hentry : (⟨.pop state, trace, returned.map OfflineResult.ofPop⟩ : OfflineEntry) = entry
  have hsilent : entry.acknowledged = none := by
    rw [← hentry]
    rfl
  generalize hkeys : storedKeys trace = keys at hend ⊢
  -- Once the advanced cursors are stored the pop counts, and the flash is up to date.
  have hsaved : keys = ["queue_meta"] → state.queue.count ≠ 0 →
      Accounts (entries ++ [entry]) state.dequeue.queue ∧
        FlashAccounts capacity (entries ++ [entry]) (device.nvs.storeMetadata state.dequeue)
          state.dequeue journal ∧
        RamAccounts capacity (entries ++ [entry]) (device.nvs.storeMetadata state.dequeue)
          state.dequeue 0 state.dequeue := by
    intro hmetadata hcount
    have hpop : entry.savedPop = iiotOfflineQueuePeek state.queue := by
      rw [← hentry]
      exact if_pos (by rw [hkeys, hmetadata]; exact List.mem_singleton_self _)
    have haccounts := hstate.accounts.dequeue hwell hcount hsilent hpop
    exact ⟨haccounts, accounts_storeMetadata hflash.entry (dequeue_wellFormed hwell)
      hstate.capacity_eq (Nvs.holdsRecords_dequeue hstate.records) haccounts⟩
  cases hend with
  | untouched houtcome =>
      refine ⟨stored, journal, hflash.of_silent hsilent, fun left hleft => ?_⟩
      obtain rfl : left = state := by
        rcases houtcome with rfl | ⟨-, rfl⟩
        · simp at hleft
        · simpa [OfflineResult.ofPop, eq_comm] using hleft
      exact hstate.of_silent hsilent
  | saved hcount houtcome =>
      obtain ⟨haccounts, hflash', hram'⟩ := hsaved rfl hcount
      refine ⟨_, _, hflash', fun left hleft => ?_⟩
      obtain rfl : left = state := by
        rcases houtcome with rfl | ⟨-, rfl⟩
        · simp at hleft
        · simpa [OfflineResult.ofPop, eq_comm] using hleft
      -- RAM was put back: it has one record more than the flash, at the same tail.
      have hlive : left.dequeue.queue.count = left.queue.count - 1 := rfl
      have hbound := hwell.count_le
      refine ⟨hwell, hstate.capacity_eq, Nvs.holdsRecords_storeMetadata hwell hstate.records,
        hstate.accounts.of_silent hsilent, ?_, fun _ => haccounts, fun _ hfull => ?_⟩
      · show left.queue.slot left.queue.count =
          left.dequeue.queue.slot (left.dequeue.queue.count + 0)
        rw [dequeue_slot, hlive, Nat.add_zero, Nat.sub_add_cancel (Nat.pos_of_ne_zero hcount)]
      · have := hstate.capacity_eq
        omega
  | kept hcount _ houtcome =>
      obtain ⟨-, hflash', hram'⟩ := hsaved rfl hcount
      refine ⟨_, _, hflash', fun left hleft => ?_⟩
      obtain rfl : left = state.dequeue := by
        rcases houtcome with rfl | ⟨committed, rfl⟩
        · simp at hleft
        · simpa [OfflineResult.ofPop, eq_comm] using hleft
      exact hram'
  | erased hcount houtcome =>
      obtain ⟨haccounts, hflash', hram'⟩ := hsaved rfl hcount
      have hhead : state.queue.head < 32 := hwell.head_lt.trans_le hwell.capacity_le
      have hholds := hflash'.holds.eraseHead hwell
      refine ⟨_, _, ⟨hholds, Nvs.holdsJournal_eraseSlot hhead hflash'.entry, .inl haccounts⟩,
        fun left hleft => ?_⟩
      obtain rfl : left = state.dequeue := by
        rcases houtcome with rfl | ⟨committed, -, rfl⟩
        · simp at hleft
        · simpa [OfflineResult.ofPop, eq_comm] using hleft
      exact ⟨hholds.wellFormed, hholds.capacity_eq, hholds.records, haccounts, hram'.tail,
        fun _ => haccounts, fun _ _ => rfl⟩

/-! ### Load -/

theorem OfflineState.Agrees.repairable {journal : Option (UInt32 × IiotTelemetry)}
    (hagrees : loaded.Agrees stored) (hwell : stored.queue.WellFormed)
    (h : Repairable entries stored journal) : Repairable entries loaded journal := by
  obtain ⟨hfull, telemetry, hjournal, hhead, haccounts⟩ := h
  have hpos := hwell.capacity_pos
  have hslot : stored.queue.slot 0 = stored.queue.head := ringSlot_zero hwell.head_lt
  have hwell' := hagrees.wellFormed hwell
  refine ⟨?_, telemetry, ?_, ?_, ?_⟩
  · rw [hagrees.count, hagrees.capacity, hfull]
  · rw [hagrees.generation, hjournal]
  · have hrecord := hagrees.records 0 (by omega)
    rw [hagrees.head, ← hslot, hrecord, hslot, hhead]
  · rw [Accounts, items_enqueue hwell', dropped_enqueue hwell', hagrees.items, hagrees.dropped,
      hagrees.count, hagrees.capacity, ← items_enqueue hwell, ← dropped_enqueue hwell]
    exact haccounts

/-- The ring a load read accounts for what the stored one does. -/
theorem FlashAccounts.agrees {journal : Option (UInt32 × IiotTelemetry)}
    (h : FlashAccounts capacity entries nvs stored journal) (hagrees : loaded.Agrees stored)
    (hmetadata : nvs "queue_meta" = some (queueMetadataLayout.encode loaded.metadata)) :
    FlashAccounts capacity entries nvs loaded journal :=
  ⟨h.holds.agrees hagrees hmetadata, h.entry,
    h.accounts.imp hagrees.accounts (hagrees.repairable h.holds.wellFormed)⟩

theorem acksSurvive_load {device : OfflineDevice} {trace : List (Answered NvsAnswer)}
    {returned : Option (Bool × OfflineState)} (hsurvive : AcksSurvive capacity entries device)
    (hrun : Exec (nvsAnswers mayFail) (gatewayOfflineLoad capacity) device.nvs trace returned nvs')
    (hsafe : SafeCall capacity device
      ⟨.load capacity, trace, returned.map OfflineResult.ofPair⟩) :
    AcksSurvive capacity
      (entries ++ [⟨.load capacity, trace, returned.map OfflineResult.ofPair⟩])
      ⟨nvs', (returned.map OfflineResult.ofPair).map OfflineResult.state,
        unsavedAfter 0 (storedKeys trace)⟩ := by
  obtain ⟨stored, journal, hflash, -⟩ := hsurvive
  have hrewritten : Repairable entries stored journal →
      slotKey stored.queue.head ∉ failedKeys trace := by
    intro hrepair
    have hwell := hflash.holds.wellFormed
    have hheadNat : stored.metadata.head.toNat = stored.queue.head :=
      toNat_ofNat_of_le_32 (hwell.head_lt.le.trans hwell.capacity_le)
    rw [← hheadNat]
    exact hsafe _ (hrepair.headOverwritten hflash.holds hflash.entry)
  generalize hentry : (⟨.load capacity, trace, returned.map OfflineResult.ofPair⟩ : OfflineEntry) =
    entry
  have hsilent : entry.acknowledged = none := by
    rw [← hentry]
    rfl
  have hleft : ∀ {state : OfflineState}, (returned = none ∨ ∃ succeeded,
      returned = some (succeeded, state)) → ∀ left,
        (returned.map OfflineResult.ofPair).map OfflineResult.state = some left → left = state := by
    rintro state (rfl | ⟨succeeded, rfl⟩) <;> simp [OfflineResult.ofPair, eq_comm]
  obtain ⟨base, hbase, hend⟩ := exec_gatewayOfflineLoad hflash.holds.wellFormed hflash.holds.cursors
    hflash.holds.records hflash.entry hrun
  have hbaseFlash : FlashAccounts capacity entries base stored journal := by
    rcases hbase with rfl | rfl
    · exact hflash
    · exact ⟨Nvs.holds_storeMetadata hflash.holds.wellFormed hflash.holds.capacity_eq
        hflash.holds.records, Nvs.holdsJournal_storeMetadata hflash.entry, hflash.accounts⟩
  rcases hend with ⟨rfl, hunsaved, -, houtcome⟩ |
    ⟨loaded, keys, failed, hagrees, hmetadata, hunsaved, hfailed, -, hrecover⟩
  · -- Only a fresh ring, which is not full, can fail to be stored.
    rw [hunsaved]
    refine ⟨stored, journal, hbaseFlash.of_silent hsilent, fun left hram => ?_⟩
    rcases houtcome with rfl | ⟨-, hfresh, rfl⟩
    · simp at hram
    · have haccounts : Accounts entries stored.queue := by
        rcases hbaseFlash.accounts with haccounts | ⟨hfull, -⟩
        · exact haccounts
        · have hpos := hbaseFlash.holds.wellFormed.capacity_pos
          have hcount : stored.queue.count = 0 := by
            rw [hfresh]
            rfl
          omega
      rw [hleft (.inr ⟨_, rfl⟩) left hram]
      exact (ramAccounts_self hbaseFlash haccounts).of_silent hsilent
  · rw [hunsaved]
    have hloaded := hbaseFlash.agrees hagrees hmetadata
    have hwell := hloaded.holds.wellFormed
    have hslot := enqueueSlot_lt hwell
    -- A ring that needs no repair is left alone, with or without its journal.
    have hkept : ∀ {base' : Nvs} {journal' : Option (UInt32 × IiotTelemetry)},
        FlashAccounts capacity entries base' loaded journal' → Accounts entries loaded.queue →
        (returned = none ∨ ∃ succeeded, returned = some (succeeded, loaded)) →
        AcksSurvive capacity (entries ++ [entry])
          ⟨base', (returned.map OfflineResult.ofPair).map OfflineResult.state, 0⟩ := by
      intro base' journal' hflash' haccounts houtcome
      refine ⟨loaded, journal', hflash'.of_silent hsilent, fun left hram => ?_⟩
      rw [hleft houtcome left hram]
      exact (ramAccounts_self hflash' haccounts).of_silent hsilent
    have hcut : AcksSurvive capacity (entries ++ [entry]) ⟨base, none, 0⟩ :=
      ⟨loaded, journal, hloaded.of_silent hsilent, by simp⟩
    have hsaved : ∀ {telemetry : IiotTelemetry},
        Accounts (entries ++ [entry]) (loaded.enqueue telemetry).queue → _ := fun {telemetry} =>
      accounts_storeMetadata (Nvs.holdsJournal_storeRecord hslot telemetry hloaded.entry)
        (enqueue_wellFormed hwell telemetry)
        ((enqueue_capacity hwell telemetry).trans hloaded.holds.capacity_eq)
        (Nvs.holdsRecords_enqueue hwell hloaded.holds.records telemetry)
    cases hrecover with
    | cut => exact hcut
    | empty houtcome =>
        exact hkept hloaded (hloaded.intact (by simp)) (houtcome.imp_right fun h => ⟨_, h⟩)
    | replaying hgeneration hpersist hunfinished =>
        subst hgeneration
        have hreplay := hloaded.replay hsilent
        cases hpersist with
        | cut => exact hcut
        | failed _ houtcome =>
            rcases houtcome with rfl | rfl
            · exact hcut
            · -- A failed slot write must not find the head overwritten.
              rcases hbaseFlash.accounts with haccounts | hrepair
              · exact hkept hloaded (hagrees.accounts haccounts) (.inr ⟨_, rfl⟩)
              · have hfull : loaded.queue.count = loaded.queue.capacity := by
                  rw [hagrees.count, hagrees.capacity, hrepair.1]
                refine absurd ?_ (hrewritten hrepair)
                rw [← hagrees.head, ← enqueueSlot_of_full hfull]
                exact hfailed (List.mem_singleton_self _)
        | written houtcome =>
            rw [unsavedAfter_slot hslot, unsavedAfter_nil]
            obtain ⟨stored', hflash', hram'⟩ := accounts_storeRecord hloaded.holds hloaded.entry hwell
              hloaded.holds.capacity_eq hloaded.holds.records rfl (by
                have hcapacity := hloaded.holds.capacity_eq
                rcases hwell.count_le.eq_or_lt with hfull | hroom
                · exact .inr ⟨rfl, hfull.trans hcapacity, rfl, hreplay⟩
                · rcases hloaded.accounts with haccounts | hrepair
                  · exact .inl ⟨by omega, haccounts.of_silent hsilent⟩
                  · exact absurd hrepair.1 hroom.ne)
              hreplay
            refine ⟨stored', _, hflash', fun left hram => ?_⟩
            rw [hleft (houtcome.imp_right fun h => ⟨_, h.2⟩) left hram]
            exact hram'
        | saved houtcome =>
            rw [unsavedAfter_slot hslot, unsavedAfter_metadata, unsavedAfter_nil]
            obtain ⟨hflash', hram'⟩ := hsaved hreplay
            refine ⟨_, _, hflash', fun left hram => ?_⟩
            rw [hleft (houtcome.imp_right fun h => h.elim (⟨_, ·⟩) fun h => ⟨_, h.2⟩) left hram]
            exact hram'
    | replayed hgeneration houtcome =>
        subst hgeneration
        have hreplay := hloaded.replay hsilent
        obtain ⟨hflash', hram'⟩ := hsaved hreplay
        rw [unsavedAfter_slot hslot, unsavedAfter_metadata, unsavedAfter_nil]
        refine ⟨_, _, hflash'.eraseJournal hreplay, fun left hram => ?_⟩
        rw [hleft (houtcome.imp_right fun h => h.elim (⟨_, ·⟩) fun h => ⟨_, h.2⟩) left hram]
        exact hram'.eraseJournal
    | stale hgeneration houtcome =>
        refine hkept hloaded (hloaded.intact fun telemetry h => ?_)
          (houtcome.imp_right fun h => ⟨_, h.2⟩)
        exact hgeneration (Prod.mk.inj (Option.some.inj h)).1.symm
    | discarded hgeneration houtcome =>
        have haccounts := hloaded.intact fun telemetry h =>
          hgeneration (Prod.mk.inj (Option.some.inj h)).1.symm
        refine hkept (hloaded.eraseJournal haccounts) haccounts (houtcome.imp_right fun h => ?_)
        rcases h with h | ⟨-, h⟩
        · exact ⟨_, h⟩
        · exact ⟨_, h⟩
    | mismatched hgeneration _ houtcome =>
        refine hkept hloaded (hloaded.intact fun telemetry h => ?_)
          (houtcome.imp_right fun h => ⟨_, h⟩)
        exact hgeneration (Prod.mk.inj (Option.some.inj h)).1.symm

/-! ### Runs -/

theorem acksSurvive_blank {device : OfflineDevice} (hpos : 0 < capacity) (hle : capacity ≤ 32)
    (hblank : device.Blank) : AcksSurvive capacity [] device := by
  obtain ⟨hmetadata, hjournal, hram⟩ := hblank
  have haccounts : Accounts [] (freshState capacity).queue :=
    ⟨[], List.nil_sublist _, List.Sublist.refl _, Nat.le_refl _, rfl⟩
  refine ⟨freshState capacity, none, ⟨.fresh hpos hle hmetadata, hjournal, .inl haccounts⟩, ?_⟩
  rw [hram]
  simp

theorem acksSurvive_step {device device' : OfflineDevice}
    (hsurvive : AcksSurvive capacity entries device)
    (hstep : OfflineStep mayFail capacity device entry device')
    (hsafe : SafeCall capacity device entry) :
    AcksSurvive capacity (entries ++ [entry]) device' := by
  cases hstep with
  | load hrun =>
      obtain ⟨_, hload, rfl⟩ := exec_map_iff.mp hrun
      exact acksSurvive_load hsurvive hload hsafe
  | push hram hrun =>
      obtain ⟨_, hpush, rfl⟩ := exec_map_iff.mp hrun
      exact acksSurvive_push hsurvive hram hpush hsafe
  | pop hram hrun =>
      obtain ⟨_, hpop, rfl⟩ := exec_map_iff.mp hrun
      exact acksSurvive_pop hsurvive hram hpop

/-! ### Single calls of a device that may fail -/

/-- A push whose metadata write fails leaves RAM with the enqueue. -/
theorem exec_push_unsaved (nvs : Nvs) (state : OfflineState) (telemetry : IiotTelemetry) :
    ∃ trace, failedKeys trace = ["queue_meta"] ∧
      Exec (nvsAnswers True) (gatewayOfflinePush state telemetry) nvs trace
        (some (false, state.enqueue telemetry))
        ((nvs.storeJournal state.queueGeneration telemetry).storeRecord (enqueueSlot state.queue)
          telemetry) :=
  ⟨_, rfl, .call (.inl ⟨rfl, rfl⟩) (.call ⟨.inl rfl, rfl⟩ (.call (.inl ⟨rfl, rfl⟩)
    (.call (.inr ⟨trivial, rfl, rfl⟩)
      (.call (show nvsAnswers True (.log .error _) _ () _ from rfl) (.done _ _)))))⟩

/-- A load of a ring whose journal is of a later generation keeps the ring. -/
theorem run_load_ahead {journal : Option (UInt32 × IiotTelemetry)}
    (hholds : nvs.Holds capacity stored) (hjournal : nvs.HoldsJournal journal)
    (hahead : ∀ telemetry, journal ≠ some (stored.queueGeneration, telemetry)) :
    ((gatewayOfflineLoad capacity).run nvsDevice nvs).1.2.Agrees stored := by
  obtain ⟨trace, htrace⟩ := exec_run nvsDevice (nvsAnswers_nvsDevice False)
    (gatewayOfflineLoad capacity) nvs
  obtain ⟨base, -, hend⟩ := exec_gatewayOfflineLoad hholds.wellFormed hholds.cursors hholds.records
    hjournal htrace
  rcases hend with ⟨-, -, -, h⟩ | ⟨loaded, keys, failed, hagrees, -, -, -, -, hrecover⟩
  · simp at h
  · generalize (gatewayOfflineLoad capacity).run nvsDevice nvs = final at hrecover ⊢
    obtain ⟨result, nvs'⟩ := final
    dsimp only at hrecover ⊢
    have hloaded : result.2 = loaded := by
      cases hrecover with
      | empty h =>
          obtain rfl : result = (true, loaded) := by simpa using h
          rfl
      | replaying hgeneration =>
          exact absurd (by rw [← hgeneration, hagrees.generation]) (hahead _)
      | replayed hgeneration =>
          exact absurd (by rw [← hgeneration, hagrees.generation]) (hahead _)
      | stale _ h => simp at h
      | discarded _ h =>
          obtain rfl : result = (true, loaded) := by simpa using h
          rfl
      | mismatched _ _ h =>
          obtain rfl : result = (false, loaded) := by simpa using h
          rfl
    rw [hloaded]
    exact hagrees

/-- A push that returns true stored its metadata and erased its journal entry. -/
theorem exec_push_stores {telemetry : IiotTelemetry} {trace : List (Answered NvsAnswer)}
    {left : OfflineState}
    (hrun : Exec (nvsAnswers mayFail) (gatewayOfflinePush state telemetry) nvs trace
      (some (true, left)) nvs') :
    storedKeys trace = ["q_pending", slotKey (enqueueSlot state.queue), "queue_meta"] ∧
      nvs' = (((nvs.storeJournal state.queueGeneration telemetry).storeRecord
        (enqueueSlot state.queue) telemetry).storeMetadata
          (state.enqueue telemetry)).eraseJournal := by
  obtain ⟨hend, -⟩ := exec_gatewayOfflinePush hrun
  generalize storedKeys trace = keys at hend ⊢
  cases hend with
  | untouched h => simp at h
  | journaled h => simp at h
  | written h => simp at h
  | saved h => simp at h
  | erased => exact ⟨rfl, rfl⟩

/-- The first load of a blank device and a push after it, on a device that does not fail. -/
theorem exec_first_push (hpos : 0 < capacity) (hle : capacity ≤ 32) (telemetry : IiotTelemetry) :
    ∃ trace₁ loaded nvs₁ trace₂ left nvs₂,
      Exec (nvsAnswers True) (gatewayOfflineLoad capacity) (fun _ => none) trace₁ (some loaded)
        nvs₁ ∧
      Exec (nvsAnswers True) (gatewayOfflinePush loaded.2 telemetry) nvs₁ trace₂ (some (true, left))
        nvs₂ ∧
      Synchronised nvs₂ left (BoundedFifo.empty.push telemetry : BoundedFifo capacity _) ∧
      storedKeys trace₂ = ["q_pending", slotKey (enqueueSlot loaded.2.queue), "queue_meta"] ∧
      enqueueSlot loaded.2.queue < 32 := by
  have hempty := (commits_blank hpos hle
    (show OfflineDevice.Blank ⟨fun _ => none, none, 0⟩ from ⟨rfl, rfl, rfl⟩)).1
  obtain ⟨trace₁, hload⟩ := exec_run nvsDevice (nvsAnswers_nvsDevice True)
    (gatewayOfflineLoad capacity) fun _ => none
  obtain ⟨_, hload'⟩ := exec_run nvsDevice (nvsAnswers_nvsDevice False)
    (gatewayOfflineLoad capacity) fun _ => none
  have hsync := (exec_load_recovers hempty hload').1 _ rfl
  generalize (gatewayOfflineLoad capacity).run nvsDevice (fun _ => none) = booted at hload hsync
  obtain ⟨trace₂, hpush⟩ := exec_run nvsDevice (nvsAnswers_nvsDevice True)
    (gatewayOfflinePush booted.1.2 telemetry) booted.2
  obtain ⟨_, hpush'⟩ := exec_run nvsDevice (nvsAnswers_nvsDevice False)
    (gatewayOfflinePush booted.1.2 telemetry) booted.2
  have hpushed := (exec_push_recovers hsync hpush').1 _ rfl
  rw [run_push] at hpush hpushed
  exact ⟨_, _, _, _, _, _, hload, hpush, hpushed, (exec_push_stores hpush).1,
    enqueueSlot_lt hsync.1.wellFormed⟩

/-! ### Loads -/

/-- **Acknowledged enqueues.** In every run from a blank device whose calls all meet the condition,
whatever fails and wherever the power goes, each completed load leaves a ring that accounts for every
record acknowledged before it. -/
theorem offline_load_accounts (hpos : 1 ≤ capacity) (hle : capacity ≤ 32)
    {start device : OfflineDevice} (hblank : start.Blank) {result : OfflineResult}
    (hrun : Trail
      (fun device entry device' =>
        OfflineStep True capacity device entry device' ∧ SafeCall capacity device entry)
      start (entries ++ [entry]) device)
    (hload : entry.call = .load capacity) (hresult : entry.outcome = some result) :
    Accounted (entries ++ [entry]) result.state.queue.items
      result.state.queue.droppedMessageCount := by
  obtain ⟨stored, journal, -, hram⟩ :=
    Trail.invariant (AcksSurvive capacity) (acksSurvive_blank hpos hle hblank)
      (fun _ _ _ _ hsurvive hstep => acksSurvive_step hsurvive hstep.1 hstep.2) hrun
  obtain ⟨_, -, hstep, -⟩ := hrun.last_step
  refine (hram result.state ?_).accounts
  cases hstep with
  | load => simp_all
  | push => cases hload
  | pop => cases hload

/-- A ring of two records, and a push whose metadata write fails between two that are acknowledged.
The third evicts the first, and the next load finds the ring and the count of it. -/
theorem offline_load_accounts_unsaved : ∃ (entries : List OfflineEntry) (entry : OfflineEntry)
    (result : OfflineResult),
    entries.filterMap OfflineEntry.acknowledged = [sampleRecord 1, sampleRecord 3] ∧
    (∃ failed ∈ entries, failedKeys failed.trace = ["queue_meta"]) ∧
    entry.outcome = some result ∧
    result.state.queue.items = [sampleRecord 2, sampleRecord 3] ∧
    Accounted (entries ++ [entry]) result.state.queue.items
      result.state.queue.droppedMessageCount := by
  obtain ⟨trace₁, ⟨_, state₁⟩, nvs₁, trace₂, state₂, nvs₂, hload, hfirst, ⟨hholds, -, hitems, -⟩,
    hkeys₂, hslot₁⟩ := exec_first_push (by decide : 0 < 2) (by decide) (sampleRecord 1)
  -- The second push fails at its metadata, and the third runs on a device that does not fail.
  obtain ⟨trace₃, hfailed, hsecond⟩ := exec_push_unsaved nvs₂ state₂ (sampleRecord 2)
  obtain ⟨trace₄, hthird⟩ := exec_run nvsDevice (nvsAnswers_nvsDevice True)
    (gatewayOfflinePush (state₂.enqueue (sampleRecord 2)) (sampleRecord 3))
    ((nvs₂.storeJournal state₂.queueGeneration (sampleRecord 2)).storeRecord
      (enqueueSlot state₂.queue) (sampleRecord 2))
  rw [run_push] at hthird
  obtain ⟨hkeys₄, hstored⟩ := exec_push_stores hthird
  rw [hstored] at hthird
  -- What the third stored is the ring in RAM, with the records of the last two pushes.
  have hwell₂ := hholds.wellFormed
  have hwell₃ := enqueue_wellFormed hwell₂ (sampleRecord 2)
  have hcapacity₃ := (enqueue_capacity hwell₂ (sampleRecord 2)).trans hholds.capacity_eq
  have hrecords₃ := Nvs.holdsRecords_enqueue hwell₂
    (hholds.storeJournal state₂.queueGeneration (sampleRecord 2)).records (sampleRecord 2)
  have hrecords₄ := Nvs.holdsRecords_enqueue hwell₃
    (Nvs.holdsRecords_storeJournal hwell₃ (state₂.enqueue (sampleRecord 2)).queueGeneration
      (sampleRecord 3) hrecords₃) (sampleRecord 3)
  have hlast := (Nvs.holds_storeMetadata (enqueue_wellFormed hwell₃ (sampleRecord 3))
    ((enqueue_capacity hwell₃ (sampleRecord 3)).trans hcapacity₃) hrecords₄).eraseJournal
  have hagrees := run_load_ahead hlast Nvs.holdsJournal_eraseJournal (by simp)
  have hring : ((state₂.enqueue (sampleRecord 2)).enqueue (sampleRecord 3)).queue.items =
      [sampleRecord 2, sampleRecord 3] := by
    have hshort : state₂.queue.count ≠ state₂.queue.capacity := by
      rw [← length_items, hitems, hholds.capacity_eq]
      decide
    have htwo : (state₂.enqueue (sampleRecord 2)).queue.items = [sampleRecord 1, sampleRecord 2] := by
      rw [items_enqueue hwell₂, if_neg hshort, hitems]
      rfl
    rw [items_enqueue hwell₃, if_pos (by rw [← length_items, htwo, hcapacity₃]; rfl), htwo]
    rfl
  obtain ⟨trace₅, hreload⟩ := exec_run nvsDevice (nvsAnswers_nvsDevice True) (gatewayOfflineLoad 2)
    (((((nvs₂.storeJournal state₂.queueGeneration (sampleRecord 2)).storeRecord
      (enqueueSlot state₂.queue) (sampleRecord 2)).storeJournal
        (state₂.enqueue (sampleRecord 2)).queueGeneration (sampleRecord 3)).storeRecord
          (enqueueSlot (state₂.enqueue (sampleRecord 2)).queue) (sampleRecord 3)).storeMetadata
            ((state₂.enqueue (sampleRecord 2)).enqueue (sampleRecord 3))).eraseJournal
  refine ⟨_, _, _, ?_, ?_, rfl, ?_, offline_load_accounts (by decide) (by decide)
    (show OfflineDevice.Blank ⟨fun _ => none, none, 0⟩ from ⟨rfl, rfl, rfl⟩)
    (.step (.step (.step (.step (.step .start
      ⟨.load (exec_map_iff.mpr ⟨_, hload, rfl⟩), ?_⟩)
      ⟨.push rfl (exec_map_iff.mpr ⟨_, hfirst, rfl⟩), ?_⟩)
      ⟨.push rfl (exec_map_iff.mpr ⟨_, hsecond, rfl⟩), ?_⟩)
      ⟨.push rfl (exec_map_iff.mpr ⟨_, hthird, rfl⟩), ?_⟩)
      ⟨.load (exec_map_iff.mpr ⟨_, hreload, rfl⟩), ?_⟩) rfl rfl⟩
  · rfl
  · exact ⟨_, List.mem_append_left _ (List.mem_append_right _ (List.mem_singleton_self _)), hfailed⟩
  · exact hagrees.items.trans hring
  · rintro metadata ⟨hread, -⟩
    cases hread
  · exact .inr (.inr (.inl (by simp [hkeys₂])))
  · left
    show unsavedAfter _ (storedKeys trace₂) = 0
    rw [hkeys₂, unsavedAfter_journal, unsavedAfter_slot hslot₁, unsavedAfter_metadata,
      unsavedAfter_nil]
  · exact .inr (.inr (.inl (by simp [hkeys₄])))
  · rintro metadata ⟨-, -, pending, hread, -⟩
    cases hread

/-! ### The condition is needed

A ring of one record. The first push is acknowledged. The second fails at its metadata, after its
record replaced the first in its only slot. The third replaces the journal entry that could have made
up for that, and the power goes. The load finds a journal of a later generation than the metadata and
keeps the second record: the first is gone, and was not counted. -/

/-- A push cut after its first write. -/
theorem exec_push_cut (nvs : Nvs) (state : OfflineState) (telemetry : IiotTelemetry) :
    ∃ trace, Exec (nvsAnswers True) (gatewayOfflinePush state telemetry) nvs trace none
      (nvs.storeJournal state.queueGeneration telemetry) :=
  ⟨_, .call (.inl ⟨rfl, rfl⟩) (.cut _ _)⟩

/-- Nothing left the ring when nothing was popped or evicted. -/
theorem removed_eq_nil {removed : List (Removal × IiotTelemetry)}
    (hpopped : removedBy .popped removed = []) (hevicted : removedBy .evicted removed = []) :
    removed = [] := by
  rw [List.eq_nil_iff_forall_not_mem]
  rintro ⟨removal, record⟩ hmem
  cases removal with
  | popped =>
      have : record ∈ removedBy .popped removed := by
        simpa [removedBy] using hmem
      simp [hpopped] at this
  | evicted =>
      have : record ∈ removedBy .evicted removed := by
        simpa [removedBy] using hmem
      simp [hevicted] at this

/-- The only record of a ring of capacity one, overwritten. -/
theorem items_overwrite_single (hwell : state.queue.WellFormed) (hone : state.queue.capacity = 1)
    (hfull : state.queue.count = state.queue.capacity) (telemetry : IiotTelemetry) :
    (state.overwrite (enqueueSlot state.queue) telemetry).queue.items = [telemetry] := by
  have hhead := hwell.head_lt
  rw [enqueueSlot_of_full hfull, IiotOfflineQueue.items]
  show ringItems (Function.update _ _ _) state.queue.capacity state.queue.head state.queue.count = _
  rw [hfull, hone]
  rw [hone] at hhead
  rw [ringItems_eq_cons _ hhead, Function.update_self, ringItems_zero]

/-- **The lost acknowledged record.** -/
theorem offline_load_loses_acknowledged :
    ¬ ∀ (capacity : Nat) (start device : OfflineDevice) (entries : List OfflineEntry)
        (entry : OfflineEntry) (result : OfflineResult), 1 ≤ capacity → capacity ≤ 32 → start.Blank →
        Trail (OfflineStep True capacity) start (entries ++ [entry]) device →
        entry.call = .load capacity → entry.outcome = some result →
        Accounted (entries ++ [entry]) result.state.queue.items
          result.state.queue.droppedMessageCount := by
  intro hall
  obtain ⟨trace₁, ⟨_, state₁⟩, nvs₁, trace₂, state₂, nvs₂, hload, hfirst,
    ⟨hholds, -, hitems, hdropped⟩, -⟩ := exec_first_push (by decide : 0 < 1) (by decide)
      (sampleRecord 1)
  -- The second push fails at its metadata, and the third is cut after its journal.
  have hfull : state₂.queue.count = state₂.queue.capacity := by
    rw [← length_items, hitems, hholds.capacity_eq]
    rfl
  obtain ⟨trace₃, -, hsecond⟩ := exec_push_unsaved nvs₂ state₂ (sampleRecord 2)
  obtain ⟨trace₄, hthird⟩ := exec_push_cut
    ((nvs₂.storeJournal state₂.queueGeneration (sampleRecord 2)).storeRecord
      (enqueueSlot state₂.queue) (sampleRecord 2)) (state₂.enqueue (sampleRecord 2)) (sampleRecord 3)
  have hstored := ((hholds.storeJournal state₂.queueGeneration (sampleRecord 2)).storeRecord_of_full
    hfull (sampleRecord 2)).storeJournal (state₂.enqueue (sampleRecord 2)).queueGeneration
      (sampleRecord 3)
  have hagrees := run_load_ahead hstored (Nvs.holdsJournal_storeJournal _ _) (by
    intro telemetry h
    exact generation_ne_succ _ (Prod.mk.inj (Option.some.inj h)).1.symm)
  obtain ⟨trace₅, hreload⟩ := exec_run nvsDevice (nvsAnswers_nvsDevice True) (gatewayOfflineLoad 1)
    (((nvs₂.storeJournal state₂.queueGeneration (sampleRecord 2)).storeRecord
      (enqueueSlot state₂.queue) (sampleRecord 2)).storeJournal
        (state₂.enqueue (sampleRecord 2)).queueGeneration (sampleRecord 3))
  have hlost := hall 1 ⟨fun _ => none, none, 0⟩ _ _ _ _ (by decide) (by decide) ⟨rfl, rfl, rfl⟩
    (.step (.step (.step (.step (.step .start (.load (exec_map_iff.mpr ⟨_, hload, rfl⟩)))
      (.push rfl (exec_map_iff.mpr ⟨_, hfirst, rfl⟩)))
      (.push rfl (exec_map_iff.mpr ⟨_, hsecond, rfl⟩)))
      (.push rfl (exec_map_iff.mpr ⟨_, hthird, rfl⟩)))
      (.load (exec_map_iff.mpr ⟨_, hreload, rfl⟩))) rfl rfl
  -- What the last load leaves is the second record alone, with nothing dropped.
  obtain ⟨removed, hacks, hpops, hevictions, hcounted⟩ := hlost
  change List.Sublist [sampleRecord 1] _ at hacks
  change List.Sublist _ [] at hpops
  change _ ≤ 5 at hevictions
  have hring : (state₂.overwrite (enqueueSlot state₂.queue) (sampleRecord 2)).queue.items =
      [sampleRecord 2] := items_overwrite_single hholds.wellFormed hholds.capacity_eq hfull _
  have hnone : removed = [] := by
    refine removed_eq_nil (List.sublist_nil.mp hpops) ?_
    change ((gatewayOfflineLoad 1).run nvsDevice _).1.2.queue.droppedMessageCount = _ at hcounted
    rw [hagrees.dropped] at hcounted
    change state₂.queue.droppedMessageCount = _ at hcounted
    rw [hdropped] at hcounted
    have := congrArg UInt32.toNat hcounted
    simp only [UInt32.toNat_ofNat'] at this
    have hzero : (BoundedFifo.empty.push (sampleRecord 1) : BoundedFifo 1 _).dropped = 0 := rfl
    rw [hzero] at this
    exact List.length_eq_zero_iff.mp (by omega)
  rw [hnone] at hacks
  change List.Sublist _ ([] ++ ((gatewayOfflineLoad 1).run nvsDevice _).1.2.queue.items) at hacks
  rw [hagrees.items] at hacks
  change List.Sublist _ (state₂.overwrite (enqueueSlot state₂.queue) (sampleRecord 2)).queue.items
    at hacks
  rw [hring] at hacks
  have hsame : sampleRecord 1 = sampleRecord 2 := by simpa using hacks
  exact absurd (congrArg IiotTelemetry.sequence hsame) (by decide)

end IiotMonitoring
