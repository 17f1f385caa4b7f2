import IiotMonitoring.Proof.OfflineOutcomes

/-!
# Where the load can stop

The load reads the stored ring back, whatever its slots hold now, and then finishes or discards the
journaled enqueue. The ring it reads agrees with the stored one on everything but the records of slots
that are not live.
-/

namespace IiotMonitoring

open Program

variable {mayFail : Prop} {nvs nvs' : Nvs} {trace : List (Answered NvsAnswer)}

/-! ### Rings with the same live records -/

/-- The same cursors, and the same records in the live slots. -/
structure OfflineState.Agrees (left right : OfflineState) : Prop where
  generation : left.queueGeneration = right.queueGeneration
  dropped : left.queue.droppedMessageCount = right.queue.droppedMessageCount
  head : left.queue.head = right.queue.head
  count : left.queue.count = right.queue.count
  capacity : left.queue.capacity = right.queue.capacity
  records : ∀ offset < right.queue.count,
    left.queue.records (right.queue.slot offset) = right.queue.records (right.queue.slot offset)

namespace OfflineState.Agrees

variable {left right : OfflineState}

theorem refl (state : OfflineState) : state.Agrees state :=
  ⟨rfl, rfl, rfl, rfl, rfl, fun _ _ => rfl⟩

theorem slot (h : left.Agrees right) (offset : Nat) :
    left.queue.slot offset = right.queue.slot offset := by
  rw [IiotOfflineQueue.slot, h.capacity, h.head, IiotOfflineQueue.slot]

theorem metadata (h : left.Agrees right) : left.metadata = right.metadata := by
  simp only [OfflineState.metadata, QueueMetadata.ofState, h.generation, h.dropped, h.head, h.count,
    h.capacity]

theorem items (h : left.Agrees right) : left.queue.items = right.queue.items := by
  rw [IiotOfflineQueue.items, h.capacity, h.head, h.count]
  exact ringItems_congr h.records

theorem wellFormed (h : left.Agrees right) (hright : right.queue.WellFormed) :
    left.queue.WellFormed where
  capacity_pos := h.capacity ▸ hright.capacity_pos
  capacity_le := h.capacity ▸ hright.capacity_le
  head_lt := by
    rw [h.head, h.capacity]
    exact hright.head_lt
  count_le := by
    rw [h.count, h.capacity]
    exact hright.count_le

theorem holdsRecords (h : left.Agrees right) (hright : nvs.HoldsRecords right.queue) :
    nvs.HoldsRecords left.queue := by
  intro offset hoffset
  rw [h.count] at hoffset
  rw [h.slot, h.records offset hoffset]
  exact hright offset hoffset

end OfflineState.Agrees

/-! ### The stored ring -/

theorem exec_loadRecords {remaining : Nat} (offset : Nat) (queue : IiotOfflineQueue)
    (records : Nat → IiotTelemetry) {outcome : Option (Option IiotOfflineQueue)}
    (hheld : ∀ later < remaining, nvs (slotKey (queue.slot (offset + later))) =
      some (telemetryLayout.encode (records (queue.slot (offset + later)))))
    (hread : ∀ earlier < offset, queue.records (queue.slot earlier) = records (queue.slot earlier))
    (hrun : Exec (nvsAnswers mayFail) (loadRecords remaining offset queue) nvs trace outcome nvs') :
    nvs' = nvs ∧ storedKeys trace = [] ∧ loggedTexts trace = [] ∧
      (outcome = none ∨ ∃ loaded : Nat → IiotTelemetry,
        outcome = some (some { queue with records := loaded }) ∧
        ∀ index < offset + remaining, loaded (queue.slot index) = records (queue.slot index)) := by
  induction remaining generalizing offset queue trace with
  | zero =>
      obtain ⟨rfl, rfl, houtcome⟩ := exec_pure hrun
      exact ⟨rfl, rfl, rfl, houtcome.imp_right fun h => ⟨queue.records, h, hread⟩⟩
  | succ remaining ih =>
      rw [loadRecords] at hrun
      rcases exec_getBlob hrun with ⟨rfl, rfl, rfl⟩ | ⟨tail, rfl, hrest⟩
      · exact ⟨rfl, rfl, rfl, .inl rfl⟩
      · have hslot : nvs.get (slotKey (queue.slot offset)) telemetryLayout.size =
            .ok (telemetryLayout.encode (records (queue.slot offset))) :=
          Nvs.get_of_some (hheld 0 (Nat.zero_lt_succ _)) (Layout.length_encode _ _)
        have hcell : (queue.head + offset) % queue.capacity = queue.slot offset := rfl
        rw [hcell, hslot] at hrest
        dsimp only at hrest
        rw [if_neg (fun h => h (Layout.length_encode _ _)), Layout.decode_encode] at hrest
        obtain ⟨hnvs, hkeys, hlogs, houtcome⟩ := ih (offset + 1)
          { queue with
            records := Function.update queue.records (queue.slot offset)
              (records (queue.slot offset)) }
          (fun later hlater => by
            have := hheld (later + 1) (Nat.succ_lt_succ hlater)
            rwa [show offset + (later + 1) = offset + 1 + later by omega] at this)
          (fun earlier hearlier => by
            show Function.update queue.records (queue.slot offset) (records (queue.slot offset))
              (queue.slot earlier) = records (queue.slot earlier)
            by_cases heq : queue.slot earlier = queue.slot offset
            · rw [heq, Function.update_self]
            · rw [Function.update_of_ne heq]
              have hne : earlier ≠ offset := fun h => heq (h ▸ rfl)
              exact hread earlier (by omega))
          hrest
        refine ⟨hnvs, hkeys, hlogs, houtcome.imp_right ?_⟩
        rintro ⟨loaded, houtcome, hloaded⟩
        exact ⟨loaded, houtcome, fun index hindex => hloaded index (by omega)⟩

/-- The whole ring read into blank records. -/
theorem exec_loadStored {stored : OfflineState} {outcome : Option (Option IiotOfflineQueue)}
    (hrecords : nvs.HoldsRecords stored.queue)
    (hrun : Exec (nvsAnswers mayFail)
      (loadRecords stored.queue.count 0
        { stored.queue with records := fun _ => telemetryLayout.zero }) nvs trace outcome nvs') :
    nvs' = nvs ∧ storedKeys trace = [] ∧ loggedTexts trace = [] ∧
      (outcome = none ∨ ∃ loaded : OfflineState, outcome = some (some loaded.queue) ∧
        loaded.Agrees stored ∧ loaded.queueGeneration = stored.queueGeneration) := by
  obtain ⟨hnvs, hkeys, hlogs, hloaded⟩ := exec_loadRecords 0 _ stored.queue.records
    (fun later hlater => by
      rw [Nat.zero_add]
      exact hrecords later hlater)
    (fun earlier hearlier => absurd hearlier (Nat.not_lt_zero _)) hrun
  refine ⟨hnvs, hkeys, hlogs, hloaded.imp_right ?_⟩
  rintro ⟨records, houtcome, hagree⟩
  refine ⟨{ stored with queue := { stored.queue with records := records } }, houtcome,
    ⟨rfl, rfl, rfl, rfl, rfl, fun offset hoffset => hagree offset ?_⟩, rfl⟩
  rw [Nat.zero_add]
  exact hoffset

/-- The load's first half leaves the flash as it was, but for the metadata of a fresh ring, and either
fails to store that or goes on with the stored ring. -/
theorem exec_loadRing {capacity : Nat} {stored : OfflineState}
    {outcome : Option (Except (Bool × OfflineState) OfflineState)}
    (hwell : stored.queue.WellFormed) (hcursors : nvs.HoldsCursors capacity stored)
    (hrecords : nvs.HoldsRecords stored.queue)
    (hrun : Exec (nvsAnswers mayFail) (loadRing capacity) nvs trace outcome nvs') :
    (nvs' = nvs ∨ nvs' = nvs.storeMetadata stored) ∧ unsavedAfter 0 (storedKeys trace) = 0 ∧
      loggedTexts trace = [] ∧
      (outcome = none ∨ (mayFail ∧ stored = freshState capacity ∧
          outcome = some (.error (false, stored))) ∨
        ∃ loaded : OfflineState, outcome = some (.ok loaded) ∧ loaded.Agrees stored ∧
          nvs' "queue_meta" = some (queueMetadataLayout.encode loaded.metadata)) := by
  rcases exec_getBlob hrun with ⟨rfl, rfl, rfl⟩ | ⟨tail, rfl, hrest⟩
  · exact ⟨.inl rfl, rfl, rfl, .inl rfl⟩
  · rcases hcursors with ⟨habsent, rfl⟩ | hpresent
    · rw [Nvs.get_of_none habsent] at hrest
      rcases exec_bind_iff.mp hrest with
        ⟨rfl, hsave⟩ | ⟨saved, nvs₁, before, after, rfl, hsave, hreturn⟩
      · obtain ⟨hend, hlogs⟩ := exec_saveQueueMetadata hsave
        rw [storedKeys_getBlob, loggedTexts_getBlob]
        generalize storedKeys tail = keys, failedKeys tail = failed at hend
        cases hend with
        | cut => exact ⟨.inl rfl, rfl, hlogs, .inl rfl⟩
        | failed => exact ⟨.inl rfl, rfl, hlogs, .inl rfl⟩
        | stored => exact ⟨.inr rfl, rfl, hlogs, .inl rfl⟩
      · obtain ⟨hend, hlogs⟩ := exec_saveQueueMetadata hsave
        rw [storedKeys_getBlob, loggedTexts_getBlob, storedKeys_append, loggedTexts_append, hlogs,
          List.nil_append]
        generalize storedKeys before = keys, failedKeys before = failed at hend
        cases saved with
        | false =>
            obtain ⟨rfl, rfl, houtcome⟩ := exec_pure hreturn
            cases hend with
            | failed hfail =>
                exact ⟨.inl rfl, rfl, rfl, houtcome.imp_right fun h => .inl ⟨hfail, rfl, h⟩⟩
            | stored hsaved =>
                have hfail : mayFail := by simpa using hsaved
                exact ⟨.inr rfl, rfl, rfl, houtcome.imp_right fun h => .inl ⟨hfail, rfl, h⟩⟩
        | true =>
            obtain ⟨rfl, rfl, houtcome⟩ := exec_pure hreturn
            cases hend with
            | failed _ hsaved => simp at hsaved
            | stored =>
                exact ⟨.inr rfl, rfl, rfl, houtcome.imp_right fun h =>
                  .inr ⟨_, h, .refl _, Nvs.set_self ..⟩⟩
    · rw [Nvs.get_of_some hpresent (Layout.length_encode _ _), readQueueMetadata_metadata hwell]
        at hrest
      dsimp only at hrest
      rw [toState_metadata hwell] at hrest
      rcases exec_bind_iff.mp hrest with
        ⟨rfl, hload⟩ | ⟨queue, nvs₁, before, after, rfl, hload, hreturn⟩
      · obtain ⟨rfl, hkeys, hlogs, -⟩ := exec_loadStored hrecords hload
        rw [storedKeys_getBlob, loggedTexts_getBlob, hkeys]
        exact ⟨.inl rfl, rfl, hlogs, .inl rfl⟩
      · obtain ⟨rfl, hkeys, hlogs, hcut | ⟨loaded, hsome, hagrees, hgeneration⟩⟩ :=
          exec_loadStored hrecords hload
        · cases hcut
        · cases hsome
          obtain ⟨rfl, rfl, houtcome⟩ := exec_pure hreturn
          rw [List.append_nil, storedKeys_getBlob, loggedTexts_getBlob, hkeys]
          refine ⟨.inl rfl, rfl, hlogs, houtcome.imp_right fun h => .inr ⟨loaded, ?_, hagrees, ?_⟩⟩
          · rw [h, ← hgeneration]
          · rw [hagrees.metadata]
            exact hpresent

/-! ### The journaled enqueue -/

/-- Where the load's second half can stop, by what the journal held. -/
inductive RecoverEnd (mayFail : Prop) (ring : OfflineState) (nvs : Nvs) :
    Option (UInt32 × IiotTelemetry) → List String → List String → Option (Bool × OfflineState) →
      Nvs → Prop where
  | cut {journal : Option (UInt32 × IiotTelemetry)} :
      RecoverEnd mayFail ring nvs journal [] [] none nvs
  | empty {outcome : Option (Bool × OfflineState)}
      (houtcome : outcome = none ∨ outcome = some (true, ring)) :
      RecoverEnd mayFail ring nvs none [] [] outcome nvs
  | replaying {generation : UInt32} {telemetry : IiotTelemetry} {keys failed : List String}
      {outcome : Option (Bool × OfflineState)} {nvs' : Nvs}
      (hgeneration : ring.queueGeneration = generation)
      (hpersist : PersistEnd mayFail ring telemetry nvs keys failed outcome nvs')
      (hunfinished : ∀ state, outcome ≠ some (true, state)) :
      RecoverEnd mayFail ring nvs (some (generation, telemetry)) keys failed outcome nvs'
  | replayed {generation : UInt32} {telemetry : IiotTelemetry}
      {outcome : Option (Bool × OfflineState)}
      (hgeneration : ring.queueGeneration = generation)
      (houtcome : outcome = none ∨ outcome = some (true, ring.enqueue telemetry) ∨
        mayFail ∧ outcome = some (false, ring.enqueue telemetry)) :
      RecoverEnd mayFail ring nvs (some (generation, telemetry))
        [slotKey (enqueueSlot ring.queue), "queue_meta"] [] outcome
        (((nvs.storeRecord (enqueueSlot ring.queue) telemetry).storeMetadata
          (ring.enqueue telemetry)).eraseJournal)
  | stale {generation : UInt32} {telemetry : IiotTelemetry}
      {outcome : Option (Bool × OfflineState)}
      (hgeneration : ring.queueGeneration ≠ generation)
      (houtcome : outcome = none ∨ mayFail ∧ outcome = some (false, ring)) :
      RecoverEnd mayFail ring nvs (some (generation, telemetry)) [] [] outcome nvs
  | discarded {generation : UInt32} {telemetry : IiotTelemetry}
      {outcome : Option (Bool × OfflineState)}
      (hgeneration : ring.queueGeneration ≠ generation)
      (houtcome : outcome = none ∨ outcome = some (true, ring) ∨
        mayFail ∧ outcome = some (false, ring)) :
      RecoverEnd mayFail ring nvs (some (generation, telemetry)) [] [] outcome nvs.eraseJournal
  | mismatched {generation : UInt32} {telemetry : IiotTelemetry}
      {outcome : Option (Bool × OfflineState)}
      (hgeneration : ring.queueGeneration ≠ generation)
      (hmismatch : ring.queueGeneration ≠ generation + 1)
      (houtcome : outcome = none ∨ outcome = some (false, ring)) :
      RecoverEnd mayFail ring nvs (some (generation, telemetry)) [] [] outcome nvs

/-- The journal entry belongs to no generation the ring can be in. -/
def JournalMismatch (ring : OfflineState) (journal : Option (UInt32 × IiotTelemetry)) : Prop :=
  ∃ generation telemetry, journal = some (generation, telemetry) ∧
    ring.queueGeneration ≠ generation ∧ ring.queueGeneration ≠ generation + 1

theorem recoveredText_ne (generation : UInt32) :
    "code=OFFLINE_QUEUE_JOURNAL_RECOVERED generation=" ++ toString generation.toNat ≠
      generationMismatchText :=
  append_ne_of_take _ (by decide)

/-- The replay of an entry of the ring's own generation. -/
theorem exec_replay {ring : OfflineState} {telemetry : IiotTelemetry} {text : UInt32 → String}
    {outcome : Option (Bool × OfflineState)}
    (htext : ∀ generation, text generation ≠ generationMismatchText)
    (hrun : Exec (nvsAnswers mayFail)
      (persistEnqueuedRecord ring telemetry >>= fun persisted =>
        if persisted.1 = true then
          espLog .warning (text persisted.2.queueGeneration) >>= fun _ =>
            erasePendingEnqueue >>= fun erased => pure (erased, persisted.2)
        else pure (false, persisted.2)) nvs trace outcome nvs') :
    RecoverEnd mayFail ring nvs (some (ring.queueGeneration, telemetry)) (storedKeys trace)
        (failedKeys trace) outcome nvs' ∧
      generationMismatchText ∉ loggedTexts trace := by
  rcases exec_bind_iff.mp hrun with
    ⟨rfl, hpersist⟩ | ⟨⟨persisted, state₁⟩, nvs₁, before, after, rfl, hpersist, hafter⟩
  · obtain ⟨hend, hlogs⟩ := exec_persistEnqueuedRecord hpersist
    exact ⟨.replaying rfl hend (by simp), by simp [hlogs]⟩
  · obtain ⟨hend, hlogs⟩ := exec_persistEnqueuedRecord hpersist
    rw [storedKeys_append, failedKeys_append, loggedTexts_append, hlogs, List.nil_append]
    dsimp only at hafter
    cases persisted with
    | false =>
        rw [if_neg Bool.false_ne_true] at hafter
        obtain ⟨rfl, rfl, houtcome⟩ := exec_pure hafter
        rw [storedKeys_nil, show failedKeys [] = [] from rfl, List.append_nil, List.append_nil]
        refine ⟨?_, by simp⟩
        rcases houtcome with rfl | rfl
        · exact .replaying rfl hend.interrupted (by simp)
        · exact .replaying rfl hend (by simp)
    | true =>
        rw [if_pos rfl] at hafter
        obtain ⟨hkeys, hfailed, rfl, rfl⟩ := hend.of_true
        rw [hkeys, hfailed]
        rcases exec_espLog hafter with ⟨rfl, rfl, rfl⟩ | ⟨tail, rfl, herase⟩
        · exact ⟨.replaying rfl (.saved (.inl rfl)) (by simp), by simp⟩
        · obtain ⟨hend, hkeys, hfailed, hlogs⟩ := exec_eraseAndReturn herase
          rw [storedKeys_log, hkeys, loggedTexts_log, hlogs]
          change RecoverEnd _ _ _ _ _ (_ ++ failedKeys tail) _ _ ∧ _
          rw [hfailed]
          refine ⟨?_, by simpa using (htext _).symm⟩
          rcases hend with ⟨rfl, houtcome⟩ | ⟨rfl, houtcome⟩
          · refine .replaying rfl (.saved (houtcome.imp_right .inr)) fun state hstate => ?_
            rcases houtcome with h | ⟨-, h⟩ <;> simp [h] at hstate
          · exact .replayed rfl houtcome

/-- Where the load's second half can stop, given a journal that is empty or intact. Only an entry of
no possible generation is reported as a mismatch. -/
theorem exec_recoverPending {ring : OfflineState} {journal : Option (UInt32 × IiotTelemetry)}
    {outcome : Option (Bool × OfflineState)} (hjournal : nvs.HoldsJournal journal)
    (hrun : Exec (nvsAnswers mayFail) (recoverPending ring) nvs trace outcome nvs') :
    RecoverEnd mayFail ring nvs journal (storedKeys trace) (failedKeys trace) outcome nvs' ∧
      (generationMismatchText ∈ loggedTexts trace → JournalMismatch ring journal) := by
  rcases exec_getBlob hrun with ⟨rfl, rfl, rfl⟩ | ⟨tail, rfl, hrest⟩
  · exact ⟨.cut, fun h => by simp at h⟩
  · rw [storedKeys_getBlob, loggedTexts_getBlob]
    change RecoverEnd _ _ _ _ _ (failedKeys tail) _ _ ∧ _
    cases journal with
    | none =>
        rw [Nvs.get_of_none hjournal] at hrest
        obtain ⟨rfl, rfl, houtcome⟩ := exec_pure hrest
        exact ⟨.empty houtcome, fun h => by simp at h⟩
    | some entry =>
        obtain ⟨generation, telemetry⟩ := entry
        rw [Nvs.get_of_some hjournal (Layout.length_encode _ _)] at hrest
        dsimp only at hrest
        rw [readPendingEnqueue_pendingOf] at hrest
        obtain ⟨hprevious, htelemetry⟩ :
            (pendingOf generation telemetry).previousGeneration = generation ∧
              (pendingOf generation telemetry).telemetry = telemetry := ⟨rfl, rfl⟩
        generalize pendingOf generation telemetry = pending at hrest hprevious htelemetry
        subst hprevious htelemetry
        dsimp only at hrest
        by_cases hgeneration : ring.queueGeneration = pending.previousGeneration
        · rw [if_pos hgeneration] at hrest
          rw [← hgeneration]
          obtain ⟨hend, hlogs⟩ := exec_replay recoveredText_ne hrest
          exact ⟨hend, fun h => absurd h hlogs⟩
        · rw [if_neg hgeneration] at hrest
          by_cases hmismatch : ring.queueGeneration = pending.previousGeneration + 1
          · rw [if_neg (fun h => h hmismatch)] at hrest
            obtain ⟨hend, hkeys, hfailed, hlogs⟩ := exec_eraseAndReturn hrest
            rw [hkeys, hfailed, hlogs]
            refine ⟨?_, fun h => by simp at h⟩
            rcases hend with ⟨rfl, houtcome⟩ | ⟨rfl, houtcome⟩
            · exact .stale hgeneration houtcome
            · exact .discarded hgeneration houtcome
          · rw [if_pos hmismatch] at hrest
            have hentry : JournalMismatch ring
                (some (pending.previousGeneration, pending.telemetry)) :=
              ⟨_, _, rfl, hgeneration, hmismatch⟩
            rcases exec_espLog hrest with ⟨rfl, rfl, rfl⟩ | ⟨tail, rfl, hreturn⟩
            · exact ⟨.mismatched hgeneration hmismatch (.inl rfl), fun _ => hentry⟩
            · obtain ⟨rfl, rfl, houtcome⟩ := exec_pure hreturn
              exact ⟨.mismatched hgeneration hmismatch houtcome, fun _ => hentry⟩

/-! ### The whole load -/

theorem unsavedAfter_append (before : Nat) (left right : List String) :
    unsavedAfter before (left ++ right) = unsavedAfter (unsavedAfter before left) right :=
  List.foldl_append

/-- Where `gateway_offline_load` can stop: in its first half, with the ring it stored or the result of
failing to store one, or in its second half, on a ring that agrees with the stored one. -/
theorem exec_gatewayOfflineLoad {capacity : Nat} {stored : OfflineState}
    {journal : Option (UInt32 × IiotTelemetry)} {outcome : Option (Bool × OfflineState)}
    (hwell : stored.queue.WellFormed) (hcursors : nvs.HoldsCursors capacity stored)
    (hrecords : nvs.HoldsRecords stored.queue) (hjournal : nvs.HoldsJournal journal)
    (hrun : Exec (nvsAnswers mayFail) (gatewayOfflineLoad capacity) nvs trace outcome nvs') :
    ∃ base, (base = nvs ∨ base = nvs.storeMetadata stored) ∧
      ((nvs' = base ∧ unsavedAfter 0 (storedKeys trace) = 0 ∧
          generationMismatchText ∉ loggedTexts trace ∧
          (outcome = none ∨ mayFail ∧ stored = freshState capacity ∧
            outcome = some (false, stored))) ∨
        ∃ loaded keys failed, loaded.Agrees stored ∧
          base "queue_meta" = some (queueMetadataLayout.encode loaded.metadata) ∧
          unsavedAfter 0 (storedKeys trace) = unsavedAfter 0 keys ∧
          failed ⊆ failedKeys trace ∧
          (generationMismatchText ∈ loggedTexts trace → JournalMismatch loaded journal) ∧
          RecoverEnd mayFail loaded base journal keys failed outcome nvs') := by
  rcases exec_bind_iff.mp hrun with
    ⟨rfl, hring⟩ | ⟨ring, nvs₁, before, after, rfl, hring, hafter⟩
  · obtain ⟨hbase, hunsaved, hlogs, -⟩ := exec_loadRing hwell hcursors hrecords hring
    exact ⟨nvs', hbase, .inl ⟨rfl, hunsaved, by simp [hlogs], .inl rfl⟩⟩
  · obtain ⟨hbase, hunsaved, hlogs, hresult⟩ := exec_loadRing hwell hcursors hrecords hring
    refine ⟨nvs₁, hbase, ?_⟩
    rcases hresult with hcut | ⟨hfail, hfresh, hearly⟩ | ⟨loaded, hsome, hagrees, hmetadata⟩
    · cases hcut
    · cases hearly
      obtain ⟨rfl, rfl, houtcome⟩ := exec_pure hafter
      rw [List.append_nil]
      exact .inl ⟨rfl, hunsaved, by simp [hlogs], houtcome.imp_right fun h =>
        ⟨hfail, hfresh, h⟩⟩
    · cases hsome
      have hpending : nvs₁.HoldsJournal journal := by
        rcases hbase with rfl | rfl
        · exact hjournal
        · exact Nvs.holdsJournal_storeMetadata hjournal
      obtain ⟨hend, hmismatch⟩ := exec_recoverPending hpending hafter
      refine .inr ⟨loaded, _, _, hagrees, hmetadata, ?_, ?_, ?_, hend⟩
      · rw [storedKeys_append, unsavedAfter_append, hunsaved]
      · rw [failedKeys_append]
        exact List.subset_append_right _ _
      · rw [loggedTexts_append, hlogs, List.nil_append]
        exact hmismatch

end IiotMonitoring
