import IiotMonitoring.Proof.OfflineStored

/-!
# Where each function can stop

One inversion lemma for each function of the durable queue: the writes that took effect, in order, and
what was returned if the run was not cut. A function stops after any of its writes, because the power
went or because the next call failed. Callers use these lemmas and never unfold a callee.
-/

namespace IiotMonitoring

open Program

variable {mayFail : Prop} {nvs nvs' : Nvs} {trace : List (Answered NvsAnswer)}

/-! ### Storing a blob -/

/-- A blob write and its commit, as `save_queue_metadata` and `save_pending_enqueue` make them. -/
def storeAndCommit (key : String) (image : List UInt8) : NvsProgram Bool := do
  let stored ← nvsSetBlob key image
  if stored = .ok then
    let committed ← nvsCommit
    return committed = .ok
  else
    return false

/-- Where a store can stop, with the keys written, the keys whose write failed and the flash left. -/
inductive StoreEnd (mayFail : Prop) (key : String) (image : List UInt8) (nvs : Nvs) :
    List String → List String → Option Bool → Nvs → Prop where
  | cut : StoreEnd mayFail key image nvs [] [] none nvs
  | failed (hfail : mayFail) {outcome : Option Bool} (houtcome : outcome = none ∨ outcome = some false) :
      StoreEnd mayFail key image nvs [] [key] outcome nvs
  | stored {outcome : Option Bool}
      (houtcome : outcome = none ∨ outcome = some true ∨ mayFail ∧ outcome = some false) :
      StoreEnd mayFail key image nvs [key] [] outcome (nvs.set key image)

theorem exec_storeAndCommit {key : String} {image : List UInt8} {outcome : Option Bool}
    (hrun : Exec (nvsAnswers mayFail) (storeAndCommit key image) nvs trace outcome nvs') :
    StoreEnd mayFail key image nvs (storedKeys trace) (failedKeys trace) outcome nvs' ∧
      loggedTexts trace = [] := by
  rcases exec_setBlob hrun with ⟨rfl, rfl, rfl⟩ | ⟨tail, rfl, hrest⟩ | ⟨tail, rfl, hfail, hrest⟩
  · exact ⟨.cut, rfl⟩
  · rw [if_pos rfl] at hrest
    rcases exec_commit hrest with ⟨rfl, rfl, rfl⟩ | ⟨answer, tail, rfl, hanswer, hrest⟩
    · exact ⟨.stored (.inl rfl), rfl⟩
    · obtain ⟨rfl, rfl, houtcome⟩ := exec_pure hrest
      refine ⟨.stored ?_, rfl⟩
      rcases houtcome with rfl | rfl
      · exact .inl rfl
      · rcases hanswer with rfl | ⟨hfail, rfl⟩
        · exact .inr (.inl (by simp))
        · exact .inr (.inr ⟨hfail, by simp⟩)
  · rw [if_neg (by decide)] at hrest
    obtain ⟨rfl, rfl, houtcome⟩ := exec_pure hrest
    exact ⟨.failed hfail houtcome, rfl⟩

theorem exec_saveQueueMetadata {state : OfflineState} {outcome : Option Bool}
    (hrun : Exec (nvsAnswers mayFail) (saveQueueMetadata state) nvs trace outcome nvs') :
    StoreEnd mayFail "queue_meta" (queueMetadataLayout.encode state.metadata) nvs
        (storedKeys trace) (failedKeys trace) outcome nvs' ∧
      loggedTexts trace = [] :=
  exec_storeAndCommit hrun

theorem exec_savePendingEnqueue {state : OfflineState} {telemetry : IiotTelemetry}
    {outcome : Option Bool}
    (hrun : Exec (nvsAnswers mayFail) (savePendingEnqueue state telemetry) nvs trace outcome nvs') :
    StoreEnd mayFail "q_pending"
        (pendingEnqueueLayout.encode (pendingOf state.queueGeneration telemetry)) nvs
        (storedKeys trace) (failedKeys trace) outcome nvs' ∧
      loggedTexts trace = [] :=
  exec_storeAndCommit hrun

/-! ### Erasing the journal -/

/-- Where the erasure that ends a push or a load can stop. -/
def EraseEnd (mayFail : Prop) (state : OfflineState) (nvs : Nvs)
    (outcome : Option (Bool × OfflineState)) (nvs' : Nvs) : Prop :=
  (nvs' = nvs ∧ (outcome = none ∨ mayFail ∧ outcome = some (false, state))) ∨
    (nvs' = nvs.eraseJournal ∧
      (outcome = none ∨ outcome = some (true, state) ∨ mayFail ∧ outcome = some (false, state)))

theorem exec_eraseAndReturn {state : OfflineState} {outcome : Option (Bool × OfflineState)}
    (hrun : Exec (nvsAnswers mayFail)
      (erasePendingEnqueue >>= fun erased => pure (erased, state)) nvs trace outcome nvs') :
    EraseEnd mayFail state nvs outcome nvs' ∧ storedKeys trace = [] ∧ failedKeys trace = [] ∧
      loggedTexts trace = [] := by
  rw [erasePendingEnqueue, LawfulMonad.bind_assoc] at hrun
  rcases exec_eraseKey hrun with ⟨rfl, rfl, rfl⟩ | ⟨tail, rfl, herased⟩ | ⟨tail, rfl, hfail, hkept⟩
  · exact ⟨.inl ⟨rfl, .inl rfl⟩, rfl, rfl, rfl⟩
  · have hanswer : nvs.eraseAnswer "q_pending" = .ok ∨ nvs.eraseAnswer "q_pending" = .nvsNotFound := by
      unfold Nvs.eraseAnswer
      split
      · exact .inr rfl
      · exact .inl rfl
    rw [if_pos hanswer, LawfulMonad.bind_assoc] at herased
    rcases exec_commit herased with ⟨rfl, rfl, rfl⟩ | ⟨answer, tail, rfl, hcommitted, hreturn⟩
    · exact ⟨.inr ⟨rfl, .inl rfl⟩, rfl, rfl, rfl⟩
    · obtain ⟨rfl, rfl, houtcome⟩ := exec_pure hreturn
      refine ⟨.inr ⟨rfl, houtcome.imp_right fun h => ?_⟩, rfl, rfl, rfl⟩
      rcases hcommitted with rfl | ⟨hfail, rfl⟩
      · exact .inl h
      · exact .inr ⟨hfail, h⟩
  · rw [if_neg (by decide)] at hkept
    obtain ⟨rfl, rfl, houtcome⟩ := exec_pure hkept
    exact ⟨.inl ⟨rfl, houtcome.imp_right fun h => ⟨hfail, h⟩⟩, rfl, rfl, rfl⟩

/-! ### Enqueueing in the slots and the metadata -/

/-- The RAM after an enqueue. -/
def OfflineState.enqueue (state : OfflineState) (telemetry : IiotTelemetry) : OfflineState where
  queue := (iiotOfflineQueuePush state.queue telemetry).2
  queueGeneration := state.queueGeneration + 1

/-- Where `persist_enqueued_record` can stop. -/
inductive PersistEnd (mayFail : Prop) (state : OfflineState) (telemetry : IiotTelemetry) (nvs : Nvs) :
    List String → List String → Option (Bool × OfflineState) → Nvs → Prop where
  | cut : PersistEnd mayFail state telemetry nvs [] [] none nvs
  | failed (hfail : mayFail) {outcome : Option (Bool × OfflineState)}
      (houtcome : outcome = none ∨ outcome = some (false, state)) :
      PersistEnd mayFail state telemetry nvs [] [slotKey (enqueueSlot state.queue)] outcome nvs
  | written {failed : List String} {outcome : Option (Bool × OfflineState)}
      (houtcome : outcome = none ∨ mayFail ∧ outcome = some (false, state.enqueue telemetry)) :
      PersistEnd mayFail state telemetry nvs [slotKey (enqueueSlot state.queue)] failed outcome
        (nvs.storeRecord (enqueueSlot state.queue) telemetry)
  | saved {outcome : Option (Bool × OfflineState)}
      (houtcome : outcome = none ∨ outcome = some (true, state.enqueue telemetry) ∨
        mayFail ∧ outcome = some (false, state.enqueue telemetry)) :
      PersistEnd mayFail state telemetry nvs [slotKey (enqueueSlot state.queue), "queue_meta"] []
        outcome
        ((nvs.storeRecord (enqueueSlot state.queue) telemetry).storeMetadata
          (state.enqueue telemetry))

theorem exec_persistEnqueuedRecord {state : OfflineState} {telemetry : IiotTelemetry}
    {outcome : Option (Bool × OfflineState)}
    (hrun : Exec (nvsAnswers mayFail) (persistEnqueuedRecord state telemetry) nvs trace outcome
      nvs') :
    PersistEnd mayFail state telemetry nvs (storedKeys trace) (failedKeys trace) outcome nvs' ∧
      loggedTexts trace = [] := by
  rcases exec_setBlob hrun with ⟨rfl, rfl, rfl⟩ | ⟨tail, rfl, hrest⟩ | ⟨tail, rfl, hfail, hrest⟩
  · exact ⟨.cut, rfl⟩
  · rw [if_pos rfl] at hrest
    rcases exec_bind_iff.mp hrest with
      ⟨rfl, hsave⟩ | ⟨saved, middle, before, after, rfl, hsave, hreturn⟩
    · obtain ⟨hend, hlogs⟩ := exec_saveQueueMetadata hsave
      refine ⟨?_, hlogs⟩
      show PersistEnd _ _ _ _ (_ :: storedKeys tail) (failedKeys tail) _ _
      generalize storedKeys tail = keys, failedKeys tail = failed at hend
      cases hend with
      | cut => exact .written (.inl rfl)
      | failed => exact .written (.inl rfl)
      | stored => exact .saved (.inl rfl)
    · obtain ⟨hend, hlogs⟩ := exec_saveQueueMetadata hsave
      obtain ⟨rfl, rfl, houtcome⟩ := exec_pure hreturn
      rw [List.append_nil]
      refine ⟨?_, hlogs⟩
      show PersistEnd _ _ _ _ (_ :: storedKeys before) (failedKeys before) _ _
      generalize storedKeys before = keys, failedKeys before = failed at hend
      cases hend with
      | failed hfail hsaved =>
          obtain rfl : saved = false := by simpa using hsaved
          exact .written (houtcome.imp_right fun h => ⟨hfail, h⟩)
      | stored hsaved =>
          refine .saved ?_
          rcases houtcome with rfl | rfl
          · exact .inl rfl
          · rcases hsaved with h | h | ⟨hfail, h⟩
            · cases h
            · obtain rfl : saved = true := by simpa using h
              exact .inr (.inl rfl)
            · obtain rfl : saved = false := by simpa using h
              exact .inr (.inr ⟨hfail, rfl⟩)
  · rw [if_neg (by decide)] at hrest
    obtain ⟨rfl, rfl, houtcome⟩ := exec_pure hrest
    exact ⟨.failed hfail houtcome, rfl⟩

theorem PersistEnd.interrupted {state : OfflineState} {telemetry : IiotTelemetry}
    {keys failed : List String} {outcome : Option (Bool × OfflineState)}
    (hend : PersistEnd mayFail state telemetry nvs keys failed outcome nvs') :
    PersistEnd mayFail state telemetry nvs keys failed none nvs' := by
  cases hend with
  | cut => exact .cut
  | failed hfail => exact .failed hfail (.inl rfl)
  | written => exact .written (.inl rfl)
  | saved => exact .saved (.inl rfl)

/-- Only the last stage reports success. -/
theorem PersistEnd.of_true {state state₁ : OfflineState} {telemetry : IiotTelemetry}
    {keys failed : List String}
    (hend : PersistEnd mayFail state telemetry nvs keys failed (some (true, state₁)) nvs') :
    keys = [slotKey (enqueueSlot state.queue), "queue_meta"] ∧ failed = [] ∧
      state₁ = state.enqueue telemetry ∧
      nvs' = (nvs.storeRecord (enqueueSlot state.queue) telemetry).storeMetadata
        (state.enqueue telemetry) := by
  generalize houtcome : some (true, state₁) = outcome at hend
  cases hend with
  | cut => cases houtcome
  | failed _ h => rcases h with h | h <;> simp [h] at houtcome
  | written h => rcases h with h | ⟨-, h⟩ <;> simp [h] at houtcome
  | saved h =>
      rcases h with h | h | ⟨-, h⟩
      · simp [h] at houtcome
      · obtain rfl : state₁ = state.enqueue telemetry := by simpa [h] using houtcome
        exact ⟨rfl, rfl, rfl, rfl⟩
      · simp [h] at houtcome

/-! ### Push -/

/-- Where `gateway_offline_push` can stop. It returns true only at the end of the last stage. -/
inductive PushEnd (mayFail : Prop) (state : OfflineState) (telemetry : IiotTelemetry) (nvs : Nvs) :
    List String → Option (Bool × OfflineState) → Nvs → Prop where
  | untouched {outcome : Option (Bool × OfflineState)}
      (houtcome : outcome = none ∨ mayFail ∧ outcome = some (false, state)) :
      PushEnd mayFail state telemetry nvs [] outcome nvs
  | journaled {outcome : Option (Bool × OfflineState)}
      (houtcome : outcome = none ∨ mayFail ∧ outcome = some (false, state)) :
      PushEnd mayFail state telemetry nvs ["q_pending"] outcome
        (nvs.storeJournal state.queueGeneration telemetry)
  | written {outcome : Option (Bool × OfflineState)}
      (houtcome : outcome = none ∨ mayFail ∧ outcome = some (false, state.enqueue telemetry)) :
      PushEnd mayFail state telemetry nvs ["q_pending", slotKey (enqueueSlot state.queue)] outcome
        ((nvs.storeJournal state.queueGeneration telemetry).storeRecord
          (enqueueSlot state.queue) telemetry)
  | saved {outcome : Option (Bool × OfflineState)}
      (houtcome : outcome = none ∨ mayFail ∧ outcome = some (false, state.enqueue telemetry)) :
      PushEnd mayFail state telemetry nvs
        ["q_pending", slotKey (enqueueSlot state.queue), "queue_meta"] outcome
        (((nvs.storeJournal state.queueGeneration telemetry).storeRecord
          (enqueueSlot state.queue) telemetry).storeMetadata (state.enqueue telemetry))
  | erased {outcome : Option (Bool × OfflineState)}
      (houtcome : outcome = none ∨ outcome = some (true, state.enqueue telemetry) ∨
        mayFail ∧ outcome = some (false, state.enqueue telemetry)) :
      PushEnd mayFail state telemetry nvs
        ["q_pending", slotKey (enqueueSlot state.queue), "queue_meta"] outcome
        ((((nvs.storeJournal state.queueGeneration telemetry).storeRecord
          (enqueueSlot state.queue) telemetry).storeMetadata
            (state.enqueue telemetry)).eraseJournal)

theorem exec_journaledEnqueue {state : OfflineState} {telemetry : IiotTelemetry}
    {outcome : Option (Bool × OfflineState)}
    (hrun : Exec (nvsAnswers mayFail) (journaledEnqueue state telemetry) nvs trace outcome nvs') :
    PushEnd mayFail state telemetry nvs (storedKeys trace) outcome nvs' ∧ loggedTexts trace = [] := by
  rcases exec_bind_iff.mp hrun with
    ⟨rfl, hjournal⟩ | ⟨journaled, nvs₁, before, after, rfl, hjournal, hrest⟩
  · obtain ⟨hend, hlogs⟩ := exec_savePendingEnqueue hjournal
    refine ⟨?_, hlogs⟩
    generalize storedKeys trace = keys, failedKeys trace = failed at hend
    cases hend with
    | cut => exact .untouched (.inl rfl)
    | failed => exact .untouched (.inl rfl)
    | stored => exact .journaled (.inl rfl)
  · obtain ⟨hend, hlogs⟩ := exec_savePendingEnqueue hjournal
    rw [storedKeys_append, loggedTexts_append, hlogs, List.nil_append]
    generalize storedKeys before = keys, failedKeys before = failed at hend
    cases journaled with
    | false =>
        rw [if_neg Bool.false_ne_true] at hrest
        obtain ⟨rfl, rfl, houtcome⟩ := exec_pure hrest
        refine ⟨?_, rfl⟩
        cases hend with
        | failed hfail => exact .untouched (houtcome.imp_right fun h => ⟨hfail, h⟩)
        | stored hsaved =>
            have hfail : mayFail := by simpa using hsaved
            exact .journaled (houtcome.imp_right fun h => ⟨hfail, h⟩)
    | true =>
        rw [if_pos rfl] at hrest
        cases hend with
        | failed _ hsaved => simp at hsaved
        | stored =>
            rcases exec_bind_iff.mp hrest with
              ⟨rfl, hpersist⟩ | ⟨⟨persisted, state₁⟩, nvs₂, before₁, after₁, rfl, hpersist, hrest⟩
            · obtain ⟨hend, hlogs⟩ := exec_persistEnqueuedRecord hpersist
              refine ⟨?_, hlogs⟩
              generalize storedKeys after = keys, failedKeys after = failed at hend
              cases hend with
              | cut => exact .journaled (.inl rfl)
              | failed => exact .journaled (.inl rfl)
              | written => exact .written (.inl rfl)
              | saved => exact .saved (.inl rfl)
            · obtain ⟨hend, hlogs⟩ := exec_persistEnqueuedRecord hpersist
              rw [storedKeys_append, loggedTexts_append, hlogs, List.nil_append]
              generalize storedKeys before₁ = keys, failedKeys before₁ = failed at hend
              cases persisted with
              | false =>
                  obtain ⟨rfl, rfl, houtcome⟩ := exec_pure hrest
                  refine ⟨?_, rfl⟩
                  cases hend with
                  | failed hfail hpersisted =>
                      obtain rfl : state₁ = state := by simpa using hpersisted
                      exact .journaled (houtcome.imp_right fun h => ⟨hfail, h⟩)
                  | written hpersisted =>
                      obtain ⟨hfail, rfl⟩ : mayFail ∧ state₁ = state.enqueue telemetry := by
                        simpa using hpersisted
                      exact .written (houtcome.imp_right fun h => ⟨hfail, h⟩)
                  | saved hpersisted =>
                      obtain ⟨hfail, rfl⟩ : mayFail ∧ state₁ = state.enqueue telemetry := by
                        simpa using hpersisted
                      exact .saved (houtcome.imp_right fun h => ⟨hfail, h⟩)
              | true =>
                  obtain ⟨rfl, -, rfl, rfl⟩ := hend.of_true
                  obtain ⟨hend, hkeys, -, hlogs⟩ := exec_eraseAndReturn hrest
                  rw [hkeys, hlogs, List.append_nil]
                  refine ⟨?_, rfl⟩
                  rcases hend with ⟨rfl, houtcome⟩ | ⟨rfl, houtcome⟩
                  · exact .saved houtcome
                  · exact .erased houtcome

theorem PushEnd.interrupted {state : OfflineState} {telemetry : IiotTelemetry} {keys : List String}
    {outcome : Option (Bool × OfflineState)}
    (hend : PushEnd mayFail state telemetry nvs keys outcome nvs') :
    PushEnd mayFail state telemetry nvs keys none nvs' := by
  cases hend with
  | untouched => exact .untouched (.inl rfl)
  | journaled => exact .journaled (.inl rfl)
  | written => exact .written (.inl rfl)
  | saved => exact .saved (.inl rfl)
  | erased => exact .erased (.inl rfl)

/-- A text is not another that starts differently. -/
theorem append_ne_of_take {start text : String} (rest : String)
    (h : text.toList.take start.toList.length ≠ start.toList) : start ++ rest ≠ text := by
  rintro rfl
  exact h (by rw [String.toList_append, List.take_left])

theorem exec_gatewayOfflinePush {state : OfflineState} {telemetry : IiotTelemetry}
    {outcome : Option (Bool × OfflineState)}
    (hrun : Exec (nvsAnswers mayFail) (gatewayOfflinePush state telemetry) nvs trace outcome nvs') :
    PushEnd mayFail state telemetry nvs (storedKeys trace) outcome nvs' ∧
      generationMismatchText ∉ loggedTexts trace := by
  rcases exec_bind_iff.mp hrun with
    ⟨rfl, henqueue⟩ | ⟨⟨durable, state₁⟩, nvs₁, before, after, rfl, henqueue, hrest⟩
  · obtain ⟨hend, hlogs⟩ := exec_journaledEnqueue henqueue
    exact ⟨hend, by simp [hlogs]⟩
  · obtain ⟨hend, hlogs⟩ := exec_journaledEnqueue henqueue
    rw [storedKeys_append, loggedTexts_append, hlogs, List.nil_append]
    dsimp only at hrest
    -- What follows the enqueue only logs and returns the result.
    have htail : storedKeys after = [] ∧ nvs' = nvs₁ ∧ generationMismatchText ∉ loggedTexts after ∧
        (outcome = none ∨ outcome = some (durable, state₁)) := by
      cases durable with
      | true =>
          rw [if_pos rfl] at hrest
          split at hrest
          · rcases exec_espLog hrest with ⟨rfl, rfl, rfl⟩ | ⟨tail, rfl, hreturn⟩
            · exact ⟨rfl, rfl, by simp, .inl rfl⟩
            · obtain ⟨rfl, rfl, houtcome⟩ := exec_pure hreturn
              refine ⟨rfl, rfl, ?_, houtcome⟩
              simpa using (append_ne_of_take _ (by decide)).symm
          · obtain ⟨rfl, rfl, houtcome⟩ := exec_pure hrest
            exact ⟨rfl, rfl, by simp, houtcome⟩
      | false =>
          rw [if_neg Bool.false_ne_true] at hrest
          rcases exec_espLog hrest with ⟨rfl, rfl, rfl⟩ | ⟨tail, rfl, hreturn⟩
          · exact ⟨rfl, rfl, by simp, .inl rfl⟩
          · obtain ⟨rfl, rfl, houtcome⟩ := exec_pure hreturn
            exact ⟨rfl, rfl, by simp [generationMismatchText], houtcome.imp_right fun h => by
              rw [h]⟩
    obtain ⟨hkeys, rfl, hmismatch, houtcome⟩ := htail
    rw [hkeys, List.append_nil]
    refine ⟨?_, hmismatch⟩
    rcases houtcome with rfl | rfl
    · exact hend.interrupted
    · exact hend

/-! ### Pop -/

/-- The RAM after a dequeue. -/
def OfflineState.dequeue (state : OfflineState) : OfflineState where
  queue :=
    { state.queue with
      head := (state.queue.head + 1) % state.queue.capacity
      count := state.queue.count - 1 }
  queueGeneration := state.queueGeneration + 1

/-- Where `gateway_offline_pop` can stop. The last two stages leave RAM advanced; before them a
failure puts it back. -/
inductive PopEnd (mayFail : Prop) (state : OfflineState) (nvs : Nvs) :
    List String → Option (Bool × Option IiotTelemetry × OfflineState) → Nvs → Prop where
  | untouched {outcome : Option (Bool × Option IiotTelemetry × OfflineState)}
      (houtcome : outcome = none ∨ (state.queue.count = 0 ∨ mayFail) ∧
        outcome = some (false, iiotOfflineQueuePeek state.queue, state)) :
      PopEnd mayFail state nvs [] outcome nvs
  | saved (hcount : state.queue.count ≠ 0)
      {outcome : Option (Bool × Option IiotTelemetry × OfflineState)}
      (houtcome : outcome = none ∨ mayFail ∧
        outcome = some (false, iiotOfflineQueuePeek state.queue, state)) :
      PopEnd mayFail state nvs ["queue_meta"] outcome (nvs.storeMetadata state.dequeue)
  | kept (hcount : state.queue.count ≠ 0) (hfail : mayFail)
      {outcome : Option (Bool × Option IiotTelemetry × OfflineState)}
      (houtcome : outcome = none ∨ ∃ committed,
        outcome = some (committed, iiotOfflineQueuePeek state.queue, state.dequeue)) :
      PopEnd mayFail state nvs ["queue_meta"] outcome (nvs.storeMetadata state.dequeue)
  | erased (hcount : state.queue.count ≠ 0)
      {outcome : Option (Bool × Option IiotTelemetry × OfflineState)}
      (houtcome : outcome = none ∨ ∃ committed, (committed = true ∨ mayFail) ∧
        outcome = some (committed, iiotOfflineQueuePeek state.queue, state.dequeue)) :
      PopEnd mayFail state nvs ["queue_meta"] outcome
        ((nvs.storeMetadata state.dequeue).erase (slotKey state.queue.head))

/-- A failed metadata write undoes the dequeue. -/
theorem restore_dequeue {state : OfflineState} (hcount : state.queue.count ≠ 0) :
    (⟨{ state.dequeue.queue with
        head := state.queue.head
        count := state.dequeue.queue.count + 1 },
      state.dequeue.queueGeneration - 1⟩ : OfflineState) = state := by
  obtain ⟨queue, generation⟩ := state
  obtain ⟨records, dropped, head, count, capacity⟩ := queue
  have hcount' : count - 1 + 1 = count := Nat.sub_add_cancel (Nat.pos_of_ne_zero hcount)
  simp [OfflineState.dequeue, hcount']

theorem exec_gatewayOfflinePop {state : OfflineState}
    {outcome : Option (Bool × Option IiotTelemetry × OfflineState)}
    (hrun : Exec (nvsAnswers mayFail) (gatewayOfflinePop state) nvs trace outcome nvs') :
    PopEnd mayFail state nvs (storedKeys trace) outcome nvs' ∧ loggedTexts trace = [] := by
  by_cases hcount : state.queue.count = 0
  · rw [gatewayOfflinePop, if_pos hcount] at hrun
    obtain ⟨rfl, rfl, houtcome⟩ := exec_pure hrun
    have hpeek : iiotOfflineQueuePeek state.queue = none := if_pos hcount
    rw [← hpeek] at houtcome
    exact ⟨.untouched (houtcome.imp_right fun h => ⟨.inl hcount, h⟩), rfl⟩
  · have hpeek : iiotOfflineQueuePeek state.queue =
        some (state.queue.records state.queue.head) := if_neg hcount
    have hpop : iiotOfflineQueuePop state.queue =
        some (state.queue.records state.queue.head, state.dequeue.queue) := by
      rw [iiotOfflineQueuePop, hpeek]
      rfl
    rw [gatewayOfflinePop, if_neg hcount, hpop] at hrun
    rcases exec_bind_iff.mp hrun with
      ⟨rfl, hsave⟩ | ⟨saved, nvs₁, before, after, rfl, hsave, hrest⟩
    · obtain ⟨hend, hlogs⟩ := exec_saveQueueMetadata hsave
      refine ⟨?_, hlogs⟩
      generalize storedKeys trace = keys, failedKeys trace = failed at hend
      cases hend with
      | cut => exact .untouched (.inl rfl)
      | failed => exact .untouched (.inl rfl)
      | stored => exact .saved hcount (.inl rfl)
    · obtain ⟨hend, hlogs⟩ := exec_saveQueueMetadata hsave
      rw [storedKeys_append, loggedTexts_append, hlogs, List.nil_append]
      generalize storedKeys before = keys, failedKeys before = failed at hend
      cases saved with
      | false =>
          obtain ⟨rfl, rfl, houtcome⟩ := exec_pure hrest
          have hrestored : outcome = none ∨
              outcome = some (false, iiotOfflineQueuePeek state.queue, state) := by
            rw [hpeek]
            exact houtcome.imp_right fun h =>
              h.trans (congrArg (fun ram => some (false, some _, ram)) (restore_dequeue hcount))
          refine ⟨?_, rfl⟩
          cases hend with
          | failed hfail =>
              exact .untouched (hrestored.imp_right fun h => ⟨.inr hfail, h⟩)
          | stored hsaved =>
              have hfail : mayFail := by simpa using hsaved
              exact .saved hcount (hrestored.imp_right fun h => ⟨hfail, h⟩)
      | true =>
          cases hend with
          | failed _ hsaved => simp at hsaved
          | stored =>
              rw [if_pos rfl] at hrest
              rcases exec_eraseKey hrest with
                ⟨rfl, rfl, rfl⟩ | ⟨tail, rfl, herased⟩ | ⟨tail, rfl, hfail, hkept⟩
              · exact ⟨.saved hcount (.inl rfl), rfl⟩
              · rcases exec_commit herased with
                  ⟨rfl, rfl, rfl⟩ | ⟨answer, tail, rfl, hanswer, hreturn⟩
                · exact ⟨.erased hcount (.inl rfl), rfl⟩
                · obtain ⟨rfl, rfl, houtcome⟩ := exec_pure hreturn
                  rw [← hpeek] at houtcome
                  refine ⟨.erased hcount (houtcome.imp_right fun h => ⟨_, ?_, h⟩), rfl⟩
                  exact hanswer.imp (fun h => by simp [h]) fun h => h.1
              · rcases exec_commit hkept with
                  ⟨rfl, rfl, rfl⟩ | ⟨answer, tail, rfl, hanswer, hreturn⟩
                · exact ⟨.kept hcount hfail (.inl rfl), rfl⟩
                · obtain ⟨rfl, rfl, houtcome⟩ := exec_pure hreturn
                  rw [← hpeek] at houtcome
                  exact ⟨.kept hcount hfail (houtcome.imp_right fun h => ⟨_, h⟩), rfl⟩

/-! ### Uninterrupted runs on a device that does not fail -/

theorem run_push (nvs : Nvs) (state : OfflineState) (telemetry : IiotTelemetry) :
    ((gatewayOfflinePush state telemetry).run nvsDevice nvs).1 = (true, state.enqueue telemetry) := by
  obtain ⟨trace, htrace⟩ := exec_run nvsDevice (nvsAnswers_nvsDevice False)
    (gatewayOfflinePush state telemetry) nvs
  obtain ⟨hend, -⟩ := exec_gatewayOfflinePush htrace
  generalize (gatewayOfflinePush state telemetry).run nvsDevice nvs = final at hend ⊢
  generalize storedKeys trace = keys at hend
  obtain ⟨result, nvs'⟩ := final
  dsimp only at hend ⊢
  cases hend with
  | untouched h => simp at h
  | journaled h => simp at h
  | written h => simp at h
  | saved h => simp at h
  | erased h => simpa using h

theorem run_pop (nvs : Nvs) {state : OfflineState} (hcount : state.queue.count ≠ 0) :
    ((gatewayOfflinePop state).run nvsDevice nvs).1 =
      (true, iiotOfflineQueuePeek state.queue, state.dequeue) := by
  obtain ⟨trace, htrace⟩ := exec_run nvsDevice (nvsAnswers_nvsDevice False)
    (gatewayOfflinePop state) nvs
  obtain ⟨hend, -⟩ := exec_gatewayOfflinePop htrace
  generalize (gatewayOfflinePop state).run nvsDevice nvs = final at hend ⊢
  generalize storedKeys trace = keys at hend
  obtain ⟨result, nvs'⟩ := final
  dsimp only at hend ⊢
  cases hend with
  | untouched h => simp [hcount] at h
  | saved _ h => simp at h
  | kept _ h => exact h.elim
  | erased _ h => simpa using h

theorem run_pop_of_empty (nvs : Nvs) {state : OfflineState} (hcount : state.queue.count = 0) :
    ((gatewayOfflinePop state).run nvsDevice nvs).1 = (false, none, state) := by
  rw [gatewayOfflinePop, if_pos hcount]
  rfl

end IiotMonitoring
