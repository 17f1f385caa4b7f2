import IiotMonitoring.Proof.OfflineRing

/-!
# The queue survives power loss

While no NVS call fails, the flash always determines the queue the next load yields. Between calls the
journal is empty and the flash holds the ring in RAM. Inside a call one of three things can also hold:
the journal has an entry the ring has already taken, and is to be discarded; or it has one the ring
has yet to take, with its slot written or not. In the last case the load yields the ring with the
entry enqueued, whatever the slot holds: an enqueue writes it first. So a call cut anywhere is either
done or not begun as far as the next load can tell.
-/

namespace IiotMonitoring

open Program

variable {capacity : Nat} {nvs nvs' : Nvs} {trace : List (Answered NvsAnswer)}
  {fifo : BoundedFifo capacity IiotTelemetry} {state stored loaded : OfflineState}

/-! ### Rings that show a queue -/

theorem shows_fresh (capacity : Nat) :
    (freshState capacity).queue.Shows (BoundedFifo.empty : BoundedFifo capacity IiotTelemetry) :=
  ⟨rfl, rfl⟩

theorem OfflineState.Agrees.shows (hagrees : loaded.Agrees stored) (h : stored.queue.Shows fifo) :
    loaded.queue.Shows fifo :=
  ⟨hagrees.items.trans h.1, hagrees.dropped.trans h.2⟩

theorem OfflineState.Agrees.shows_enqueue (hagrees : loaded.Agrees stored)
    (hwell : stored.queue.WellFormed) {telemetry : IiotTelemetry}
    (h : (stored.enqueue telemetry).queue.Shows fifo) :
    (loaded.enqueue telemetry).queue.Shows fifo := by
  constructor
  · rw [items_enqueue (hagrees.wellFormed hwell), hagrees.items, hagrees.count, hagrees.capacity,
      ← items_enqueue hwell]
    exact h.1
  · rw [dropped_enqueue (hagrees.wellFormed hwell), hagrees.dropped, hagrees.count,
      hagrees.capacity, ← dropped_enqueue hwell]
    exact h.2

/-- The RAM push is the reference push. -/
theorem shows_enqueue (hwell : state.queue.WellFormed) (hcapacity : state.queue.capacity = capacity)
    (h : state.queue.Shows fifo) (telemetry : IiotTelemetry) :
    (state.enqueue telemetry).queue.Shows (fifo.push telemetry) := by
  have hlength : fifo.items.length = state.queue.count := by rw [← h.1, length_items]
  constructor
  · rw [items_enqueue hwell, h.1, hcapacity]
    split
    · rename_i hfull
      exact (fifo.items_push_of_full telemetry (hcapacity ▸ hwell.capacity_pos)
        (hlength.trans hfull)).symm
    · rename_i hroom
      have hle := hwell.count_le
      exact (fifo.items_push_of_lt telemetry (by omega)).symm
  · rw [dropped_enqueue hwell, h.2, hcapacity]
    split
    · rename_i hfull
      rw [fifo.dropped_push_of_full telemetry (hlength.trans hfull), UInt32.ofNat_add]
      rfl
    · rename_i hroom
      have hle := hwell.count_le
      rw [fifo.dropped_push_of_lt telemetry (by omega)]

/-- The RAM pop is the reference pop, also on an empty queue. -/
theorem shows_dequeue (hwell : state.queue.WellFormed) (hcount : state.queue.count ≠ 0)
    (h : state.queue.Shows fifo) : state.dequeue.queue.Shows fifo.pop :=
  ⟨by rw [items_dequeue hwell hcount, h.1, BoundedFifo.items_pop], h.2⟩

theorem shows_pop_of_empty (hcount : state.queue.count = 0) (h : state.queue.Shows fifo) :
    state.queue.Shows fifo.pop := by
  have hnil : fifo.items = [] := by
    rw [← h.1, ← List.length_eq_zero_iff, length_items, hcount]
  exact ⟨by rw [h.1, BoundedFifo.items_pop, hnil, List.tail_nil], h.2⟩

/-! ### What the flash promises -/

/-- Between calls: the journal is empty and the flash holds the ring in RAM. -/
structure Synchronised (nvs : Nvs) (state : OfflineState)
    (fifo : BoundedFifo capacity IiotTelemetry) : Prop where
  holds : nvs.Holds capacity state
  journal : nvs.HoldsJournal none
  shows : state.queue.Shows fifo

/-- The journal is empty or its entry is already in the stored ring, or its entry is next. -/
def JournalYields (journal : Option (UInt32 × IiotTelemetry)) (stored : OfflineState)
    (fifo : BoundedFifo capacity IiotTelemetry) : Prop :=
  (stored.queue.Shows fifo ∧ ∀ generation telemetry, journal = some (generation, telemetry) →
      stored.queueGeneration = generation + 1) ∨
    ∃ telemetry, journal = some (stored.queueGeneration, telemetry) ∧
      (stored.enqueue telemetry).queue.Shows fifo

/-- The next load yields this queue. -/
def Recovers (nvs : Nvs) (fifo : BoundedFifo capacity IiotTelemetry) : Prop :=
  ∃ stored journal, nvs.Holds capacity stored ∧ nvs.HoldsJournal journal ∧
    JournalYields journal stored fifo

theorem Synchronised.recovers (h : Synchronised nvs state fifo) : Recovers nvs fifo :=
  ⟨state, none, h.holds, h.journal, .inl ⟨h.shows, by simp⟩⟩

theorem generation_ne_succ (generation : UInt32) : generation ≠ generation + 1 := by simp

theorem JournalYields.not_mismatch {journal : Option (UInt32 × IiotTelemetry)}
    (h : JournalYields journal stored fifo) (hagrees : loaded.Agrees stored) :
    ¬ JournalMismatch loaded journal := by
  rintro ⟨generation, telemetry, rfl, hne, hne'⟩
  rw [hagrees.generation] at hne hne'
  rcases h with ⟨-, hstale⟩ | ⟨_, hentry, -⟩
  · exact hne' (hstale _ _ rfl)
  · exact hne (Prod.mk.inj (Option.some.inj hentry)).1.symm

/-- An entry of the ring's own generation is next. -/
theorem JournalYields.enqueue {generation : UInt32} {telemetry : IiotTelemetry}
    (h : JournalYields (some (generation, telemetry)) stored fifo)
    (hgeneration : stored.queueGeneration = generation) :
    (stored.enqueue telemetry).queue.Shows fifo := by
  rcases h with ⟨-, hstale⟩ | ⟨_, hentry, hshows⟩
  · exact absurd (hgeneration.symm.trans (hstale _ _ rfl)) (generation_ne_succ _)
  · obtain ⟨-, rfl⟩ := Prod.mk.inj (Option.some.inj hentry)
    exact hshows

/-- An entry of another generation is not. -/
theorem JournalYields.settled {generation : UInt32} {telemetry : IiotTelemetry}
    (h : JournalYields (some (generation, telemetry)) stored fifo)
    (hgeneration : stored.queueGeneration ≠ generation) : stored.queue.Shows fifo := by
  rcases h with ⟨hshows, -⟩ | ⟨_, hentry, -⟩
  · exact hshows
  · exact absurd (Prod.mk.inj (Option.some.inj hentry)).1.symm hgeneration

/-! ### Load -/

/-- A completed load synchronises, and an interrupted one leaves what the next will yield. -/
theorem exec_load_recovers (hrecovers : Recovers nvs fifo)
    {outcome : Option (Bool × OfflineState)}
    (hrun : Exec (nvsAnswers False) (gatewayOfflineLoad capacity) nvs trace outcome nvs') :
    (∀ result, outcome = some result → Synchronised nvs' result.2 fifo) ∧
      (outcome = none → Recovers nvs' fifo) ∧ generationMismatchText ∉ loggedTexts trace := by
  obtain ⟨stored, journal, hholds, hjournal, hyields⟩ := hrecovers
  obtain ⟨base, hbase, hend⟩ :=
    exec_gatewayOfflineLoad hholds.wellFormed hholds.cursors hholds.records hjournal hrun
  have hbaseHolds : base.Holds capacity stored ∧ base.HoldsJournal journal := by
    rcases hbase with rfl | rfl
    · exact ⟨hholds, hjournal⟩
    · exact ⟨Nvs.holds_storeMetadata hholds.wellFormed hholds.capacity_eq hholds.records,
        Nvs.holdsJournal_storeMetadata hjournal⟩
  obtain ⟨hstored, hentry⟩ := hbaseHolds
  have hcut : Recovers base fifo := ⟨stored, journal, hstored, hentry, hyields⟩
  rcases hend with ⟨rfl, -, hlogs, rfl | ⟨hfail, -⟩⟩ |
    ⟨loaded, keys, failed, hagrees, hmetadata, -, -, hlogs, hrecover⟩
  · exact ⟨by simp, fun _ => hcut, hlogs⟩
  · exact hfail.elim
  · refine and_assoc.mp ⟨?_, fun h => hyields.not_mismatch hagrees (hlogs h)⟩
    have hloaded : base.Holds capacity loaded := hstored.agrees hagrees hmetadata
    have hslot := enqueueSlot_lt hloaded.wellFormed
    cases hrecover with
    | cut => exact ⟨by simp, fun _ => hcut⟩
    | empty houtcome =>
        have hshows : loaded.queue.Shows fifo := by
          rcases hyields with ⟨hshows, -⟩ | ⟨_, h, -⟩
          · exact hagrees.shows hshows
          · cases h
        refine ⟨fun result hresult => ?_, fun _ => hcut⟩
        obtain rfl : result = (true, loaded) := by simpa [hresult] using houtcome
        exact ⟨hloaded, hentry, hshows⟩
    | replaying hgeneration hpersist hunfinished =>
        rename_i generation telemetry
        have hshows : (loaded.enqueue telemetry).queue.Shows fifo :=
          hagrees.shows_enqueue hstored.wellFormed
            (hyields.enqueue (hagrees.generation.symm.trans hgeneration))
        cases hpersist with
        | cut => exact ⟨by simp, fun _ => hcut⟩
        | failed hfail => exact hfail.elim
        | written houtcome =>
            obtain rfl : outcome = none := by simpa using houtcome
            obtain ⟨written, hwritten, hsame, henqueue⟩ := hloaded.storeRecord telemetry
            refine ⟨by simp, fun _ => ⟨written, _, hwritten,
              Nvs.holdsJournal_storeRecord hslot _ hentry, .inr ⟨telemetry, ?_, ?_⟩⟩⟩
            · rw [hsame, hgeneration]
            · rw [henqueue]
              exact hshows
        | saved houtcome =>
            have hnone : outcome = none := by
              rcases houtcome with h | h | ⟨hfail, -⟩
              · exact h
              · exact absurd h (hunfinished _)
              · exact hfail.elim
            subst hnone
            refine ⟨by simp, fun _ => ⟨loaded.enqueue telemetry, _, hloaded.enqueue telemetry,
              Nvs.holdsJournal_storeMetadata (Nvs.holdsJournal_storeRecord hslot _ hentry),
              .inl ⟨hshows, fun generation' telemetry' h => ?_⟩⟩⟩
            obtain ⟨rfl, -⟩ := Prod.mk.inj (Option.some.inj h)
            rw [enqueue_queueGeneration, hgeneration]
    | replayed hgeneration houtcome =>
        rename_i generation telemetry
        have hsync : Synchronised _ (loaded.enqueue telemetry) fifo :=
          ⟨(hloaded.enqueue telemetry).eraseJournal, Nvs.holdsJournal_eraseJournal,
            hagrees.shows_enqueue hstored.wellFormed
              (hyields.enqueue (hagrees.generation.symm.trans hgeneration))⟩
        refine ⟨fun result hresult => ?_, fun _ => hsync.recovers⟩
        obtain rfl : result = (true, loaded.enqueue telemetry) := by simpa [hresult] using houtcome
        exact hsync
    | stale hgeneration houtcome =>
        obtain rfl : outcome = none := by simpa using houtcome
        exact ⟨by simp, fun _ => hcut⟩
    | discarded hgeneration houtcome =>
        have hsync : Synchronised _ loaded fifo :=
          ⟨hloaded.eraseJournal, Nvs.holdsJournal_eraseJournal,
            hagrees.shows (hyields.settled (hagrees.generation ▸ hgeneration))⟩
        refine ⟨fun result hresult => ?_, fun _ => hsync.recovers⟩
        obtain rfl : result = (true, loaded) := by simpa [hresult] using houtcome
        exact hsync
    | mismatched hgeneration hmismatch =>
        exact absurd ⟨_, _, rfl, hgeneration, hmismatch⟩ (hyields.not_mismatch hagrees)

/-! ### Push and pop -/

/-- A completed push applies it, and an interrupted one has applied it or not begun. -/
theorem exec_push_recovers (hsync : Synchronised nvs state fifo) {telemetry : IiotTelemetry}
    {outcome : Option (Bool × OfflineState)}
    (hrun : Exec (nvsAnswers False) (gatewayOfflinePush state telemetry) nvs trace outcome nvs') :
    (∀ result, outcome = some result → Synchronised nvs' result.2 (fifo.push telemetry)) ∧
      (outcome = none → Recovers nvs' fifo ∨ Recovers nvs' (fifo.push telemetry)) ∧
      generationMismatchText ∉ loggedTexts trace := by
  obtain ⟨hend, hlogs⟩ := exec_gatewayOfflinePush hrun
  obtain ⟨hholds, hjournal, hshows⟩ := hsync
  have hwell := hholds.wellFormed
  have hslot := enqueueSlot_lt hwell
  have hpushed : (state.enqueue telemetry).queue.Shows (fifo.push telemetry) :=
    shows_enqueue hwell hholds.capacity_eq hshows telemetry
  have hjournaled := hholds.storeJournal state.queueGeneration telemetry
  have hentry : (nvs.storeJournal state.queueGeneration telemetry).HoldsJournal
      (some (state.queueGeneration, telemetry)) := Nvs.holdsJournal_storeJournal _ _
  refine and_assoc.mp ⟨?_, hlogs⟩
  generalize storedKeys trace = keys at hend
  cases hend with
  | untouched houtcome =>
      obtain rfl : outcome = none := by simpa using houtcome
      exact ⟨by simp, fun _ => .inl (Synchronised.recovers ⟨hholds, hjournal, hshows⟩)⟩
  | journaled houtcome =>
      obtain rfl : outcome = none := by simpa using houtcome
      exact ⟨by simp, fun _ => .inr
        ⟨state, _, hjournaled, hentry, .inr ⟨telemetry, rfl, hpushed⟩⟩⟩
  | written houtcome =>
      obtain rfl : outcome = none := by simpa using houtcome
      obtain ⟨written, hwritten, hsame, henqueue⟩ := hjournaled.storeRecord telemetry
      refine ⟨by simp, fun _ => .inr ⟨written, _, hwritten,
        Nvs.holdsJournal_storeRecord hslot _ hentry, .inr ⟨telemetry, ?_, ?_⟩⟩⟩
      · rw [hsame]
      · rw [henqueue]
        exact hpushed
  | saved houtcome =>
      obtain rfl : outcome = none := by simpa using houtcome
      refine ⟨by simp, fun _ => .inr ⟨_, _, hjournaled.enqueue telemetry,
        Nvs.holdsJournal_storeMetadata (Nvs.holdsJournal_storeRecord hslot _ hentry),
        .inl ⟨hpushed, fun generation' telemetry' h => ?_⟩⟩⟩
      obtain ⟨rfl, -⟩ := Prod.mk.inj (Option.some.inj h)
      rfl
  | erased houtcome =>
      have hsync : Synchronised _ (state.enqueue telemetry) (fifo.push telemetry) :=
        ⟨(hjournaled.enqueue telemetry).eraseJournal, Nvs.holdsJournal_eraseJournal, hpushed⟩
      refine ⟨fun result hresult => ?_, fun _ => .inr hsync.recovers⟩
      obtain rfl : result = (true, state.enqueue telemetry) := by simpa [hresult] using houtcome
      exact hsync

/-- A completed pop applies it, and an interrupted one has applied it or not begun. -/
theorem exec_pop_recovers (hsync : Synchronised nvs state fifo)
    {outcome : Option (Bool × Option IiotTelemetry × OfflineState)}
    (hrun : Exec (nvsAnswers False) (gatewayOfflinePop state) nvs trace outcome nvs') :
    (∀ result, outcome = some result → Synchronised nvs' result.2.2 fifo.pop) ∧
      (outcome = none → Recovers nvs' fifo ∨ Recovers nvs' fifo.pop) ∧
      generationMismatchText ∉ loggedTexts trace := by
  obtain ⟨hend, hlogs⟩ := exec_gatewayOfflinePop hrun
  have ⟨hholds, hjournal, hshows⟩ := hsync
  refine ⟨?_, ?_, by simp [hlogs]⟩ <;> generalize storedKeys trace = keys at hend
  · intro result hresult
    cases hend with
    | untouched houtcome =>
        obtain ⟨hcount, rfl⟩ : state.queue.count = 0 ∧
            result = (false, iiotOfflineQueuePeek state.queue, state) := by
          simpa [hresult] using houtcome
        exact ⟨hholds, hjournal, shows_pop_of_empty hcount hshows⟩
    | saved hcount houtcome => simp [hresult] at houtcome
    | kept hcount hfail => exact hfail.elim
    | erased hcount houtcome =>
        obtain rfl : result = (true, iiotOfflineQueuePeek state.queue, state.dequeue) := by
          simpa [hresult] using houtcome
        exact ⟨hholds.dequeue.eraseHead hholds.wellFormed,
          Nvs.holdsJournal_eraseSlot (hholds.wellFormed.head_lt.trans_le hholds.wellFormed.capacity_le)
            (Nvs.holdsJournal_storeMetadata hjournal),
          shows_dequeue hholds.wellFormed hcount hshows⟩
  · intro _
    cases hend with
    | untouched => exact .inl hsync.recovers
    | saved hcount =>
        exact .inr (Synchronised.recovers ⟨hholds.dequeue, Nvs.holdsJournal_storeMetadata hjournal,
          shows_dequeue hholds.wellFormed hcount hshows⟩)
    | kept hcount hfail => exact hfail.elim
    | erased hcount =>
        exact .inr (Synchronised.recovers ⟨hholds.dequeue.eraseHead hholds.wellFormed,
          Nvs.holdsJournal_eraseSlot (hholds.wellFormed.head_lt.trans_le hholds.wellFormed.capacity_le)
            (Nvs.holdsJournal_storeMetadata hjournal),
          shows_dequeue hholds.wellFormed hcount hshows⟩)

/-! ### Runs -/

/-- The queue the device is committed to: the one in RAM, or else the one the next load yields. -/
def Commits (device : OfflineDevice) (fifo : BoundedFifo capacity IiotTelemetry) : Prop :=
  Recovers device.nvs fifo ∧ ∀ state, device.ram = some state → Synchronised device.nvs state fifo

theorem commits_blank {device : OfflineDevice} (hpos : 0 < capacity) (hle : capacity ≤ 32)
    (hblank : device.Blank) : Commits device (BoundedFifo.empty : BoundedFifo capacity _) := by
  obtain ⟨hmetadata, hjournal, hram⟩ := hblank
  refine ⟨⟨freshState capacity, none, .fresh hpos hle hmetadata, hjournal,
    .inl ⟨shows_fresh capacity, by simp⟩⟩, ?_⟩
  rw [hram]
  simp

/-- A completed call shows the queue it was applied to; a cut one recovers one of two queues. -/
theorem commits_of_outcome {α : Type} {result : α → OfflineResult} {returned : Option α}
    {call : OfflineCall} {unsaved : Nat}
    (hsome : ∀ value, returned = some value →
      Synchronised nvs (result value).state (call.apply fifo))
    (hnone : returned = none → Recovers nvs fifo ∨ Recovers nvs (call.apply fifo)) :
    ∃ fifo' : BoundedFifo capacity IiotTelemetry,
      ReferenceStep fifo ⟨call, trace, returned.map result⟩ fifo' ∧
        Commits ⟨nvs, (returned.map result).map OfflineResult.state, unsaved⟩ fifo' := by
  cases returned with
  | none =>
      rcases hnone rfl with hbefore | hafter
      · exact ⟨fifo, .inl rfl, hbefore, by simp⟩
      · exact ⟨_, .inr rfl, hafter, by simp⟩
  | some value =>
      have hsync := hsome value rfl
      refine ⟨_, ⟨rfl, hsync.shows⟩, hsync.recovers, fun state hstate => ?_⟩
      obtain rfl : (result value).state = state := by simpa using hstate
      exact hsync

/-- **One call.** The reference queue takes the call, or, where it was cut, possibly does not. -/
theorem commits_step {device device' : OfflineDevice} {entry : OfflineEntry}
    (hcommits : Commits device fifo) (hstep : OfflineStep False capacity device entry device') :
    (∃ fifo' : BoundedFifo capacity IiotTelemetry,
      ReferenceStep fifo entry fifo' ∧ Commits device' fifo') ∧
      generationMismatchText ∉ loggedTexts entry.trace := by
  cases hstep with
  | load hrun =>
      obtain ⟨outcome', hload, rfl⟩ := exec_map_iff.mp hrun
      obtain ⟨hsome, hnone, hlogs⟩ := exec_load_recovers hcommits.1 hload
      exact ⟨commits_of_outcome hsome fun h => .inl (hnone h), hlogs⟩
  | push hram hrun =>
      obtain ⟨outcome', hpush, rfl⟩ := exec_map_iff.mp hrun
      obtain ⟨hsome, hnone, hlogs⟩ := exec_push_recovers (hcommits.2 _ hram) hpush
      exact ⟨commits_of_outcome hsome hnone, hlogs⟩
  | pop hram hrun =>
      obtain ⟨outcome', hpop, rfl⟩ := exec_map_iff.mp hrun
      obtain ⟨hsome, hnone, hlogs⟩ := exec_pop_recovers (hcommits.2 _ hram) hpop
      exact ⟨commits_of_outcome hsome hnone, hlogs⟩

/-- **Crash atomicity.** In every run from a blank device, with power loss anywhere, a reference queue
takes every completed call once and every interrupted one once or not at all, and every completed
call leaves RAM that shows it. The journal never mismatches. -/
theorem offline_run_refines (hpos : 1 ≤ capacity) (hle : capacity ≤ 32)
    {start device : OfflineDevice} (hblank : start.Blank) {entries : List OfflineEntry}
    (hrun : Trail (OfflineStep False capacity) start entries device) :
    (∃ fifo : BoundedFifo capacity IiotTelemetry, ReferenceRun capacity entries fifo) ∧
      ∀ entry ∈ entries, generationMismatchText ∉ loggedTexts entry.trace := by
  have hinvariant : (∃ fifo : BoundedFifo capacity IiotTelemetry,
      ReferenceRun capacity entries fifo ∧ Commits device fifo) ∧
      ∀ entry ∈ entries, generationMismatchText ∉ loggedTexts entry.trace := by
    refine Trail.invariant (fun entries device =>
      (∃ fifo : BoundedFifo capacity IiotTelemetry,
        ReferenceRun capacity entries fifo ∧ Commits device fifo) ∧
        ∀ entry ∈ entries, generationMismatchText ∉ loggedTexts entry.trace)
      ⟨⟨_, .start, commits_blank hpos hle hblank⟩, by simp⟩ ?_ hrun
    rintro entries device entry device' ⟨⟨fifo, hreference, hcommits⟩, hlogs⟩ hstep
    obtain ⟨⟨fifo', hnext, hcommits'⟩, hlog⟩ := commits_step hcommits hstep
    refine ⟨⟨fifo', .step hreference hnext, hcommits'⟩, fun other hother => ?_⟩
    rcases List.mem_append.mp hother with hold | hnew
    · exact hlogs other hold
    · rw [List.mem_singleton.mp hnew]
      exact hlog
  obtain ⟨⟨fifo, hreference, -⟩, hlogs⟩ := hinvariant
  exact ⟨⟨fifo, hreference⟩, hlogs⟩

/-- A load, a push, and a power loss during the next load. -/
theorem offline_run_refines_reboot : ∃ load push : OfflineEntry,
    load.outcome.isSome ∧ push.outcome.isSome ∧
      ∃ fifo : BoundedFifo 2 IiotTelemetry,
        ReferenceRun 2 [load, push, ⟨.load 2, [], none⟩] fifo := by
  obtain ⟨_, hload⟩ := exec_run nvsDevice (nvsAnswers_nvsDevice False) (OfflineCall.load 2).program
    fun _ => none
  obtain ⟨_, hpush⟩ := exec_run nvsDevice (nvsAnswers_nvsDevice False)
    (OfflineCall.push ((OfflineCall.load 2).program.run nvsDevice fun _ => none).1.state
      telemetryLayout.zero).program
    ((OfflineCall.load 2).program.run nvsDevice fun _ => none).2
  exact ⟨_, _, rfl, rfl,
    (offline_run_refines (by decide) (by decide)
      (show OfflineDevice.Blank ⟨fun _ => none, none, 0⟩ from ⟨rfl, rfl, rfl⟩)
      (.step (.step (.step .start (.load hload)) (.push rfl hpush)) (.load (.cut _ _)))).1⟩

end IiotMonitoring
