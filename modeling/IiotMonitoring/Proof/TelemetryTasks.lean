import IiotMonitoring.Firmware.TelemetryTasks
import IiotMonitoring.Proof.OfflineRing

/-!
# What the telemetry tasks keep

The replay loop publishes a copy of the oldest record and removes the oldest record later, in another
critical section. Between the two, only an eviction can change which record is oldest. For order, the
records the gateway holds form one list, from the ring through the tasks' hands and `telemetry_queue`
to the aggregation task. Every step but two moves records along it.
-/

namespace IiotMonitoring

variable {tasks : TelemetryTasks}

/-! ### The critical sections -/

theorem store_offline (tasks : TelemetryTasks) (telemetry : IiotTelemetry) :
    (tasks.store telemetry).offline = tasks.offline.enqueue telemetry := by
  simp only [TelemetryTasks.store, run_push]

@[simp]
theorem store_communication (tasks : TelemetryTasks) (telemetry : IiotTelemetry) :
    (tasks.store telemetry).communication = tasks.communication := by
  simp only [TelemetryTasks.store]

@[simp]
theorem store_aggregation (tasks : TelemetryTasks) (telemetry : IiotTelemetry) :
    (tasks.store telemetry).aggregation = tasks.aggregation := by
  simp only [TelemetryTasks.store]

@[simp]
theorem store_published (tasks : TelemetryTasks) (telemetry : IiotTelemetry) :
    (tasks.store telemetry).published = tasks.published := by
  simp only [TelemetryTasks.store]

@[simp]
theorem store_telemetryQueue (tasks : TelemetryTasks) (telemetry : IiotTelemetry) :
    (tasks.store telemetry).telemetryQueue = tasks.telemetryQueue := by
  simp only [TelemetryTasks.store]

@[simp]
theorem store_sequence (tasks : TelemetryTasks) (telemetry : IiotTelemetry) :
    (tasks.store telemetry).sequence = tasks.sequence := by
  simp only [TelemetryTasks.store]

theorem dropped_ne_iff (hwell : tasks.offline.queue.WellFormed) (telemetry : IiotTelemetry) :
    (tasks.offline.enqueue telemetry).queue.droppedMessageCount ≠
        tasks.offline.queue.droppedMessageCount ↔
      tasks.offline.queue.count = tasks.offline.queue.capacity := by
  rw [dropped_enqueue hwell]
  by_cases hfull : tasks.offline.queue.count = tasks.offline.queue.capacity
  · simp [hfull]
  · simp [hfull]

theorem store_evicted (hwell : tasks.offline.queue.WellFormed) (telemetry : IiotTelemetry) :
    (tasks.store telemetry).evictedSincePeek =
      (tasks.evictedSincePeek ||
        decide (tasks.offline.queue.count = tasks.offline.queue.capacity)) := by
  simp only [TelemetryTasks.store, run_push, dropped_ne_iff hwell]

theorem store_ring (hwell : tasks.offline.queue.WellFormed) (telemetry : IiotTelemetry) :
    (tasks.store telemetry).ring =
      (if tasks.offline.queue.count = tasks.offline.queue.capacity then tasks.ring.tail
        else tasks.ring) ++ [telemetry] := by
  unfold TelemetryTasks.ring
  rw [store_offline, items_enqueue hwell]

theorem store_dropped (hwell : tasks.offline.queue.WellFormed) (telemetry : IiotTelemetry) :
    (tasks.store telemetry).offline.queue.droppedMessageCount =
      if tasks.offline.queue.count = tasks.offline.queue.capacity then
        tasks.offline.queue.droppedMessageCount + 1
      else tasks.offline.queue.droppedMessageCount := by
  rw [store_offline, dropped_enqueue hwell]

theorem store_wellFormed (hwell : tasks.offline.queue.WellFormed) (telemetry : IiotTelemetry) :
    (tasks.store telemetry).offline.queue.WellFormed := by
  rw [store_offline]
  exact enqueue_wellFormed hwell telemetry

theorem remove_offline (tasks : TelemetryTasks) :
    tasks.remove.2.offline =
      if tasks.offline.queue.count = 0 then tasks.offline else tasks.offline.dequeue := by
  unfold TelemetryTasks.remove
  dsimp only
  by_cases hcount : tasks.offline.queue.count = 0
  · rw [run_pop_of_empty _ hcount, if_pos hcount]
  · rw [run_pop _ hcount, if_neg hcount]

theorem remove_wellFormed (hwell : tasks.offline.queue.WellFormed) :
    tasks.remove.2.offline.queue.WellFormed := by
  rw [remove_offline]
  split
  · exact hwell
  · exact dequeue_wellFormed hwell

/-- On a ring that holds a record, the removal succeeds and takes the oldest. -/
theorem remove_ring (hwell : tasks.offline.queue.WellFormed) {oldest : IiotTelemetry}
    {rest : List IiotTelemetry} (hring : tasks.ring = oldest :: rest) :
    tasks.remove.1 = true ∧ tasks.remove.2.ring = rest := by
  have hcount : tasks.offline.queue.count ≠ 0 := by
    intro hcount
    have hlength : tasks.ring.length = 0 := (length_items _).trans hcount
    rw [hring] at hlength
    cases hlength
  constructor
  · unfold TelemetryTasks.remove
    dsimp only
    rw [run_pop _ hcount]
  · unfold TelemetryTasks.ring
    rw [remove_offline, if_neg hcount, items_dequeue hwell hcount]
    show tasks.ring.tail = rest
    rw [hring, List.tail_cons]

theorem peek_ring (hwell : tasks.offline.queue.WellFormed) :
    iiotOfflineQueuePeek tasks.offline.queue = tasks.ring.head? :=
  peek_eq_head? hwell

/-- A step that leaves the ring alone loses nothing. -/
theorem lossAccounted_of_ring_eq {event : TelemetryEvent}
    (hring : (telemetryStep tasks event).ring = tasks.ring) : LossAccounted tasks event :=
  .inl ⟨[], by rw [hring, List.append_nil]⟩

/-- A store appends, or evicts the oldest record and counts it. -/
theorem lossAccounted_of_store {event : TelemetryEvent} (telemetry : IiotTelemetry)
    (hwell : tasks.offline.queue.WellFormed)
    (hstep : (telemetryStep tasks event).offline = (tasks.store telemetry).offline) :
    LossAccounted tasks event := by
  have hring : (telemetryStep tasks event).ring = (tasks.store telemetry).ring := by
    unfold TelemetryTasks.ring
    rw [hstep]
  unfold LossAccounted
  simp only [hring, hstep]
  rw [store_ring hwell, store_dropped hwell]
  by_cases hfull : tasks.offline.queue.count = tasks.offline.queue.capacity
  · rw [if_pos hfull, if_pos hfull]
    exact .inr (.inl ⟨telemetry, rfl, rfl⟩)
  · rw [if_neg hfull, if_neg hfull]
    exact .inl ⟨[telemetry], rfl⟩

/-! ### Replay and loss -/

/-- While no record was evicted since the peek, the replay is the oldest record of the ring; once
published, it is the last record published. -/
structure ReplayCurrent (tasks : TelemetryTasks) : Prop where
  wellFormed : tasks.offline.queue.WellFormed
  replaying : ∀ replay, tasks.communication = .replaying replay → tasks.evictedSincePeek = false →
    ∃ oldest rest, tasks.ring = oldest :: rest ∧ replay = { oldest with replayed := true }
  popping : ∀ replay, tasks.communication = .popping replay →
    tasks.published.getLast? = some replay ∧ (tasks.evictedSincePeek = false →
      ∃ oldest rest, tasks.ring = oldest :: rest ∧ replay = { oldest with replayed := true })

/-- Steps of the aggregation task and the link that leave the ring alone. -/
theorem ReplayCurrent.of_same {tasks' : TelemetryTasks} (h : ReplayCurrent tasks)
    (hoffline : tasks'.offline = tasks.offline)
    (hcommunication : tasks'.communication = tasks.communication)
    (hpublished : tasks'.published = tasks.published)
    (hevicted : tasks'.evictedSincePeek = tasks.evictedSincePeek) : ReplayCurrent tasks' := by
  have hring : tasks'.ring = tasks.ring := by
    unfold TelemetryTasks.ring
    rw [hoffline]
  constructor
  · rw [hoffline]
    exact h.wellFormed
  · rw [hcommunication, hevicted, hring]
    exact h.replaying
  · rw [hcommunication, hevicted, hring, hpublished]
    exact h.popping

/-- Steps that leave the communication task at a point with no replay in hand. -/
theorem ReplayCurrent.of_idle {tasks' : TelemetryTasks}
    (hwell : tasks'.offline.queue.WellFormed)
    (hreplaying : ∀ replay, tasks'.communication ≠ .replaying replay)
    (hpopping : ∀ replay, tasks'.communication ≠ .popping replay) : ReplayCurrent tasks' := by
  constructor
  · exact hwell
  · intro replay h
    exact absurd h (hreplaying replay)
  · intro replay h
    exact absurd h (hpopping replay)

/-- A store without an eviction appends, so the oldest record stays. -/
theorem store_keeps_oldest {telemetry oldest : IiotTelemetry} {rest : List IiotTelemetry}
    (hwell : tasks.offline.queue.WellFormed)
    (hevicted : (tasks.store telemetry).evictedSincePeek = false)
    (hring : tasks.ring = oldest :: rest) :
    (tasks.store telemetry).ring = oldest :: (rest ++ [telemetry]) := by
  rw [store_evicted hwell, Bool.or_eq_false_iff, decide_eq_false_iff_not] at hevicted
  rw [store_ring hwell, if_neg hevicted.2, hring]
  rfl

theorem ReplayCurrent.store (h : ReplayCurrent tasks) (telemetry : IiotTelemetry) :
    ReplayCurrent (tasks.store telemetry) := by
  have hwell := h.wellFormed
  have hbefore : (tasks.store telemetry).evictedSincePeek = false →
      tasks.evictedSincePeek = false := by
    intro hevicted
    rw [store_evicted hwell, Bool.or_eq_false_iff] at hevicted
    exact hevicted.1
  constructor
  · exact store_wellFormed hwell telemetry
  · intro replay hpoint hevicted
    rw [store_communication] at hpoint
    obtain ⟨oldest, rest, hring, hreplay⟩ := h.replaying replay hpoint (hbefore hevicted)
    exact ⟨oldest, _, store_keeps_oldest hwell hevicted hring, hreplay⟩
  · intro replay hpoint
    rw [store_communication] at hpoint
    rw [store_published]
    obtain ⟨hlast, holdest⟩ := h.popping replay hpoint
    refine ⟨hlast, fun hevicted => ?_⟩
    obtain ⟨oldest, rest, hring, hreplay⟩ := holdest (hbefore hevicted)
    exact ⟨oldest, _, store_keeps_oldest hwell hevicted hring, hreplay⟩

theorem replayCurrent_step (event : TelemetryEvent) (h : ReplayCurrent tasks) :
    ReplayCurrent (telemetryStep tasks event) := by
  have hwell := h.wellFormed
  cases event with
  | connect => exact h.of_same rfl rfl rfl rfl
  | disconnect => exact h.of_same rfl rfl rfl rfl
  | aggregate telemetry =>
      simp only [telemetryStep]
      split
      · exact h.of_same rfl rfl rfl rfl
      · exact h
  | send =>
      simp only [telemetryStep]
      split
      · split
        · exact h.of_same rfl rfl rfl rfl
        · exact h
      · exact h
  | sendTimeout =>
      simp only [telemetryStep]
      split
      · split
        · exact h
        · exact h.of_same rfl rfl rfl rfl
      · exact h
  | storeAggregated =>
      simp only [telemetryStep]
      split
      · rename_i telemetry _
        exact (h.store telemetry).of_same (by dsimp only) (by dsimp only) (by dsimp only)
          (by dsimp only)
      · exact h
  | check =>
      simp only [telemetryStep]
      split
      · refine .of_idle hwell ?_ ?_ <;> intro replay <;> cases tasks.connected <;> simp
      · exact h
  | peek =>
      simp only [telemetryStep]
      split
      · split
        · exact .of_idle hwell (by simp) (by simp)
        · rename_i oldest hpeek
          rw [peek_ring hwell] at hpeek
          obtain ⟨rest, hring⟩ := List.head?_eq_some_iff.mp hpeek
          constructor
          · exact hwell
          · intro replay hpoint _
            obtain rfl := CommunicationPoint.replaying.inj hpoint
            exact ⟨oldest, rest, hring, rfl⟩
          · simp
      · exact h
  | publishReplay accepted =>
      simp only [telemetryStep]
      split
      · rename_i replay hpoint
        split
        · constructor
          · exact hwell
          · simp
          · intro replay' hpoint'
            obtain rfl := CommunicationPoint.popping.inj hpoint'
            refine ⟨List.getLast?_concat, fun hevicted => ?_⟩
            exact h.replaying replay hpoint hevicted
        · exact .of_idle hwell (by simp) (by simp)
      · exact h
  | pop =>
      simp only [telemetryStep]
      split
      · refine .of_idle (remove_wellFormed hwell) ?_ ?_ <;> intro replay <;>
          cases tasks.remove.1 <;> simp
      · exact h
  | receive =>
      simp only [telemetryStep]
      split
      · exact .of_idle hwell (by simp) (by simp)
      · exact h
  | receiveTimeout =>
      simp only [telemetryStep]
      split
      · exact .of_idle hwell (by simp) (by simp)
      · exact h
  | publishReceived accepted =>
      simp only [telemetryStep]
      split
      · split
        · exact .of_idle hwell (by simp) (by simp)
        · exact .of_idle hwell (by simp) (by simp)
      · exact h
  | storeReceived =>
      simp only [telemetryStep]
      split
      · rename_i telemetry _
        have hstored := store_wellFormed hwell telemetry
        exact .of_idle hstored (by simp) (by simp)
      · exact h

theorem replayCurrent_start {offline : OfflineState} (hwell : offline.queue.WellFormed) (nvs : Nvs)
    (sequenceHi : Option UInt64) : ReplayCurrent (TelemetryTasks.start offline nvs sequenceHi) :=
  .of_idle hwell (fun _ h => by cases h) fun _ h => by cases h

/-- Every step accounts for what leaves the ring, a pop if it removes what was peeked. -/
theorem lossAccounted_of_popsPeeked (event : TelemetryEvent) (h : ReplayCurrent tasks)
    (hpops : PopsPeeked tasks event) : LossAccounted tasks event := by
  have hwell := h.wellFormed
  cases event with
  | connect => exact lossAccounted_of_ring_eq rfl
  | disconnect => exact lossAccounted_of_ring_eq rfl
  | aggregate telemetry =>
      apply lossAccounted_of_ring_eq
      simp only [telemetryStep]
      split <;> rfl
  | send =>
      apply lossAccounted_of_ring_eq
      simp only [telemetryStep]
      split
      · split <;> rfl
      · rfl
  | sendTimeout =>
      apply lossAccounted_of_ring_eq
      simp only [telemetryStep]
      split
      · split <;> rfl
      · rfl
  | storeAggregated =>
      cases hpoint : tasks.aggregation with
      | storing telemetry =>
          apply lossAccounted_of_store telemetry hwell
          simp only [telemetryStep, hpoint]
      | sampling =>
          apply lossAccounted_of_ring_eq
          simp only [telemetryStep, hpoint]
      | sending telemetry =>
          apply lossAccounted_of_ring_eq
          simp only [telemetryStep, hpoint]
  | check =>
      apply lossAccounted_of_ring_eq
      simp only [telemetryStep]
      split <;> rfl
  | peek =>
      apply lossAccounted_of_ring_eq
      simp only [telemetryStep]
      split
      · split <;> rfl
      · rfl
  | publishReplay accepted =>
      apply lossAccounted_of_ring_eq
      simp only [telemetryStep]
      split
      · split <;> rfl
      · rfl
  | pop =>
      by_cases hpoint : ∃ replay, tasks.communication = .popping replay
      · obtain ⟨replay, hpoint⟩ := hpoint
        have hevicted : tasks.evictedSincePeek = false := by
          unfold PopsPeeked at hpops
          rw [hpoint] at hpops
          exact hpops
        obtain ⟨hlast, holdest⟩ := h.popping replay hpoint
        obtain ⟨oldest, rest, hring, hreplay⟩ := holdest hevicted
        have hafter : (telemetryStep tasks .pop).ring = rest := by
          simp only [telemetryStep, hpoint]
          exact (remove_ring hwell hring).2
        refine .inr (.inr ⟨oldest, ?_, ?_⟩)
        · rw [hafter, hring]
        · rw [hlast, hreplay]
      · apply lossAccounted_of_ring_eq
        simp only [telemetryStep]
        split
        · exact absurd ⟨_, by assumption⟩ hpoint
        · rfl
  | receive =>
      apply lossAccounted_of_ring_eq
      simp only [telemetryStep]
      split <;> rfl
  | receiveTimeout =>
      apply lossAccounted_of_ring_eq
      simp only [telemetryStep]
      split <;> rfl
  | publishReceived accepted =>
      apply lossAccounted_of_ring_eq
      simp only [telemetryStep]
      split
      · split <;> rfl
      · rfl
  | storeReceived =>
      by_cases hpoint : ∃ telemetry, tasks.communication = .storing telemetry
      · obtain ⟨telemetry, hpoint⟩ := hpoint
        apply lossAccounted_of_store telemetry hwell
        simp only [telemetryStep, hpoint]
      · apply lossAccounted_of_ring_eq
        simp only [telemetryStep]
        split
        · exact absurd ⟨_, by assumption⟩ hpoint
        · rfl

/-- **No silent loss.** In every interleaving where no eviction comes between the peek of a replay and
its pop, every record that leaves the ring was published last or is counted. -/
theorem telemetry_loss_accounted {offline : OfflineState} (hwell : offline.queue.WellFormed)
    (nvs : Nvs) (sequenceHi : Option UInt64) {events : List TelemetryEvent}
    (hpops : StepsMeet telemetryStep PopsPeeked (.start offline nvs sequenceHi) events) :
    StepsMeet telemetryStep LossAccounted (.start offline nvs sequenceHi) events :=
  stepsMeet_of_guarded (fun _ event h _ => replayCurrent_step event h)
    (fun _ event h hmeets => lossAccounted_of_popsPeeked event h hmeets)
    (replayCurrent_start hwell nvs sequenceHi) hpops

theorem telemetry_loss_accounted_replay :
    StepsMeet telemetryStep LossAccounted
      (.start ((freshState 1).enqueue (sampleRecord 100)) (fun _ => none) none)
      [.connect, .check, .peek, .publishReplay true, .pop] := by
  apply telemetry_loss_accounted (enqueue_wellFormed (wellFormed_freshState _ _).1 _)
  · have hpeek := peek_eq_head?
      (enqueue_wellFormed (wellFormed_freshState (by decide : 0 < 1) (by decide)).1 (sampleRecord 100))
    rw [enqueue_freshState_items (by decide) (by decide)] at hpeek
    simp [StepsMeet, PopsPeeked, telemetryStep, TelemetryTasks.start, hpeek]
  · decide
  · decide

/-- The link comes up on a ring of one record, which is replayed. Before the pop, the aggregation task
fills `telemetry_queue` and stores its ninth record in the ring. -/
theorem telemetry_loss_uncounted :
    ¬ ∀ (offline : OfflineState) (nvs : Nvs) (sequenceHi : Option UInt64)
        (events : List TelemetryEvent), offline.queue.WellFormed →
        StepsMeet telemetryStep LossAccounted (.start offline nvs sequenceHi) events := by
  intro hall
  obtain ⟨hfresh, hcapacity⟩ := wellFormed_freshState (by decide : 0 < 1) (by decide)
  have hwell := enqueue_wellFormed hfresh (sampleRecord 100)
  have hitems := enqueue_freshState_items (by decide : 0 < 1) (by decide) (sampleRecord 100)
  have hone := (enqueue_capacity hfresh (sampleRecord 100)).trans hcapacity
  generalize (freshState 1).enqueue (sampleRecord 100) = offline at hwell hitems hone
  have hfull : offline.queue.count = offline.queue.capacity := by
    rw [← length_items, hitems, hone]
    rfl
  have hpeek : iiotOfflineQueuePeek offline.queue = some (sampleRecord 100) := by
    rw [peek_eq_head? hwell, hitems]
    rfl
  have hmeets := hall offline (fun _ => none) none
    ([.connect, .check, .peek, .publishReplay true] ++
      (List.replicate 8 [TelemetryEvent.aggregate (sampleRecord 0), .send]).flatten ++
      [.aggregate (sampleRecord 0), .sendTimeout, .storeAggregated] ++ [.pop]) hwell
  rw [stepsMeet_append] at hmeets
  have hloss := hmeets.2.1
  generalize hafter : exec telemetryStep _ _ = tasks at hloss
  have hpoint : tasks.communication = .popping { sampleRecord 100 with replayed := true } := by
    rw [← hafter]
    simp [List.replicate, telemetryStep, TelemetryTasks.start, hpeek, gatewayNextSequence,
      SequenceCounter.reserve, telemetryQueueLength]
  have hpublished : tasks.published = [{ sampleRecord 100 with replayed := true }] := by
    rw [← hafter]
    simp [List.replicate, telemetryStep, TelemetryTasks.start, hpeek, gatewayNextSequence,
      SequenceCounter.reserve, telemetryQueueLength]
  have hoffline : tasks.offline =
      offline.enqueue { sampleRecord 0 with sequence := 9, replayed := false } := by
    rw [← hafter]
    simp [List.replicate, telemetryStep, TelemetryTasks.start, hpeek, gatewayNextSequence,
      SequenceCounter.reserve, telemetryQueueLength, sequenceReservation, store_offline]
  have hring : tasks.ring = [{ sampleRecord 0 with sequence := 9, replayed := false }] := by
    unfold TelemetryTasks.ring
    rw [hoffline, items_enqueue hwell, if_pos hfull, hitems]
    rfl
  have hwell' : tasks.offline.queue.WellFormed := by
    rw [hoffline]
    exact enqueue_wellFormed hwell _
  have hafter : (telemetryStep tasks .pop).ring = [] := by
    simp only [telemetryStep, hpoint]
    exact (remove_ring hwell' hring).2
  unfold LossAccounted at hloss
  simp only [hafter, hring] at hloss
  -- the record that left is the ninth of the aggregation task, the one published is the replay
  rcases hloss with ⟨added, h⟩ | ⟨telemetry, h, -⟩ | ⟨oldest, holdest, hlast⟩
  · simp at h
  · simp at h
  · obtain rfl := (List.cons.inj holdest).1
    rw [hpublished, List.getLast?_singleton] at hlast
    have hsequence := congrArg (fun record => record.map IiotTelemetry.sequence) hlast
    exact absurd hsequence (by decide)

end IiotMonitoring
