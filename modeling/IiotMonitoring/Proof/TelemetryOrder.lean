import IiotMonitoring.Proof.TelemetryTasks

/-!
# The order of publication

The records published and the records still held form one line: the ring, the record in the hands of
the communication task, `telemetry_queue`, and the record of the aggregation task. A step that keeps
order adds a record at the end of the line or drops one from it, and never moves one past another.
-/

namespace IiotMonitoring

variable {tasks : TelemetryTasks}

/-! ### Fresh sequence numbers -/

/-- Every number below it has been given out, or belongs to an earlier boot. -/
def SequenceCounter.bound (counter : SequenceCounter) : Nat :=
  if counter.sequenceNext = 0 then (counter.sequenceHi.getD 0).toNat + 1
  else counter.sequenceNext.toNat

/-- A reserved block ends at the stored `sequence_hi`. -/
def SequenceCounter.Reserved (counter : SequenceCounter) : Prop :=
  counter.sequenceNext ≠ 0 →
    counter.sequenceHi = some counter.sequenceEnd ∧
      counter.sequenceNext.toNat ≤ counter.sequenceEnd.toNat + 1

theorem toNat_sequenceReservation : sequenceReservation.toNat = 256 := rfl

theorem reserve_spec {counter : SequenceCounter} (hreserved : counter.Reserved)
    (hroom : (counter.sequenceHi.getD 0).toNat + sequenceReservation.toNat < 2 ^ 64 - 1) :
    counter.bound ≤ counter.reserve.sequenceNext.toNat ∧
      counter.reserve.sequenceHi = some counter.reserve.sequenceEnd ∧
      counter.reserve.sequenceNext.toNat ≤ counter.reserve.sequenceEnd.toNat ∧
      counter.reserve.sequenceEnd.toNat < 2 ^ 64 - 1 := by
  rw [toNat_sequenceReservation] at hroom
  have hone : (1 : UInt64).toNat = 1 := rfl
  by_cases hblock : counter.sequenceNext = 0 ∨ counter.sequenceNext > counter.sequenceEnd
  · have hnext : (counter.sequenceHi.getD 0 + 1).toNat = (counter.sequenceHi.getD 0).toNat + 1 := by
      rw [UInt64.toNat_add, hone, Nat.mod_eq_of_lt (by omega)]
    have hend : (counter.sequenceHi.getD 0 + sequenceReservation).toNat =
        (counter.sequenceHi.getD 0).toNat + 256 := by
      rw [UInt64.toNat_add, toNat_sequenceReservation, Nat.mod_eq_of_lt (by omega)]
    unfold SequenceCounter.reserve SequenceCounter.bound
    rw [if_pos hblock]
    dsimp only
    refine ⟨?_, rfl, by omega, by omega⟩
    by_cases hzero : counter.sequenceNext = 0
    · rw [if_pos hzero, hnext]
    · -- the block was used up, and it ended at `sequence_hi`
      obtain ⟨hhi, hle⟩ := hreserved hzero
      rw [if_neg hzero, hnext, hhi]
      exact hle
  · unfold SequenceCounter.reserve SequenceCounter.bound
    rw [if_neg hblock]
    rw [not_or, gt_iff_lt, UInt64.not_lt, UInt64.le_iff_toNat_le] at hblock
    rw [if_neg hblock.1]
    obtain ⟨hhi, -⟩ := hreserved hblock.1
    rw [hhi, Option.getD_some] at hroom
    exact ⟨le_refl _, hhi, hblock.2, by omega⟩

/-- The number given out is none of the earlier ones, and all later ones are larger. -/
theorem gatewayNextSequence_spec {counter : SequenceCounter} (hreserved : counter.Reserved)
    (hroom : (counter.sequenceHi.getD 0).toNat + sequenceReservation.toNat < 2 ^ 64 - 1) :
    counter.bound ≤ (gatewayNextSequence counter).1.toNat ∧
      (gatewayNextSequence counter).2.bound = (gatewayNextSequence counter).1.toNat + 1 ∧
      (gatewayNextSequence counter).2.Reserved := by
  obtain ⟨hbound, hhi, hle, hend⟩ := reserve_spec hreserved hroom
  have hnext : (counter.reserve.sequenceNext + 1).toNat =
      counter.reserve.sequenceNext.toNat + 1 := by
    rw [UInt64.toNat_add, show (1 : UInt64).toNat = 1 from rfl, Nat.mod_eq_of_lt (by omega)]
  have hne : counter.reserve.sequenceNext + 1 ≠ 0 := by
    intro hzero
    rw [hzero] at hnext
    cases hnext
  unfold gatewayNextSequence
  dsimp only
  refine ⟨hbound, ?_, fun _ => ⟨hhi, ?_⟩⟩
  · unfold SequenceCounter.bound
    rw [if_neg hne, hnext]
  · dsimp only
    rw [hnext]
    omega

/-! ### The line of records -/

/-- What waits in the ring: its oldest record does not while it is published but not yet removed. -/
def TelemetryTasks.waiting (tasks : TelemetryTasks) : List IiotTelemetry :=
  match tasks.communication with
  | .popping _ => tasks.ring.tail
  | _ => tasks.ring

def CommunicationPoint.held : CommunicationPoint → List IiotTelemetry
  | .publishing telemetry | .storing telemetry => [telemetry]
  | _ => []

def AggregationPoint.held : AggregationPoint → List IiotTelemetry
  | .sending telemetry | .storing telemetry => [telemetry]
  | .sampling => []

/-- The sequence numbers in the order the records were, or will be, published. -/
def TelemetryTasks.line (tasks : TelemetryTasks) : List UInt64 :=
  (tasks.published ++ tasks.waiting ++ tasks.communication.held ++ tasks.telemetryQueue ++
    tasks.aggregation.held).map IiotTelemetry.sequence

/-- The line is in sequence order, its numbers have been given out, and the aggregation task does not
go around `telemetry_queue`. -/
structure InLine (tasks : TelemetryTasks) : Prop where
  wellFormed : tasks.offline.queue.WellFormed
  ordered : tasks.line.Pairwise (· < ·)
  numbered : ∀ sequence ∈ tasks.line, sequence.toNat < tasks.sequence.bound
  reserved : tasks.sequence.Reserved
  queued : ∀ telemetry, tasks.aggregation ≠ .storing telemetry
  replaying : ∀ replay, tasks.communication = .replaying replay →
    ∃ oldest rest, tasks.ring = oldest :: rest ∧ replay.sequence = oldest.sequence
  popping : ∀ replay, tasks.communication = .popping replay →
    ∃ oldest rest earlier, tasks.ring = oldest :: rest ∧ replay.sequence = oldest.sequence ∧
      tasks.published = earlier ++ [replay]

/-- Publication order holds wherever the line is in order. -/
theorem InLine.oldestFirst (h : InLine tasks) : OldestFirst tasks := by
  have hordered := h.ordered
  unfold TelemetryTasks.line at hordered
  rw [List.pairwise_map, List.pairwise_append, List.pairwise_append] at hordered
  obtain ⟨⟨hleft, -, hqueue⟩, -, -⟩ := hordered
  rw [List.pairwise_append, List.pairwise_append] at hleft
  obtain ⟨⟨hpublished, hwaiting, hacross⟩, -, -⟩ := hleft
  have hqueued : ∀ published ∈ tasks.published, ∀ waiting ∈ tasks.telemetryQueue,
      published.sequence ≤ waiting.sequence := by
    intro published hpub waiting hwait
    exact UInt64.le_of_lt (hqueue published (by simp [hpub]) waiting hwait)
  by_cases hpoint : ∃ replay, tasks.communication = .popping replay
  · obtain ⟨replay, hpoint⟩ := hpoint
    obtain ⟨oldest, rest, earlier, hring, hreplay, hlast⟩ := h.popping replay hpoint
    have htail : tasks.waiting = rest := by
      unfold TelemetryTasks.waiting
      rw [hpoint, hring, List.tail_cons]
    rw [htail] at hwaiting hacross
    -- the oldest record carries the number published last
    have hoverlap : ∀ published ∈ tasks.published, published.sequence ≤ oldest.sequence := by
      intro published hpub
      rw [← hreplay]
      rw [hlast, List.pairwise_append] at hpublished
      rw [hlast, List.mem_append, List.mem_singleton] at hpub
      rcases hpub with hpub | rfl
      · exact UInt64.le_of_lt (hpublished.2.2 published hpub replay (List.mem_singleton_self _))
      · exact UInt64.le_refl _
    have hreplayed : replay ∈ tasks.published := by simp [hlast]
    refine ⟨hpublished, ?_, ?_⟩
    · rw [hring, List.pairwise_cons]
      refine ⟨fun later hlater => ?_, hwaiting⟩
      rw [← hreplay]
      exact hacross replay hreplayed later hlater
    · intro published hpub waiting hwait
      rw [hring, List.mem_append, List.mem_cons] at hwait
      rcases hwait with (rfl | hwait) | hwait
      · exact hoverlap published hpub
      · exact UInt64.le_of_lt (hacross published hpub waiting hwait)
      · exact hqueued published hpub waiting hwait
  · have hwhole : tasks.waiting = tasks.ring := by
      unfold TelemetryTasks.waiting
      split
      · exact absurd ⟨_, by assumption⟩ hpoint
      · rfl
    rw [hwhole] at hwaiting hacross
    refine ⟨hpublished, hwaiting, ?_⟩
    intro published hpub waiting hwait
    rw [List.mem_append] at hwait
    rcases hwait with hwait | hwait
    · exact UInt64.le_of_lt (hacross published hpub waiting hwait)
    · exact hqueued published hpub waiting hwait

/-- A step that drops records from the line, or none, and gives out no number. -/
theorem InLine.of_sublist {tasks' : TelemetryTasks} (h : InLine tasks)
    (hwell : tasks'.offline.queue.WellFormed) (hline : tasks'.line.Sublist tasks.line)
    (hsequence : tasks'.sequence = tasks.sequence)
    (hqueued : ∀ telemetry, tasks'.aggregation ≠ .storing telemetry)
    (hreplaying : ∀ replay, tasks'.communication = .replaying replay →
      ∃ oldest rest, tasks'.ring = oldest :: rest ∧ replay.sequence = oldest.sequence)
    (hpopping : ∀ replay, tasks'.communication = .popping replay →
      ∃ oldest rest earlier, tasks'.ring = oldest :: rest ∧ replay.sequence = oldest.sequence ∧
        tasks'.published = earlier ++ [replay]) : InLine tasks' where
  wellFormed := hwell
  ordered := h.ordered.sublist hline
  numbered := by
    rw [hsequence]
    exact fun sequence hmem => h.numbered sequence (hline.subset hmem)
  reserved := by
    rw [hsequence]
    exact h.reserved
  queued := hqueued
  replaying := hreplaying
  popping := hpopping

/-- Such a step that leaves no replay in the hands of the communication task. -/
theorem InLine.of_idle {tasks' : TelemetryTasks} (h : InLine tasks)
    (hwell : tasks'.offline.queue.WellFormed) (hline : tasks'.line.Sublist tasks.line)
    (hsequence : tasks'.sequence = tasks.sequence)
    (haggregation : tasks'.aggregation = tasks.aggregation)
    (hreplaying : ∀ replay, tasks'.communication ≠ .replaying replay)
    (hpopping : ∀ replay, tasks'.communication ≠ .popping replay) : InLine tasks' := by
  apply h.of_sublist hwell hline hsequence
  · rw [haggregation]
    exact h.queued
  · intro replay hpoint
    exact absurd hpoint (hreplaying replay)
  · intro replay hpoint
    exact absurd hpoint (hpopping replay)

/-! ### One step -/

theorem line_aggregate (telemetry : IiotTelemetry) (haggregation : tasks.aggregation = .sampling) :
    (telemetryStep tasks (.aggregate telemetry)).line =
      tasks.line ++ [(gatewayNextSequence tasks.sequence).1] := by
  simp only [telemetryStep, haggregation, TelemetryTasks.line, TelemetryTasks.waiting,
    TelemetryTasks.ring, AggregationPoint.held]
  simp

theorem inLine_aggregate (telemetry : IiotTelemetry) (h : InLine tasks)
    (hkeeps : KeepsOrder tasks (.aggregate telemetry)) :
    InLine (telemetryStep tasks (.aggregate telemetry)) := by
  by_cases haggregation : tasks.aggregation = .sampling
  · have hroom : (tasks.sequence.sequenceHi.getD 0).toNat + sequenceReservation.toNat <
        2 ^ 64 - 1 := by
      unfold KeepsOrder at hkeeps
      rw [haggregation] at hkeeps
      exact hkeeps
    obtain ⟨hfresh, hbound, hreserved⟩ := gatewayNextSequence_spec h.reserved hroom
    have hsequence : (telemetryStep tasks (.aggregate telemetry)).sequence =
        (gatewayNextSequence tasks.sequence).2 := by
      simp only [telemetryStep, haggregation]
    constructor
    · simp only [telemetryStep, haggregation]
      exact h.wellFormed
    · rw [line_aggregate telemetry haggregation, List.pairwise_append]
      refine ⟨h.ordered, List.pairwise_singleton _ _, ?_⟩
      intro earlier hearlier later hlater
      rw [List.mem_singleton.mp hlater, UInt64.lt_iff_toNat_lt]
      exact (h.numbered earlier hearlier).trans_le hfresh
    · rw [line_aggregate telemetry haggregation, hsequence, hbound]
      intro sequence hmem
      rw [List.mem_append, List.mem_singleton] at hmem
      rcases hmem with hmem | rfl
      · exact Nat.lt_succ_of_lt ((h.numbered sequence hmem).trans_le hfresh)
      · exact Nat.lt_succ_self _
    · rw [hsequence]
      exact hreserved
    · simp [telemetryStep, haggregation]
    · simp only [telemetryStep, haggregation]
      exact h.replaying
    · simp only [telemetryStep, haggregation]
      exact h.popping
  · have hsame : telemetryStep tasks (.aggregate telemetry) = tasks := by
      simp only [telemetryStep]
    rwa [hsame]

theorem inLine_step (event : TelemetryEvent) (h : InLine tasks) (hkeeps : KeepsOrder tasks event) :
    InLine (telemetryStep tasks event) := by
  have hwell := h.wellFormed
  cases event with
  | connect => exact h.of_sublist hwell (.refl _) rfl h.queued h.replaying h.popping
  | disconnect => exact h.of_sublist hwell (.refl _) rfl h.queued h.replaying h.popping
  | aggregate telemetry => exact inLine_aggregate telemetry h hkeeps
  | send =>
      simp only [telemetryStep]
      split
      · rename_i telemetry haggregation
        split
        · refine h.of_sublist hwell ?_ rfl (by simp) h.replaying h.popping
          -- the record passes from the task to the end of the queue
          simp only [TelemetryTasks.line, TelemetryTasks.waiting, TelemetryTasks.ring, haggregation,
            AggregationPoint.held]
          simp
        · exact h
      · exact h
  | sendTimeout =>
      simp only [telemetryStep]
      split
      · rename_i telemetry haggregation
        unfold KeepsOrder at hkeeps
        rw [haggregation] at hkeeps
        rw [if_pos (show tasks.telemetryQueue.length < telemetryQueueLength from hkeeps)]
        exact h
      · exact h
  | storeAggregated =>
      simp only [telemetryStep]
      split
      · rename_i telemetry haggregation
        exact absurd haggregation (h.queued telemetry)
      · exact h
  | check =>
      simp only [telemetryStep]
      split
      · rename_i hpoint
        refine h.of_idle hwell ?_ rfl rfl ?_ ?_
        · simp only [TelemetryTasks.line, TelemetryTasks.waiting, TelemetryTasks.ring, hpoint]
          cases tasks.connected <;> exact .refl _
        · intro replay
          cases tasks.connected <;> simp
        · intro replay
          cases tasks.connected <;> simp
      · exact h
  | peek =>
      simp only [telemetryStep]
      split
      · rename_i hpoint
        split
        · refine h.of_idle hwell ?_ rfl rfl (by simp) (by simp)
          simp only [TelemetryTasks.line, TelemetryTasks.waiting, TelemetryTasks.ring, hpoint]
          exact .refl _
        · rename_i oldest hpeek
          rw [peek_ring hwell] at hpeek
          obtain ⟨rest, hring⟩ := List.head?_eq_some_iff.mp hpeek
          refine h.of_sublist hwell ?_ rfl h.queued ?_ (by simp)
          · simp only [TelemetryTasks.line, TelemetryTasks.waiting, TelemetryTasks.ring, hpoint]
            exact .refl _
          · intro replay hreplay
            obtain rfl := CommunicationPoint.replaying.inj hreplay
            exact ⟨oldest, rest, hring, rfl⟩
      · exact h
  | publishReplay accepted =>
      simp only [telemetryStep]
      split
      · rename_i replay hpoint
        split
        · obtain ⟨oldest, rest, hring, hreplay⟩ := h.replaying replay hpoint
          have hitems : tasks.offline.queue.items = oldest :: rest := hring
          refine h.of_sublist hwell ?_ rfl h.queued (by simp) ?_
          · -- the oldest number stays where it is, now at the end of what was published
            simp only [TelemetryTasks.line, TelemetryTasks.waiting, TelemetryTasks.ring, hpoint,
              hitems, CommunicationPoint.held]
            simp [hreplay]
          · intro replay' hpoint'
            obtain rfl := CommunicationPoint.popping.inj hpoint'
            exact ⟨oldest, rest, _, hring, hreplay, rfl⟩
        · refine h.of_idle hwell ?_ rfl rfl (by simp) (by simp)
          simp only [TelemetryTasks.line, TelemetryTasks.waiting, TelemetryTasks.ring, hpoint]
          exact .refl _
      · exact h
  | pop =>
      simp only [telemetryStep]
      split
      · rename_i replay hpoint
        obtain ⟨oldest, rest, earlier, hring, -, -⟩ := h.popping replay hpoint
        obtain ⟨hremoved, hrest⟩ := remove_ring hwell hring
        rw [hremoved, if_pos rfl]
        refine h.of_idle (remove_wellFormed hwell) ?_ rfl rfl (by simp) (by simp)
        have hitems : tasks.remove.2.offline.queue.items = rest := hrest
        have hitems' : tasks.offline.queue.items = oldest :: rest := hring
        simp only [TelemetryTasks.line, TelemetryTasks.waiting, TelemetryTasks.ring, hpoint, hitems,
          hitems', List.tail_cons]
        exact .refl _
      · exact h
  | receive =>
      simp only [telemetryStep]
      split
      · rename_i telemetry rest hpoint hqueue
        refine h.of_idle hwell ?_ rfl rfl (by simp) (by simp)
        simp only [TelemetryTasks.line, TelemetryTasks.waiting, TelemetryTasks.ring, hpoint, hqueue,
          CommunicationPoint.held]
        simp
      · exact h
  | receiveTimeout =>
      simp only [telemetryStep]
      split
      · rename_i hpoint hqueue
        refine h.of_idle hwell ?_ rfl rfl (by simp) (by simp)
        simp only [TelemetryTasks.line, TelemetryTasks.waiting, TelemetryTasks.ring, hpoint]
        exact .refl _
      · exact h
  | publishReceived accepted =>
      simp only [telemetryStep]
      split
      · rename_i telemetry hpoint
        split
        · rename_i haccepted
          have hempty : tasks.offline.queue.items = [] := by
            unfold KeepsOrder at hkeeps
            rw [hpoint] at hkeeps
            exact hkeeps haccepted
          refine h.of_idle hwell ?_ rfl rfl (by simp) (by simp)
          simp only [TelemetryTasks.line, TelemetryTasks.waiting, TelemetryTasks.ring, hpoint, hempty,
            CommunicationPoint.held]
          simp
        · refine h.of_idle hwell ?_ rfl rfl (by simp) (by simp)
          simp only [TelemetryTasks.line, TelemetryTasks.waiting, TelemetryTasks.ring, hpoint,
            CommunicationPoint.held]
          exact .refl _
      · exact h
  | storeReceived =>
      simp only [telemetryStep]
      split
      · rename_i telemetry hpoint
        refine h.of_idle (store_wellFormed hwell telemetry) ?_ (by simp) (by simp) (by simp) (by simp)
        have hstored : (tasks.store telemetry).ring.Sublist (tasks.ring ++ [telemetry]) := by
          rw [store_ring hwell]
          split
          · exact (List.tail_sublist _).append (.refl _)
          · exact .refl _
        -- the record passes from the task to the end of the ring, whose head may make room
        simp only [TelemetryTasks.line, TelemetryTasks.waiting, hpoint, CommunicationPoint.held,
          List.append_nil, store_published, store_telemetryQueue, store_aggregation]
        rw [List.append_assoc tasks.published tasks.ring [telemetry]]
        have hline := ((List.Sublist.refl tasks.published).append hstored).append
          (List.Sublist.refl tasks.telemetryQueue)
        exact (hline.append (.refl _)).map _
      · exact h

theorem inLine_start {offline : OfflineState} (hwell : offline.queue.WellFormed) (nvs : Nvs)
    {sequenceHi : Option UInt64}
    (hordered : offline.queue.items.Pairwise fun earlier later => earlier.sequence < later.sequence)
    (hnumbered : ∀ telemetry ∈ offline.queue.items, telemetry.sequence ≤ sequenceHi.getD 0) :
    InLine (TelemetryTasks.start offline nvs sequenceHi) := by
  have hline : (TelemetryTasks.start offline nvs sequenceHi).line =
      offline.queue.items.map IiotTelemetry.sequence := by
    simp [TelemetryTasks.line, TelemetryTasks.start, TelemetryTasks.waiting, TelemetryTasks.ring,
      CommunicationPoint.held, AggregationPoint.held]
  constructor
  · exact hwell
  · rw [hline]
    exact List.pairwise_map.mpr hordered
  · rw [hline]
    intro sequence hmem
    obtain ⟨telemetry, hheld, rfl⟩ := List.mem_map.mp hmem
    exact Nat.lt_succ_of_le (UInt64.le_iff_toNat_le.mp (hnumbered telemetry hheld))
  · exact fun hne => absurd rfl hne
  · intro _ h
    cases h
  · intro _ h
    cases h
  · intro _ h
    cases h

/-- **Oldest first.** From a ring in sequence order, every interleaving that keeps to the conditions of
`KeepsOrder` publishes in sequence order, and nothing overtakes an older record. -/
theorem telemetry_oldest_first {offline : OfflineState} (hwell : offline.queue.WellFormed)
    (nvs : Nvs) {sequenceHi : Option UInt64}
    (hordered : offline.queue.items.Pairwise fun earlier later => earlier.sequence < later.sequence)
    (hnumbered : ∀ telemetry ∈ offline.queue.items, telemetry.sequence ≤ sequenceHi.getD 0)
    {events : List TelemetryEvent}
    (hkeeps : StepsMeet telemetryStep KeepsOrder (.start offline nvs sequenceHi) events) :
    StatesMeet telemetryStep OldestFirst (.start offline nvs sequenceHi) events := by
  have hinLine := statesMeet_of_guarded (fun _ event h hmeets => inLine_step event h hmeets)
    (inLine_start hwell nvs hordered hnumbered) hkeeps
  exact hinLine.mono fun _ h => h.oldestFirst

theorem telemetry_oldest_first_replay :
    StatesMeet telemetryStep OldestFirst
      (.start ((freshState 1).enqueue (sampleRecord 100)) (fun _ => none) (some 256))
      [.aggregate (sampleRecord 0), .send, .connect, .check, .peek, .publishReplay true, .pop] := by
  have hitems := enqueue_freshState_items (by decide : 0 < 1) (by decide) (sampleRecord 100)
  apply telemetry_oldest_first
    (enqueue_wellFormed (wellFormed_freshState (by decide : 0 < 1) (by decide)).1 _)
  · rw [hitems]
    exact List.pairwise_singleton _ _
  · rw [hitems]
    simp [sampleRecord]
  · simp [StepsMeet, KeepsOrder, TelemetryTasks.start, sequenceReservation]

/-- The link comes up while the communication task waits for a record to receive, with an older one in
the ring. -/
theorem telemetry_overtakes_ring :
    ¬ ∀ (offline : OfflineState) (nvs : Nvs) (sequenceHi : Option UInt64)
        (events : List TelemetryEvent), offline.queue.WellFormed →
        (offline.queue.items.Pairwise fun earlier later => earlier.sequence < later.sequence) →
        (∀ telemetry ∈ offline.queue.items, telemetry.sequence ≤ sequenceHi.getD 0) →
        StatesMeet telemetryStep OldestFirst (.start offline nvs sequenceHi) events := by
  intro hall
  have hwell := enqueue_wellFormed (wellFormed_freshState (by decide : 0 < 1) (by decide)).1
    (sampleRecord 100)
  have hitems := enqueue_freshState_items (by decide : 0 < 1) (by decide) (sampleRecord 100)
  generalize (freshState 1).enqueue (sampleRecord 100) = offline at hwell hitems
  have hmeets := hall offline (fun _ => none) (some 256)
    [.aggregate (sampleRecord 0), .send, .check, .connect, .receive, .publishReceived true] hwell
    (by rw [hitems]; exact List.pairwise_singleton _ _) (by rw [hitems]; simp [sampleRecord])
  have hlast := hmeets.last.2.2 { sampleRecord 0 with sequence := 257, replayed := false }
    (by simp [telemetryStep, TelemetryTasks.start, telemetryQueueLength, gatewayNextSequence,
      SequenceCounter.reserve]) (sampleRecord 100)
    (by simp [telemetryStep, TelemetryTasks.start, telemetryQueueLength, TelemetryTasks.ring, hitems])
  exact absurd hlast (by decide)

end IiotMonitoring
