import IiotMonitoring.Proof.OfflineCrash
import IiotMonitoring.Proof.TelemetryOrder

/-!
# The records that a gateway holds

A property of the records that the tasks make, and that a replay does not lose, is one of every record
in the ring, in `telemetry_queue` and in the tasks' hands. It is one of every record in the flash too,
wherever the power goes.
-/

namespace IiotMonitoring

variable {capacity : Nat} {property property' : IiotTelemetry → Prop} {tasks : TelemetryTasks}

/-! ### What is held -/

/-- The record that the communication task has in hand. -/
def CommunicationPoint.inHand : CommunicationPoint → List IiotTelemetry
  | .replaying telemetry | .popping telemetry | .publishing telemetry | .storing telemetry => [telemetry]
  | _ => []

/-- The next load yields records with the property. -/
def Nvs.Keeps (capacity : Nat) (property : IiotTelemetry → Prop) (nvs : Nvs) : Prop :=
  ∃ fifo : BoundedFifo capacity IiotTelemetry, Recovers nvs fifo ∧
    ∀ telemetry ∈ fifo.items, property telemetry

/-- Every record of the gateway has the property. -/
structure TelemetryTasks.Holds (capacity : Nat) (property : IiotTelemetry → Prop)
    (tasks : TelemetryTasks) : Prop where
  ring : ∃ fifo : BoundedFifo capacity IiotTelemetry,
    Synchronised tasks.nvs tasks.offline fifo ∧ ∀ telemetry ∈ fifo.items, property telemetry
  queue : ∀ telemetry ∈ tasks.telemetryQueue, property telemetry
  aggregation : ∀ telemetry ∈ tasks.aggregation.held, property telemetry
  communication : ∀ telemetry ∈ tasks.communication.inHand, property telemetry

theorem Nvs.Keeps.mono {nvs : Nvs} (h : nvs.Keeps capacity property)
    (hmono : ∀ telemetry, property telemetry → property' telemetry) : nvs.Keeps capacity property' := by
  obtain ⟨fifo, hrecovers, hitems⟩ := h
  exact ⟨fifo, hrecovers, fun telemetry hmem => hmono _ (hitems telemetry hmem)⟩

theorem keeps_blank {nvs : Nvs} (hpos : 1 ≤ capacity) (hle : capacity ≤ 32)
    (hmetadata : nvs "queue_meta" = none) (hjournal : nvs "q_pending" = none) :
    nvs.Keeps capacity property :=
  ⟨.empty, (@commits_blank capacity ⟨nvs, none, 0⟩ hpos hle ⟨hmetadata, hjournal, rfl⟩).1,
    fun _ h => absurd h List.not_mem_nil⟩

namespace TelemetryTasks.Holds

theorem mono (h : tasks.Holds capacity property)
    (hmono : ∀ telemetry, property telemetry → property' telemetry) :
    tasks.Holds capacity property' := by
  obtain ⟨fifo, hsync, hitems⟩ := h.ring
  constructor
  · exact ⟨fifo, hsync, fun telemetry hmem => hmono _ (hitems telemetry hmem)⟩
  · exact fun telemetry hmem => hmono _ (h.queue telemetry hmem)
  · exact fun telemetry hmem => hmono _ (h.aggregation telemetry hmem)
  · exact fun telemetry hmem => hmono _ (h.communication telemetry hmem)

theorem keeps (h : tasks.Holds capacity property) : tasks.nvs.Keeps capacity property := by
  obtain ⟨fifo, hsync, hitems⟩ := h.ring
  exact ⟨fifo, hsync.recovers, hitems⟩

theorem wellFormed (h : tasks.Holds capacity property) : tasks.offline.queue.WellFormed := by
  obtain ⟨fifo, hsync, -⟩ := h.ring
  exact hsync.holds.wellFormed

theorem of_ring (h : tasks.Holds capacity property) : ∀ telemetry ∈ tasks.ring, property telemetry := by
  obtain ⟨fifo, hsync, hitems⟩ := h.ring
  intro telemetry hmem
  rw [TelemetryTasks.ring, hsync.shows.1] at hmem
  exact hitems telemetry hmem

end TelemetryTasks.Holds

theorem mem_items_push {fifo : BoundedFifo capacity IiotTelemetry} {telemetry added : IiotTelemetry}
    (h : telemetry ∈ (fifo.push added).items) : telemetry ∈ fifo.items ∨ telemetry = added := by
  rcases List.mem_append.mp (List.mem_of_mem_drop h) with hold | hnew
  · exact .inl hold
  · exact .inr (List.mem_singleton.mp hnew)

theorem items_push_property {fifo : BoundedFifo capacity IiotTelemetry} {added : IiotTelemetry}
    (hitems : ∀ telemetry ∈ fifo.items, property telemetry) (hadded : property added) :
    ∀ telemetry ∈ (fifo.push added).items, property telemetry := by
  intro telemetry hmem
  rcases mem_items_push hmem with hold | rfl
  · exact hitems telemetry hold
  · exact hadded

/-! ### Critical sections -/

theorem synchronised_store {fifo : BoundedFifo capacity IiotTelemetry}
    (h : Synchronised tasks.nvs tasks.offline fifo) (telemetry : IiotTelemetry) :
    Synchronised (tasks.store telemetry).nvs (tasks.store telemetry).offline (fifo.push telemetry) := by
  obtain ⟨trace, hrun⟩ := Program.exec_run nvsDevice (nvsAnswers_nvsDevice False)
    (gatewayOfflinePush tasks.offline telemetry) tasks.nvs
  exact (exec_push_recovers h hrun).1 _ rfl

theorem synchronised_remove {fifo : BoundedFifo capacity IiotTelemetry}
    (h : Synchronised tasks.nvs tasks.offline fifo) :
    Synchronised tasks.remove.2.nvs tasks.remove.2.offline fifo.pop := by
  obtain ⟨trace, hrun⟩ := Program.exec_run nvsDevice (nvsAnswers_nvsDevice False)
    (gatewayOfflinePop tasks.offline) tasks.nvs
  exact (exec_pop_recovers h hrun).1 _ rfl

theorem ring_store (h : tasks.Holds capacity property) {telemetry : IiotTelemetry}
    (htelemetry : property telemetry) :
    ∃ fifo : BoundedFifo capacity IiotTelemetry,
      Synchronised (tasks.store telemetry).nvs (tasks.store telemetry).offline fifo ∧
        ∀ held ∈ fifo.items, property held := by
  obtain ⟨fifo, hsync, hitems⟩ := h.ring
  exact ⟨_, synchronised_store hsync telemetry, items_push_property hitems htelemetry⟩

theorem ring_remove (h : tasks.Holds capacity property) :
    ∃ fifo : BoundedFifo capacity IiotTelemetry,
      Synchronised tasks.remove.2.nvs tasks.remove.2.offline fifo ∧
        ∀ held ∈ fifo.items, property held := by
  obtain ⟨fifo, hsync, hitems⟩ := h.ring
  exact ⟨_, synchronised_remove hsync, fun held hmem => hitems held (List.mem_of_mem_tail hmem)⟩

/-! ### Steps -/

/-- A record that is made has the property, and what was held before. -/
theorem holds_aggregate (h : tasks.Holds capacity property) (hpoint : tasks.aggregation = .sampling)
    (telemetry : IiotTelemetry)
    (hmade : property { telemetry with
      sequence := (gatewayNextSequence tasks.sequence).1
      replayed := false }) :
    (telemetryStep tasks (.aggregate telemetry)).Holds capacity property := by
  simp only [telemetryStep, hpoint]
  constructor
  · exact h.ring
  · exact h.queue
  · intro held hheld
    rw [List.mem_singleton.mp hheld]
    exact hmade
  · exact h.communication

/-- Any other step moves records and makes none. -/
theorem holds_step (hreplayed : ∀ telemetry, property telemetry → property { telemetry with replayed := true })
    (h : tasks.Holds capacity property) {event : TelemetryEvent}
    (hevent : ∀ telemetry, event ≠ .aggregate telemetry) :
    (telemetryStep tasks event).Holds capacity property := by
  have hnone : ∀ telemetry ∈ ([] : List IiotTelemetry), property telemetry :=
    fun _ hmem => absurd hmem List.not_mem_nil
  have hone : ∀ {held : IiotTelemetry}, property held → ∀ telemetry ∈ [held], property telemetry :=
    fun hheld telemetry hmem => List.mem_singleton.mp hmem ▸ hheld
  cases event with
  | connect => exact ⟨h.ring, h.queue, h.aggregation, h.communication⟩
  | disconnect => exact ⟨h.ring, h.queue, h.aggregation, h.communication⟩
  | aggregate telemetry => exact absurd rfl (hevent telemetry)
  | send =>
      simp only [telemetryStep]
      split
      · rename_i telemetry hpoint
        have hheld : property telemetry := h.aggregation _ (by rw [hpoint]; exact List.mem_singleton_self _)
        split
        · refine ⟨h.ring, ?_, hnone, h.communication⟩
          simp only [List.forall_mem_append]
          exact ⟨h.queue, hone hheld⟩
        · exact h
      · exact h
  | sendTimeout =>
      simp only [telemetryStep]
      split
      · rename_i telemetry hpoint
        have hheld : property telemetry := h.aggregation _ (by rw [hpoint]; exact List.mem_singleton_self _)
        split
        · exact h
        · exact ⟨h.ring, h.queue, hone hheld, h.communication⟩
      · exact h
  | storeAggregated =>
      simp only [telemetryStep]
      split
      · rename_i telemetry hpoint
        have hheld : property telemetry := h.aggregation _ (by rw [hpoint]; exact List.mem_singleton_self _)
        refine ⟨ring_store h hheld, ?_, hnone, ?_⟩
        · rw [store_telemetryQueue]
          exact h.queue
        · rw [store_communication]
          exact h.communication
      · exact h
  | check =>
      simp only [telemetryStep]
      split
      · refine ⟨h.ring, h.queue, h.aggregation, ?_⟩
        cases tasks.connected
        · exact hnone
        · exact hnone
      · exact h
  | peek =>
      simp only [telemetryStep]
      split
      · split
        · exact ⟨h.ring, h.queue, h.aggregation, hnone⟩
        · rename_i oldest hpeek
          rw [peek_ring h.wellFormed] at hpeek
          have holdest := h.of_ring oldest (List.mem_of_mem_head? hpeek)
          exact ⟨h.ring, h.queue, h.aggregation, hone (hreplayed oldest holdest)⟩
      · exact h
  | publishReplay accepted =>
      simp only [telemetryStep]
      split
      · rename_i replay hpoint
        have hheld : property replay := h.communication _ (by rw [hpoint]; exact List.mem_singleton_self _)
        split
        · exact ⟨h.ring, h.queue, h.aggregation, hone hheld⟩
        · exact ⟨h.ring, h.queue, h.aggregation, hnone⟩
      · exact h
  | pop =>
      simp only [telemetryStep]
      split
      · refine ⟨ring_remove h, h.queue, h.aggregation, ?_⟩
        cases tasks.remove.1
        · exact hnone
        · exact hnone
      · exact h
  | receive =>
      simp only [telemetryStep]
      split
      · rename_i telemetry rest hpoint hqueue
        have hall := h.queue
        rw [hqueue, List.forall_mem_cons] at hall
        exact ⟨h.ring, hall.2, h.aggregation, hone hall.1⟩
      · exact h
  | receiveTimeout =>
      simp only [telemetryStep]
      split
      · exact ⟨h.ring, h.queue, h.aggregation, hnone⟩
      · exact h
  | publishReceived accepted =>
      simp only [telemetryStep]
      split
      · rename_i telemetry hpoint
        have hheld : property telemetry :=
          h.communication _ (by rw [hpoint]; exact List.mem_singleton_self _)
        split
        · exact ⟨h.ring, h.queue, h.aggregation, hnone⟩
        · exact ⟨h.ring, h.queue, h.aggregation, hone hheld⟩
      · exact h
  | storeReceived =>
      simp only [telemetryStep]
      split
      · rename_i telemetry hpoint
        have hheld : property telemetry :=
          h.communication _ (by rw [hpoint]; exact List.mem_singleton_self _)
        refine ⟨ring_store h hheld, ?_, ?_, hnone⟩
        · rw [store_telemetryQueue]
          exact h.queue
        · rw [store_aggregation]
          exact h.aggregation
      · exact h

theorem remove_sequence (tasks : TelemetryTasks) : tasks.remove.2.sequence = tasks.sequence := by
  simp only [TelemetryTasks.remove]

theorem remove_published (tasks : TelemetryTasks) : tasks.remove.2.published = tasks.published := by
  simp only [TelemetryTasks.remove]

/-- Only the aggregation takes sequence numbers. -/
theorem sequence_step {event : TelemetryEvent} (hevent : ∀ telemetry, event ≠ .aggregate telemetry) :
    (telemetryStep tasks event).sequence = tasks.sequence := by
  cases event with
  | connect => rfl
  | disconnect => rfl
  | aggregate telemetry => exact absurd rfl (hevent telemetry)
  | storeAggregated =>
      simp only [telemetryStep]
      split
      · dsimp only
        rw [store_sequence]
      · rfl
  | storeReceived =>
      simp only [telemetryStep]
      split
      · dsimp only
        rw [store_sequence]
      · rfl
  | pop =>
      simp only [telemetryStep]
      split
      · dsimp only
        rw [remove_sequence]
      · rfl
  | _ =>
      simp only [telemetryStep]
      repeat' split
      all_goals rfl

/-- A step publishes nothing, or the record in hand. -/
theorem published_step (event : TelemetryEvent) :
    (telemetryStep tasks event).published = tasks.published ∨
      ∃ telemetry ∈ tasks.communication.inHand,
        (telemetryStep tasks event).published = tasks.published ++ [telemetry] := by
  cases event with
  | connect => exact .inl rfl
  | disconnect => exact .inl rfl
  | storeAggregated =>
      simp only [telemetryStep]
      split
      · apply Or.inl
        dsimp only
        rw [store_published]
      · exact .inl rfl
  | storeReceived =>
      simp only [telemetryStep]
      split
      · apply Or.inl
        dsimp only
        rw [store_published]
      · exact .inl rfl
  | publishReplay accepted =>
      simp only [telemetryStep]
      split
      · rename_i replay hpoint
        split
        · exact .inr ⟨replay, by rw [hpoint]; exact List.mem_singleton_self _, rfl⟩
        · exact .inl rfl
      · exact .inl rfl
  | publishReceived accepted =>
      simp only [telemetryStep]
      split
      · rename_i telemetry hpoint
        split
        · exact .inr ⟨telemetry, by rw [hpoint]; exact List.mem_singleton_self _, rfl⟩
        · exact .inl rfl
      · exact .inl rfl
  | pop =>
      simp only [telemetryStep]
      apply Or.inl
      split
      · dsimp only
        rw [remove_published]
      · rfl
  | _ =>
      simp only [telemetryStep]
      apply Or.inl
      repeat' split
      all_goals rfl

theorem published_property (h : tasks.Holds capacity property) {event : TelemetryEvent}
    {sent : List IiotTelemetry}
    (hsent : (telemetryStep tasks event).published = tasks.published ++ sent) :
    ∀ telemetry ∈ sent, property telemetry := by
  intro telemetry hmem
  rcases published_step event with hsame | ⟨held, hheld, hpublished⟩
  · rw [hsame] at hsent
    rw [List.self_eq_append_right.mp hsent] at hmem
    cases hmem
  · rw [hpublished] at hsent
    rw [← List.append_cancel_left hsent] at hmem
    rw [List.mem_singleton.mp hmem]
    exact h.communication held hheld

/-! ### Power -/

theorem keeps_of_storing (h : tasks.Holds capacity property) {telemetry : IiotTelemetry}
    (hpoint : tasks.aggregation = .storing telemetry ∨ tasks.communication = .storing telemetry)
    {trace : List (Program.Answered NvsAnswer)} {nvs : Nvs}
    (hrun : Program.Exec (nvsAnswers False) (gatewayOfflinePush tasks.offline telemetry) tasks.nvs trace
      none nvs) : nvs.Keeps capacity property := by
  have htelemetry : property telemetry := by
    rcases hpoint with hpoint | hpoint
    · exact h.aggregation _ (by rw [hpoint]; exact List.mem_singleton_self _)
    · exact h.communication _ (by rw [hpoint]; exact List.mem_singleton_self _)
  obtain ⟨fifo, hsync, hitems⟩ := h.ring
  rcases (exec_push_recovers hsync hrun).2.1 rfl with hbefore | hafter
  · exact ⟨fifo, hbefore, hitems⟩
  · exact ⟨_, hafter, items_push_property hitems htelemetry⟩

theorem keeps_of_removing (h : tasks.Holds capacity property)
    {trace : List (Program.Answered NvsAnswer)} {nvs : Nvs}
    (hrun : Program.Exec (nvsAnswers False) (gatewayOfflinePop tasks.offline) tasks.nvs trace none nvs) :
    nvs.Keeps capacity property := by
  obtain ⟨fifo, hsync, hitems⟩ := h.ring
  rcases (exec_pop_recovers hsync hrun).2.1 rfl with hbefore | hafter
  · exact ⟨fifo, hbefore, hitems⟩
  · exact ⟨_, hafter, fun held hmem => hitems held (List.mem_of_mem_tail hmem)⟩

theorem keeps_of_loading {nvs nvs' : Nvs} (h : nvs.Keeps capacity property)
    {trace : List (Program.Answered NvsAnswer)}
    (hrun : Program.Exec (nvsAnswers False) (gatewayOfflineLoad capacity) nvs trace none nvs') :
    nvs'.Keeps capacity property := by
  obtain ⟨fifo, hrecovers, hitems⟩ := h
  exact ⟨fifo, (exec_load_recovers hrecovers hrun).2.1 rfl, hitems⟩

theorem holds_boot {nvs nvs' : Nvs} (h : nvs.Keeps capacity property)
    {trace : List (Program.Answered NvsAnswer)} {loaded : Bool × OfflineState}
    (hrun : Program.Exec (nvsAnswers False) (gatewayOfflineLoad capacity) nvs trace (some loaded) nvs')
    (sequenceHi : Option UInt64) :
    (TelemetryTasks.start loaded.2 nvs' sequenceHi).Holds capacity property := by
  obtain ⟨fifo, hrecovers, hitems⟩ := h
  have hnone : ∀ telemetry ∈ ([] : List IiotTelemetry), property telemetry :=
    fun _ hmem => absurd hmem List.not_mem_nil
  exact ⟨⟨fifo, (exec_load_recovers hrecovers hrun).1 loaded rfl, hitems⟩, hnone, hnone, hnone⟩

end IiotMonitoring
