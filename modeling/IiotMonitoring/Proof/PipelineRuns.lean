import IiotMonitoring.Proof.PipelineOnce

/-!
# Runs of the pipeline

Whatever the tasks, the link, the power, the broker and the others do, and in whatever order, the
telemetry rows of the device are those windows of samples that the server takes and that were delivered
to it, each once.
-/

namespace IiotMonitoring

variable {K : Type} [Field K] [LinearOrder K] {parts : PipelineParts K} {siteId deviceId : String}
  {state after : TelemetryPipeline K} {events : List (PipelineEvent K)}

/-! ### The invariant -/

/-- The samples of the window that is being filled. -/
def Gateway.samples : Gateway K → List (IiotSample K)
  | off _ => []
  | running gateway => gateway.samples

/-- The sample that a step receives. -/
def PipelineEvent.sample? : PipelineEvent K → Option (IiotSample K)
  | collect sample | fill sample _ => some sample
  | _ => none

/-- The samples in windows, and those of the next one. -/
def TelemetryPipeline.samples (state : TelemetryPipeline K) : List (IiotSample K) :=
  state.filled.flatMap FilledWindow.samples ++ state.gateway.samples

/-- What holds between any two steps. -/
structure TelemetryPipeline.Sound (parts : PipelineParts K) (siteId deviceId : String)
    (events : List (PipelineEvent K)) (state : TelemetryPipeline K) : Prop where
  gateway : state.gateway.Sound parts state.filled
  apart : WindowsApart parts state.filled
  samples : state.samples.Sublist (events.filterMap PipelineEvent.sample?)
  broker : ∀ message ∈ state.broker, MadeOf parts state.filled message.record ∧
    message.Written parts.config
  heard : ∀ message clock, .deliver message clock ∈ events → MadeOf parts state.filled message.record
  server : state.server.Sound parts siteId deviceId state.filled events

theorem IiotConfig.offlineCapacity_range {config : IiotConfig} (h : iiotConfigValidate config = true) :
    1 ≤ config.offlineCapacity.toNat ∧ config.offlineCapacity.toNat ≤ 32 := by
  obtain ⟨-, -, -, -, -, ⟨hcapacity, hle⟩, -⟩ := (iiotConfigValidate_iff config).mp h
  refine ⟨Nat.pos_of_ne_zero fun hzero => hcapacity ?_, hle⟩
  exact UInt8.toNat_inj.mp hzero

theorem sound_fresh (hparts : parts.Proper) (h : state.Fresh siteId deviceId) :
    state.Sound parts siteId deviceId [] := by
  obtain ⟨hpos, hle⟩ := IiotConfig.offlineCapacity_range hparts.valid
  obtain ⟨flash, hgateway, hmetadata, hjournal⟩ := h.flash
  constructor
  · rw [hgateway, h.filled]
    exact ⟨reserved_boot _, fun _ hmem => absurd hmem List.not_mem_nil,
      keeps_blank hpos hle hmetadata hjournal⟩
  · rw [h.filled]
    exact ⟨fun _ hmem => absurd hmem List.not_mem_nil, fun _ hmem => absurd hmem List.not_mem_nil,
      List.Pairwise.nil, List.nodup_nil⟩
  · rw [TelemetryPipeline.samples, h.filled, hgateway]
    exact List.nil_sublist _
  · rw [h.broker]
    exact fun _ hmem => absurd hmem List.not_mem_nil
  · exact fun _ _ hmem => absurd hmem List.not_mem_nil
  · rw [h.filled]
    constructor
    · exact ⟨h.messages, h.sequences⟩
    · exact h.site
    · intro row hrow hours
      rcases hours with hours | ⟨window, hwindow, -⟩
      · exact absurd hours (h.rows row hrow)
      · cases hwindow
    · exact fun window hwindow => absurd hwindow List.not_mem_nil

namespace TelemetryPipeline.Sound

theorem heard_concat (h : state.Sound parts siteId deviceId events) {event : PipelineEvent K}
    (hevent : ∀ message clock, event ≠ .deliver message clock) (message : BrokerMessage)
    (clock : MessageClock) (hmem : .deliver message clock ∈ events ++ [event]) :
    MadeOf parts state.filled message.record := by
  rcases List.mem_append.mp hmem with hold | hnew
  · exact h.heard message clock hold
  · exact absurd (List.mem_singleton.mp hnew).symm (hevent message clock)

theorem samples_concat (h : state.Sound parts siteId deviceId events) (event : PipelineEvent K) :
    state.samples.Sublist ((events ++ [event]).filterMap PipelineEvent.sample?) := by
  rw [List.filterMap_append]
  exact h.samples.trans (List.sublist_append_left ..)

/-- A step of the gateway that publishes nothing. -/
theorem of_gateway (h : state.Sound parts siteId deviceId events) {event : PipelineEvent K}
    (hevent : ∀ message clock, event ≠ .deliver message clock) {gateway : Gateway K}
    (hgateway : gateway.Sound parts state.filled)
    (hsamples : gateway.samples = [] ∨ ∃ sample, event.sample? = some sample ∧
      gateway.samples = state.gateway.samples ++ [sample]) :
    ({ state with gateway := gateway } : TelemetryPipeline K).Sound parts siteId deviceId
      (events ++ [event]) where
  gateway := hgateway
  apart := h.apart
  samples := by
    rcases hsamples with hnone | ⟨sample, hsample, hmore⟩
    · apply List.Sublist.trans _ (h.samples_concat event)
      rw [TelemetryPipeline.samples, hnone, List.append_nil]
      exact List.sublist_append_left ..
    · rw [TelemetryPipeline.samples, hmore, ← List.append_assoc, List.filterMap_append,
        List.filterMap_cons_some hsample]
      exact h.samples.append (List.Sublist.refl _)
  broker := h.broker
  heard := h.heard_concat hevent
  server := h.server.same hevent

/-- A step of the server that delivers no message of the gateway. -/
theorem of_server (h : state.Sound parts siteId deviceId events) {event : PipelineEvent K}
    (hevent : ∀ message clock, event ≠ .deliver message clock) {tables : ServerTables}
    {added : List Telemetry}
    (hrows : tables.db.telemetry = state.server.db.telemetry ++ added)
    (hadded : ∀ row ∈ added, row.deviceId ≠ deviceId ∧
      ∀ window ∈ state.filled, row.messageId ≠ uuid4 window.reads.random)
    (hkeys : UniqueKeys tables.db.telemetry) (hsite : tables.db.AtSite siteId deviceId) :
    ({ state with server := tables } : TelemetryPipeline K).Sound parts siteId deviceId
      (events ++ [event]) where
  gateway := h.gateway
  apart := h.apart
  samples := h.samples_concat event
  broker := h.broker
  heard := h.heard_concat hevent
  server := h.server.concat hevent hrows hadded hkeys hsite

theorem running (h : state.Sound parts siteId deviceId events) {gateway : RunningGateway K}
    (hgateway : state.gateway = .running gateway) : (Gateway.running gateway).Sound parts state.filled := by
  rw [← hgateway]
  exact h.gateway

theorem off (h : state.Sound parts siteId deviceId events) {flash : GatewayFlash}
    (hgateway : state.gateway = .off flash) : (Gateway.off flash).Sound parts state.filled := by
  rw [← hgateway]
  exact h.gateway

/-! ### Steps of the gateway -/

theorem collect (h : state.Sound parts siteId deviceId events) {gateway : RunningGateway K}
    {sample : IiotSample K} {aggregation : Aggregation K} (hgateway : state.gateway = .running gateway)
    (hreceive : gateway.aggregation.receive parts.sqrtf parts.config.expectedSamples sample =
      (none, aggregation)) :
    ({ state with
        gateway := .running
          { gateway with aggregation := aggregation, samples := gateway.samples ++ [sample] } } :
      TelemetryPipeline K).Sound parts siteId deviceId (events ++ [.collect sample]) := by
  obtain ⟨hreserved, hbound, hholds, hfilling, hshort⟩ := h.running hgateway
  apply h.of_gateway (fun _ _ hevent => (by cases hevent))
  rw [hfilling, Aggregation.receive_filling sample hshort] at hreceive
  split_ifs at hreceive with hroom
  · obtain ⟨-, rfl⟩ := Prod.mk.inj hreceive
    refine ⟨hreserved, hbound, hholds, rfl, ?_⟩
    rw [List.length_append]
    exact hroom
  · cases (Prod.mk.inj hreceive).1
  · rw [hgateway]
    exact .inr ⟨sample, rfl, rfl⟩

/-- **A window is filled.** Its number is above all others, and no one has seen its identifier. -/
theorem fill (h : state.Sound parts siteId deviceId events) {gateway : RunningGateway K}
    {sample : IiotSample K} {reads : AggregationReads} {measurements : WindowMeasurements K}
    {aggregation : Aggregation K} (hgateway : state.gateway = .running gateway)
    (hpoint : gateway.tasks.aggregation = .sampling)
    (hreceive : gateway.aggregation.receive parts.sqrtf parts.config.expectedSamples sample =
      (some measurements, aggregation))
    (hnew : state.NewIdentifier reads) (hroom : state.SequenceRoom) :
    ({ state with
        gateway := .running
          { aggregation := aggregation
            samples := []
            tasks := telemetryStep gateway.tasks (.aggregate (parts.record measurements reads)) }
        filled := state.filled ++ [{
          samples := gateway.samples ++ [sample]
          reads := { reads with sequence := (gatewayNextSequence gateway.tasks.sequence).1 } }] } :
      TelemetryPipeline K).Sound parts siteId deviceId (events ++ [.fill sample reads]) := by
  obtain ⟨hreserved, hbound, hholds, hfilling, hshort⟩ := h.running hgateway
  change gateway.tasks.sequence.Reserved at hreserved
  change ∀ window ∈ state.filled, window.reads.sequence.toNat < gateway.tasks.sequence.bound at hbound
  have hspace := hroom gateway hgateway
  obtain ⟨hnumber, hnext, hreserved'⟩ := gatewayNextSequence_spec hreserved (by omega)
  rw [hfilling, Aggregation.receive_filling sample hshort] at hreceive
  split_ifs at hreceive with hmore
  · cases (Prod.mk.inj hreceive).1
  · obtain ⟨hmeasurements, rfl⟩ := Prod.mk.inj hreceive
    obtain rfl := Option.some.inj hmeasurements
    have hlength : (gateway.samples ++ [sample]).length = parts.config.expectedSamples.toNat := by
      rw [List.length_append, List.length_singleton]
      omega
    generalize hwindow : (⟨gateway.samples ++ [sample],
      { reads with sequence := (gatewayNextSequence gateway.tasks.sequence).1 }⟩ : FilledWindow K) =
        window
    have hsamples : window.samples = gateway.samples ++ [sample] := by rw [← hwindow]
    have hsequence : window.reads.sequence = (gatewayNextSequence gateway.tasks.sequence).1 := by
      rw [← hwindow]
    have hrandom : window.reads.random = reads.random := by rw [← hwindow]
    have hlast : ∀ made ∈ state.filled, made.reads.sequence < window.reads.sequence := by
      intro made hmade
      rw [hsequence, UInt64.lt_iff_toNat_lt]
      exact lt_of_lt_of_le (hbound made hmade) hnumber
    have hrecord : ({ parts.record ((IiotSampleWindow.after Aggregation.lowestCurrent
        parts.config.expectedSamples (gateway.samples ++ [sample])).finish parts.sqrtf) reads with
          sequence := (gatewayNextSequence gateway.tasks.sequence).1, replayed := false } :
            IiotTelemetry) = { window.telemetry parts with replayed := false } := by
      rw [FilledWindow.telemetry, hsamples, windowResult, UInt16.ofNat_toNat, ← hwindow]
      rfl
    have hundelivered : ¬ window.DeliveredIn parts events := by
      rintro ⟨message, clock, hevent, replayed, hmessage⟩
      obtain ⟨made, hmade, replayed', hmade'⟩ := h.heard message clock hevent
      apply hnew.windows made hmade
      rw [identifier_of_record (hmade'.symm.trans hmessage), hrandom]
    have happly : ∀ message clock, PipelineEvent.fill sample reads ≠ .deliver message clock :=
      fun _ _ hevent => (by cases hevent)
    constructor
    · refine ⟨?_, ?_, ?_, rfl, ?_⟩
      · change (telemetryStep gateway.tasks (.aggregate _)).sequence.Reserved
        simp only [telemetryStep, hpoint]
        exact hreserved'
      · change ∀ made ∈ state.filled ++ [window], made.reads.sequence.toNat <
          (telemetryStep gateway.tasks (.aggregate _)).sequence.bound
        simp only [telemetryStep, hpoint]
        rw [hnext]
        simp only [List.forall_mem_append, List.forall_mem_singleton]
        refine ⟨fun made hmade => ?_, ?_⟩
        · exact Nat.lt_succ_of_lt (lt_of_lt_of_le (hbound made hmade) hnumber)
        · rw [hsequence]
          exact Nat.lt_succ_self _
      · apply holds_aggregate (hholds.mono fun telemetry hmade => hmade.concat window) hpoint
        exact ⟨window, List.mem_append_right _ (List.mem_singleton_self _), false, hrecord⟩
      · exact lt_of_le_of_lt (Nat.zero_le _) hshort
    · apply h.apart.concat
      · rw [hsamples]
        exact hlength
      · rw [hsequence]
        exact number_lt hreserved hspace
      · exact hlast
      · rw [hrandom]
        exact hnew.windows
    · have hmore := h.samples.append (List.Sublist.refl [sample])
      rw [TelemetryPipeline.samples, hgateway, List.append_assoc] at hmore
      rw [TelemetryPipeline.samples, List.flatMap_append, List.flatMap_singleton, hsamples,
        List.filterMap_append]
      exact (List.append_nil _).symm ▸ hmore
    · exact fun message hmessage => ⟨(h.broker message hmessage).1.concat window, (h.broker message hmessage).2⟩
    · intro message clock hmem
      exact (h.heard_concat happly message clock hmem).concat window
    · apply ServerTables.Sound.same _ happly
      apply h.server.fill _ hundelivered
      rw [hrandom]
      exact hnew.rows

theorem task (h : state.Sound parts siteId deviceId events) {gateway : RunningGateway K}
    {event : TelemetryEvent} {messages : List BrokerMessage}
    (hgateway : state.gateway = .running gateway)
    (hevent : ∀ telemetry, event ≠ .aggregate telemetry)
    (hpublished : (telemetryStep gateway.tasks event).published =
      gateway.tasks.published ++ messages.map BrokerMessage.record)
    (hwritten : ∀ message ∈ messages, message.Written parts.config) :
    ({ state with
        gateway := .running { gateway with tasks := telemetryStep gateway.tasks event }
        broker := state.broker ++ messages } : TelemetryPipeline K).Sound parts siteId deviceId
      (events ++ [.task event]) := by
  obtain ⟨hreserved, hbound, hholds, hfilling, hshort⟩ := h.running hgateway
  have hsame := @sequence_step gateway.tasks event hevent
  have happly : ∀ message clock, (PipelineEvent.task event : PipelineEvent K) ≠ .deliver message clock :=
    fun _ _ hequal => (by cases hequal)
  constructor
  · refine ⟨?_, ?_, holds_step (fun _ hmade => hmade.replayed) hholds hevent, hfilling, hshort⟩
    · change (telemetryStep gateway.tasks event).sequence.Reserved
      rw [hsame]
      exact hreserved
    · change ∀ window ∈ state.filled, window.reads.sequence.toNat <
        (telemetryStep gateway.tasks event).sequence.bound
      rw [hsame]
      exact hbound
  · exact h.apart
  · have hmore := h.samples_concat (.task event)
    rw [TelemetryPipeline.samples, hgateway] at hmore
    exact hmore
  · simp only [List.forall_mem_append]
    refine ⟨h.broker, fun message hmessage => ⟨?_, hwritten message hmessage⟩⟩
    exact published_property hholds hpublished _ (List.mem_map_of_mem hmessage)
  · exact h.heard_concat happly
  · exact h.server.same happly

/-- Another task takes a number. -/
theorem number (h : state.Sound parts siteId deviceId events) {gateway : RunningGateway K}
    (hgateway : state.gateway = .running gateway) (hroom : state.SequenceRoom) :
    ({ state with
        gateway := .running
          { gateway with
            tasks :=
              { gateway.tasks with sequence := (gatewayNextSequence gateway.tasks.sequence).2 } } } :
      TelemetryPipeline K).Sound parts siteId deviceId (events ++ [.number]) := by
  obtain ⟨hreserved, hbound, hholds, hfilling, hshort⟩ := h.running hgateway
  change gateway.tasks.sequence.Reserved at hreserved
  change ∀ window ∈ state.filled, window.reads.sequence.toNat < gateway.tasks.sequence.bound at hbound
  have hspace := hroom gateway hgateway
  obtain ⟨hnumber, hnext, hreserved'⟩ := gatewayNextSequence_spec hreserved (by omega)
  have hmore : gateway.tasks.sequence.bound ≤ (gatewayNextSequence gateway.tasks.sequence).2.bound := by
    rw [hnext]
    exact Nat.le_succ_of_le hnumber
  refine ⟨⟨hreserved', ?_, ?_, hfilling, hshort⟩, h.apart, ?_, h.broker, ?_, ?_⟩
  · exact fun window hwindow => lt_of_lt_of_le (hbound window hwindow) hmore
  · exact ⟨hholds.ring, hholds.queue, hholds.aggregation, hholds.communication⟩
  · have hsamples := h.samples_concat .number
    rw [TelemetryPipeline.samples, hgateway] at hsamples
    exact hsamples
  · exact h.heard_concat fun _ _ hevent => (by cases hevent)
  · exact h.server.same fun _ _ hevent => (by cases hevent)

/-- The power goes: what is left of the gateway is in its flash. -/
theorem powerLoss (h : state.Sound parts siteId deviceId events) {gateway : RunningGateway K}
    (hgateway : state.gateway = .running gateway) {nvs : Nvs} {sequenceHi : Option UInt64}
    (hmark : (gateway.tasks.sequence.sequenceHi.getD 0).toNat ≤ (sequenceHi.getD 0).toNat)
    (hkeeps : nvs.Keeps parts.config.offlineCapacity.toNat (MadeOf parts state.filled)) :
    ({ state with gateway := .off ⟨nvs, sequenceHi⟩ } : TelemetryPipeline K).Sound parts siteId deviceId
      (events ++ [.powerLoss]) := by
  have hsound := h.running hgateway
  apply h.of_gateway (fun _ _ hevent => (by cases hevent))
  · apply hsound.off _ hkeeps
    calc (Gateway.running gateway).counter.bound
        ≤ (gateway.tasks.sequence.sequenceHi.getD 0).toNat + 1 := bound_le_mark hsound.reserved
      _ ≤ (sequenceHi.getD 0).toNat + 1 := Nat.succ_le_succ hmark
  · exact .inl rfl

/-! ### Any step -/

variable [IsStrictOrderedRing K]

/-- **One step.** -/
theorem step (hparts : parts.Proper) (hnames : parts.config.Names siteId deviceId)
    (h : state.Sound parts siteId deviceId events) {event : PipelineEvent K}
    (hstep : PipelineStep parts state event after)
    (hundisturbed : Undisturbed parts siteId deviceId state event after) :
    after.Sound parts siteId deviceId (events ++ [event]) := by
  cases hstep with
  | collect hgateway _ hreceive => exact h.collect hgateway hreceive
  | fill hgateway hpoint hreceive =>
      exact h.fill hgateway hpoint hreceive hundisturbed.1 hundisturbed.2
  | task hgateway hevent hpublished hwritten => exact h.task hgateway hevent hpublished hwritten
  | number hgateway => exact h.number hgateway hundisturbed
  | powerLoss hgateway => exact h.powerLoss hgateway (le_refl _) (h.running hgateway).holds.1.keeps
  | reserving hgateway =>
      exact h.powerLoss hgateway (mark_le_reserve (hundisturbed _ hgateway)).1
        (h.running hgateway).holds.1.keeps
  | storing hgateway hpoint hrun =>
      exact h.powerLoss hgateway (le_refl _) (keeps_of_storing (h.running hgateway).holds.1 hpoint hrun)
  | removing hgateway _ hrun =>
      exact h.powerLoss hgateway (le_refl _) (keeps_of_removing (h.running hgateway).holds.1 hrun)
  | loading hgateway hrun =>
      obtain ⟨hreserved, hbound, hkeeps⟩ := h.off hgateway
      apply h.of_gateway (fun _ _ hevent => (by cases hevent))
      · exact ⟨hreserved, hbound, keeps_of_loading hkeeps hrun⟩
      · exact .inl rfl
  | boot hgateway hrun =>
      obtain ⟨hreserved, hbound, hkeeps⟩ := h.off hgateway
      apply h.of_gateway (fun _ _ hevent => (by cases hevent))
      · refine ⟨hreserved, hbound, holds_boot hkeeps hrun _, rfl, ?_⟩
        exact (IiotConfig.expectedSamples_range hparts.valid).1
      · exact .inl rfl
  | deliver hmessage htopic =>
      rename_i message clock topic
      obtain ⟨⟨window, hwindow, replayed, hrecord⟩, hwritten⟩ := h.broker _ hmessage
      refine ⟨h.gateway, h.apart, h.samples_concat _, h.broker, fun message' clock' hmem => ?_, ?_⟩
      · rcases List.mem_append.mp hmem with hold | hnew
        · exact h.heard message' clock' hold
        · obtain ⟨rfl, -⟩ := PipelineEvent.deliver.inj (List.mem_singleton.mp hnew)
          exact ⟨window, hwindow, replayed, hrecord⟩
      · exact h.server.deliver hnames h.apart hwindow hrecord
          (handle_window hparts hnames (h.apart.lengths window hwindow) (h.apart.numbers window hwindow)
            hrecord hwritten htopic clock state.server)
  | message =>
      obtain ⟨htopics, hidentifiers⟩ := hundisturbed
      obtain ⟨⟨added, hrows, hadded⟩, hkeys⟩ := handle_rows h.server.keys
      apply h.of_server (fun _ _ hevent => (by cases hevent)) hrows _ hkeys
      · exact atSite_handle h.server.site fun parsed hparsed hdevice => (htopics parsed hparsed hdevice).1
      · intro row hrow
        obtain ⟨envelope, hdecoded, rfl⟩ := hadded row hrow
        obtain ⟨parsed, hparsed, hkind, -, hdevice⟩ := decodePayload_identity hdecoded
        refine ⟨fun hsame => ?_, hidentifiers envelope hdecoded⟩
        exact (htopics parsed hparsed (hdevice.symm.trans (congrArg codes hsame))).2 hkind
  | others htelemetry =>
      apply h.of_server (fun _ _ hevent => (by cases hevent)) (htelemetry.trans (List.append_nil _).symm)
      · exact fun row hrow => absurd hrow List.not_mem_nil
      · rw [htelemetry]
        exact h.server.keys
      · exact hundisturbed

end TelemetryPipeline.Sound

/-! ### Runs -/

/-- The telemetry of the device is what was delivered of the windows, each once. -/
structure StoredOnce (parts : PipelineParts K) (deviceId : String) (events : List (PipelineEvent K))
    (state : TelemetryPipeline K) : Prop where
  origin : ∀ row ∈ state.server.db.telemetry, row.deviceId = deviceId →
    ∃ window ∈ state.filled, window.Shows parts row
  stored : ∀ window ∈ state.filled, window.Accepted parts → window.DeliveredIn parts events →
    ∃ row, window.Shows parts row ∧
      state.server.db.telemetry.filter (·.messageId = uuid4 window.reads.random) = [row]
  absent : ∀ window ∈ state.filled, ¬ (window.Accepted parts ∧ window.DeliveredIn parts events) →
    state.server.db.telemetry.filter (·.messageId = uuid4 window.reads.random) = []
  ordered : state.filled.Pairwise fun earlier later => earlier.reads.sequence < later.reads.sequence
  full : ∀ window ∈ state.filled, window.samples.length = parts.config.expectedSamples.toNat
  apart : (state.filled.flatMap FilledWindow.samples).Sublist (events.filterMap PipelineEvent.sample?)

theorem TelemetryPipeline.Sound.storedOnce (h : state.Sound parts siteId deviceId events)
    (hnames : parts.config.Names siteId deviceId) : StoredOnce parts deviceId events state := by
  constructor
  · intro row hrow hdevice
    obtain ⟨window, hwindow, hshows, -⟩ := h.server.rows row hrow (.inl hdevice)
    exact ⟨window, hwindow, hshows⟩
  · intro window hwindow haccepted hdelivered
    obtain ⟨row, hrow, hshows⟩ := h.server.stored window hwindow haccepted hdelivered
    refine ⟨row, hshows, ?_⟩
    rw [← (shows_names hnames hshows).1]
    exact filter_key_eq h.server.keys.messages hrow
  · intro window hwindow hnot
    rw [List.filter_eq_nil_iff]
    intro row hrow hidentifier
    have hsame := of_decide_eq_true hidentifier
    obtain ⟨made, hmade, hshows, haccepted, hdelivered⟩ :=
      h.server.rows row hrow (.inr ⟨window, hwindow, hsame⟩)
    obtain rfl := h.apart.of_identifier hmade hwindow ((shows_names hnames hshows).1.symm.trans hsame)
    exact hnot ⟨haccepted, hdelivered⟩
  · exact h.apart.ordered
  · exact h.apart.lengths
  · exact (List.sublist_append_left ..).trans h.samples

variable [IsStrictOrderedRing K] {start : TelemetryPipeline K}

theorem sound_run (hparts : parts.Proper) (hnames : parts.config.Names siteId deviceId)
    (hstart : start.Fresh siteId deviceId) (hrun : PipelineRun parts siteId deviceId start events state) :
    state.Sound parts siteId deviceId events := by
  apply hrun.invariant (fun events state => state.Sound parts siteId deviceId events)
  · exact sound_fresh hparts hstart
  · intro labels before label after hsound hstep
    exact hsound.step hparts hnames hstep.1 hstep.2

/-- **Every delivered window is stored once.** In every run of the gateway with power losses at any point,
the broker in any order and as often as it likes, and the others, the rows of the device are those windows
that the server takes and that were delivered, each once and as it was measured. -/
theorem windows_stored_once (hparts : parts.Proper) (hnames : parts.config.Names siteId deviceId)
    (hstart : start.Fresh siteId deviceId) (hrun : PipelineRun parts siteId deviceId start events state) :
    StoredOnce parts deviceId events state :=
  (sound_run hparts hnames hstart hrun).storedOnce hnames

/-! ### A window that is delivered twice -/

/-- A sample of a machine without an accelerometer. -/
def quietSample : IiotSample ℝ := ⟨.finite 1, .good, .finite 1, .good, .nan, .missing⟩

def quietReads : AggregationReads := ⟨Vector.replicate 16 0, 0, 60000, 0, 0⟩

noncomputable def quietParts : PipelineParts ℝ where
  simulation := true
  config := iiotConfigDefaults
  sqrtf := Real.sqrt
  convert := nearestFloat
  limits := ⟨1000, 4300⟩
  pydantic := documentPydantic
  format := silentFormat
  storesText := fun _ => true

def quietStart : TelemetryPipeline ℝ := ⟨.off ⟨fun _ => none, none⟩, [], emptyServer, []⟩

abbrev QuietRun : List (PipelineEvent ℝ) → TelemetryPipeline ℝ → Prop :=
  PipelineRun quietParts "workshop-demo" "motor-01" quietStart

theorem quietParts_proper : quietParts.Proper where
  valid := validate_defaults_gateway
  root := exactRoot_real
  converts := convertsToFloat_nearest
  documents := readsDocuments_documentScalars
  string text := congrArg some (codes_injective (codes_ofList (isUnicode_codes text)))
  nesting := by decide
  digits := by decide
  json _ := show Json.null.print.length ≤ 32 by decide
  stores _ _ := rfl

theorem quietStart_fresh : quietStart.Fresh "workshop-demo" "motor-01" where
  flash := ⟨_, rfl, rfl, rfl⟩
  broker := rfl
  filled := rfl
  messages := List.nodup_nil
  sequences := List.nodup_nil
  rows _ hrow := absurd hrow List.not_mem_nil
  site _ hdevice := absurd hdevice.symm (Option.some_ne_none _)

/-- A gateway that is filling its first window. -/
noncomputable def quietGateway (offline : OfflineState) (nvs : Nvs) (count : Nat) : RunningGateway ℝ where
  aggregation := .filling iiotConfigDefaults.expectedSamples (List.replicate count quietSample)
  samples := List.replicate count quietSample
  tasks := .start offline nvs none

theorem receive_quiet {count : Nat} (hcount : count + 1 ≤ 10) :
    (Aggregation.filling iiotConfigDefaults.expectedSamples (List.replicate count quietSample)).receive
        Real.sqrt iiotConfigDefaults.expectedSamples quietSample =
      if count + 1 < 10 then
        (none, .filling iiotConfigDefaults.expectedSamples (List.replicate (count + 1) quietSample))
      else
        (some (windowResult Aggregation.lowestCurrent Real.sqrt 10 (List.replicate (count + 1) quietSample)),
          .start iiotConfigDefaults.expectedSamples) := by
  have hexpected : iiotConfigDefaults.expectedSamples.toNat = 10 := rfl
  rw [Aggregation.receive_filling, List.length_replicate, List.replicate_succ', hexpected]
  · rfl
  · rwa [List.length_replicate, hexpected]

theorem quiet_collected {count : Nat} (hcount : count < 10) :
    ∃ events offline nvs, QuietRun events
      ⟨.running (quietGateway offline nvs count), [], emptyServer, []⟩ := by
  induction count with
  | zero =>
      obtain ⟨trace, hrun⟩ := Program.exec_run nvsDevice (nvsAnswers_nvsDevice False)
        (gatewayOfflineLoad quietParts.config.offlineCapacity.toNat) (fun _ => none)
      generalize (gatewayOfflineLoad quietParts.config.offlineCapacity.toNat).run nvsDevice
        (fun _ => none) = final at hrun
      refine ⟨[.boot], final.1.2, final.2, ?_⟩
      rw [quietGateway, List.replicate_zero, Aggregation.filling_nil]
      have hboot := @PipelineStep.boot ℝ _ _ quietParts quietStart _ _ _ _ rfl hrun
      exact Trail.start.step ⟨hboot, trivial⟩
  | succ count ih =>
      obtain ⟨events, offline, nvs, hrun⟩ := ih (Nat.lt_of_succ_lt hcount)
      have hreceive := receive_quiet (Nat.le_of_lt hcount)
      rw [if_pos hcount] at hreceive
      have hcollect := @PipelineStep.collect ℝ _ _ quietParts
        ⟨.running (quietGateway offline nvs count), [], emptyServer, []⟩ _ quietSample _ rfl rfl hreceive
      refine ⟨events ++ [.collect quietSample], offline, nvs, ?_⟩
      rw [quietGateway, List.replicate_succ']
      rw [List.replicate_succ'] at hcollect
      exact hrun.step ⟨hcollect, trivial⟩

def quietCounted : AggregationReads := { quietReads with sequence := 1 }

noncomputable def quietWindow : FilledWindow ℝ := ⟨List.replicate 10 quietSample, quietCounted⟩

theorem quietWindow_accepted : quietWindow.Accepted quietParts where
  rms := by
    have hnone : numberOf? quietSample.vibration = none := rfl
    refine .inl (List.filterMap_eq_nil_iff.mpr ?_)
    simp only [quietWindow, List.map_replicate, List.mem_replicate]
    rintro _ ⟨-, rfl⟩
    exact hnone
  clock := by
    have hnone : gatewayUtcNow quietCounted.time 32 = none := rfl
    intro now hnow
    exact absurd hnow.symm (hnone ▸ Option.some_ne_none now)
  uptime := by decide

/-- The tasks once the window is filled. -/
noncomputable def quietFilled (offline : OfflineState) (nvs : Nvs) : RunningGateway ℝ where
  aggregation := .start iiotConfigDefaults.expectedSamples
  samples := []
  tasks :=
    { TelemetryTasks.start offline nvs none with
      sequence := ⟨2, 256, some 256⟩
      aggregation := .sending (quietWindow.telemetry quietParts) }

theorem quiet_filled : ∃ events offline nvs, QuietRun events
    ⟨.running (quietFilled offline nvs), [], emptyServer, [quietWindow]⟩ := by
  obtain ⟨events, offline, nvs, hrun⟩ := quiet_collected (show 9 < 10 by decide)
  have hreceive := receive_quiet (show 9 + 1 ≤ 10 by decide)
  rw [if_neg (by decide)] at hreceive
  have hfill := @PipelineStep.fill ℝ _ _ quietParts
    ⟨.running (quietGateway offline nvs 9), [], emptyServer, []⟩ _ quietSample quietReads _ _ rfl rfl hreceive
  have hnew : (⟨.running (quietGateway offline nvs 9), [], emptyServer, []⟩ :
      TelemetryPipeline ℝ).NewIdentifier quietReads := by
    constructor
    · exact fun _ hwindow => absurd hwindow List.not_mem_nil
    · exact fun _ hrow => absurd hrow List.not_mem_nil
  have hroom : (⟨.running (quietGateway offline nvs 9), [], emptyServer, []⟩ :
      TelemetryPipeline ℝ).SequenceRoom := by
    intro gateway hgateway
    obtain rfl := Gateway.running.inj hgateway
    exact show (0 : UInt64).toNat + sequenceReservation.toNat < 2 ^ 63 by decide
  have hwindow : (⟨(quietGateway offline nvs 9).samples ++ [quietSample], quietCounted⟩ : FilledWindow ℝ) =
      quietWindow := by
    rw [quietWindow, quietGateway, ← List.replicate_succ']
  have htasks : telemetryStep (quietGateway offline nvs 9).tasks (.aggregate (quietParts.record
      (windowResult Aggregation.lowestCurrent Real.sqrt 10 (List.replicate (9 + 1) quietSample))
        quietReads)) =
        (quietFilled offline nvs).tasks := rfl
  have hstep := hrun.step ⟨hfill, hnew, hroom⟩
  rw [htasks] at hstep
  refine ⟨events ++ [.fill quietSample quietReads], offline, nvs, ?_⟩
  rw [← hwindow]
  exact hstep

/-- The tasks once it was sent. -/
noncomputable def quietSent (offline : OfflineState) (nvs : Nvs) : RunningGateway ℝ where
  aggregation := .start iiotConfigDefaults.expectedSamples
  samples := []
  tasks :=
    { TelemetryTasks.start offline nvs none with
      sequence := ⟨2, 256, some 256⟩
      connected := true
      published := [quietWindow.telemetry quietParts] }

theorem quiet_task {gateway : RunningGateway ℝ} {broker : List BrokerMessage}
    {filled : List (FilledWindow ℝ)} {events : List (PipelineEvent ℝ)}
    (hrun : QuietRun events ⟨.running gateway, broker, emptyServer, filled⟩) (event : TelemetryEvent)
    (messages : List BrokerMessage) (hevent : ∀ telemetry, event ≠ .aggregate telemetry)
    (hpublished : (telemetryStep gateway.tasks event).published =
      gateway.tasks.published ++ messages.map BrokerMessage.record)
    (hwritten : ∀ message ∈ messages, message.Written quietParts.config) :
    QuietRun (events ++ [.task event])
      ⟨.running { gateway with tasks := telemetryStep gateway.tasks event }, broker ++ messages,
        emptyServer, filled⟩ := by
  have hstep := @PipelineStep.task ℝ _ _ quietParts ⟨.running gateway, broker, emptyServer, filled⟩ gateway
    event messages rfl hevent hpublished hwritten
  exact hrun.step ⟨hstep, trivial⟩

theorem quiet_published : ∃ events offline nvs message topic,
    decodeUtf8 message.topic = some topic ∧
      message.record = { quietWindow.telemetry quietParts with replayed := false } ∧
      QuietRun events ⟨.running (quietSent offline nvs), [message], emptyServer, [quietWindow]⟩ := by
  obtain ⟨events, offline, nvs, hrun⟩ := quiet_filled
  have hnone : ∀ message ∈ ([] : List BrokerMessage), message.Written quietParts.config :=
    fun _ hmessage => absurd hmessage List.not_mem_nil
  have hsend := quiet_task hrun .send [] (fun _ h => by cases h) rfl hnone
  have hcheck := quiet_task hsend .check [] (fun _ h => by cases h) rfl hnone
  have hreceive := quiet_task hcheck .receive [] (fun _ h => by cases h) rfl hnone
  have hconnect := quiet_task hreceive .connect [] (fun _ h => by cases h) rfl hnone
  obtain ⟨topicBytes, topic, document, hwritten, htopic, -⟩ :=
    @aggregated_read quietParts.limits quietParts.pydantic quietParts.config ℝ _ _ quietParts.sqrtf
      quietParts.convert _ readsDocuments_documentScalars (by decide) (by decide) exactRoot_real
      convertsToFloat_nearest validate_defaults_gateway _ _ demo_names quietWindow.samples
      List.length_replicate quietParts.simulation quietWindow.reads
      { quietWindow.telemetry quietParts with replayed := false } false rfl (fun _ => 0)
      (zeroArray iiotTopicMax)
  refine ⟨_, offline, nvs, ⟨topicBytes, document, _⟩, topic, htopic, rfl,
    quiet_task hconnect (.publishReceived true) _ (fun _ h => by cases h) rfl ?_⟩
  intro message hmessage
  rw [List.mem_singleton.mp hmessage]
  exact ⟨fun _ => 0, zeroArray iiotTopicMax, hwritten⟩

/-- A window without vibrations is delivered twice, and stored once. -/
theorem quietWindow_stored : ∃ events message clock state row,
    QuietRun (events ++ [.deliver message clock] ++ [.deliver message clock]) state ∧
      quietWindow.Shows quietParts row ∧
      state.server.db.telemetry.filter (·.messageId = uuid4 quietWindow.reads.random) = [row] := by
  obtain ⟨events, offline, nvs, message, topic, htopic, hrecord, hrun⟩ := quiet_published
  have hmessage : message ∈ [message] := List.mem_singleton_self message
  have hfirst := hrun.step ⟨@PipelineStep.deliver ℝ _ _ quietParts _ message sampleClock topic hmessage
    htopic, trivial⟩
  have hsecond := hfirst.step ⟨@PipelineStep.deliver ℝ _ _ quietParts _ message sampleClock topic hmessage
    htopic, trivial⟩
  have honce := windows_stored_once quietParts_proper demo_names quietStart_fresh hsecond
  obtain ⟨row, hshows, hrow⟩ := honce.stored quietWindow (List.mem_singleton_self _) quietWindow_accepted
    ⟨message, sampleClock, List.mem_concat_self, false, hrecord⟩
  exact ⟨events, message, sampleClock, _, row, hsecond, hshows, hrow⟩

end IiotMonitoring
