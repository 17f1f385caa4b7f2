import IiotMonitoring.Proof.PipelineDelivery
import IiotMonitoring.Proof.PipelineGateway

/-!
# Every window once

Every record anywhere between the aggregation and the tables is one of a window that was filled, and no
two windows have a number or an identifier in common, also across power losses. So a delivery finds its
own row or none, and the rows of the device are the windows that the server takes and that were delivered
to it, each once.
-/

namespace IiotMonitoring

variable {K : Type} {parts : PipelineParts K} {siteId deviceId : String}

/-! ### Sequence numbers -/

/-- The counter behind the sequence numbers. Without power only the stored mark is left of it. -/
def Gateway.counter : Gateway K → SequenceCounter
  | off flash => ⟨0, 0, flash.sequenceHi⟩
  | running gateway => gateway.tasks.sequence

theorem reserved_boot (sequenceHi : Option UInt64) : (SequenceCounter.mk 0 0 sequenceHi).Reserved :=
  fun h => absurd rfl h

theorem bound_boot (sequenceHi : Option UInt64) :
    (SequenceCounter.mk 0 0 sequenceHi).bound = (sequenceHi.getD 0).toNat + 1 := if_pos rfl

/-- The stored mark is not behind the numbers given out. -/
theorem bound_le_mark {counter : SequenceCounter} (h : counter.Reserved) :
    counter.bound ≤ (counter.sequenceHi.getD 0).toNat + 1 := by
  unfold SequenceCounter.bound
  split_ifs with hzero
  · exact le_refl _
  · obtain ⟨hmark, hle⟩ := h hzero
    rw [hmark]
    exact hle

theorem mark_le_reserve {counter : SequenceCounter}
    (hroom : (counter.sequenceHi.getD 0).toNat + sequenceReservation.toNat < 2 ^ 63) :
    (counter.sequenceHi.getD 0).toNat ≤ (counter.reserve.sequenceHi.getD 0).toNat ∧
      (counter.reserve.sequenceHi.getD 0).toNat ≤
        (counter.sequenceHi.getD 0).toNat + sequenceReservation.toNat := by
  unfold SequenceCounter.reserve
  split_ifs
  · dsimp only
    rw [Option.getD_some, UInt64.toNat_add, Nat.mod_eq_of_lt (by omega)]
    omega
  · exact ⟨le_refl _, Nat.le_add_right ..⟩

/-- A number that is given out is in the block. -/
theorem number_lt {counter : SequenceCounter} (h : counter.Reserved)
    (hroom : (counter.sequenceHi.getD 0).toNat + sequenceReservation.toNat < 2 ^ 63) :
    (gatewayNextSequence counter).1.toNat < 2 ^ 63 := by
  obtain ⟨-, hmark, hle, -⟩ := reserve_spec h (by omega)
  have hend := (mark_le_reserve hroom).2
  rw [hmark, Option.getD_some] at hend
  exact lt_of_le_of_lt (hle.trans hend) hroom

/-! ### Windows -/

/-- The windows were filled in the order of their numbers, under identifiers of their own. -/
structure WindowsApart (parts : PipelineParts K) (filled : List (FilledWindow K)) : Prop where
  lengths : ∀ window ∈ filled, window.samples.length = parts.config.expectedSamples.toNat
  numbers : ∀ window ∈ filled, window.reads.sequence.toNat < 2 ^ 63
  ordered : filled.Pairwise fun earlier later => earlier.reads.sequence < later.reads.sequence
  identifiers : (filled.map fun window => uuid4 window.reads.random).Nodup

namespace WindowsApart

variable {filled : List (FilledWindow K)}

theorem of_identifier (h : WindowsApart parts filled) {window window' : FilledWindow K}
    (hwindow : window ∈ filled) (hwindow' : window' ∈ filled)
    (hsame : uuid4 window.reads.random = uuid4 window'.reads.random) : window = window' :=
  List.inj_on_of_nodup_map h.identifiers hwindow hwindow' hsame

theorem of_number (h : WindowsApart parts filled) {window window' : FilledWindow K}
    (hwindow : window ∈ filled) (hwindow' : window' ∈ filled)
    (hsame : window.reads.sequence.toNat = window'.reads.sequence.toNat) : window = window' := by
  have hnumbers : (filled.map fun window => window.reads.sequence.toNat).Nodup := by
    rw [List.Nodup, List.pairwise_map]
    exact h.ordered.imp fun hless => Nat.ne_of_lt (UInt64.lt_iff_toNat_lt.mp hless)
  exact List.inj_on_of_nodup_map hnumbers hwindow hwindow' hsame

theorem concat (h : WindowsApart parts filled) {window : FilledWindow K}
    (hlength : window.samples.length = parts.config.expectedSamples.toNat)
    (hnumber : window.reads.sequence.toNat < 2 ^ 63)
    (hlast : ∀ made ∈ filled, made.reads.sequence < window.reads.sequence)
    (hnew : ∀ made ∈ filled, uuid4 made.reads.random ≠ uuid4 window.reads.random) :
    WindowsApart parts (filled ++ [window]) := by
  constructor
  · simp only [List.forall_mem_append, List.forall_mem_singleton]
    exact ⟨h.lengths, hlength⟩
  · simp only [List.forall_mem_append, List.forall_mem_singleton]
    exact ⟨h.numbers, hnumber⟩
  · rw [List.pairwise_append]
    refine ⟨h.ordered, List.pairwise_singleton .., fun made hmade last hlast' => ?_⟩
    rw [List.mem_singleton.mp hlast']
    exact hlast made hmade
  · rw [List.map_append, List.map_singleton, ← List.concat_eq_append]
    apply h.identifiers.concat
    intro hmem
    obtain ⟨made, hmade, hsame⟩ := List.mem_map.mp hmem
    exact hnew made hmade hsame

end WindowsApart

variable [Field K] [LinearOrder K]

/-- The record is one of these windows'. -/
def MadeOf (parts : PipelineParts K) (filled : List (FilledWindow K)) (telemetry : IiotTelemetry) : Prop :=
  ∃ window ∈ filled, ∃ replayed, telemetry = { window.telemetry parts with replayed := replayed }

theorem MadeOf.concat {filled : List (FilledWindow K)} {telemetry : IiotTelemetry}
    (h : MadeOf parts filled telemetry) (window : FilledWindow K) :
    MadeOf parts (filled ++ [window]) telemetry := by
  obtain ⟨made, hmade, hrecord⟩ := h
  exact ⟨made, List.mem_append_left _ hmade, hrecord⟩

theorem MadeOf.replayed {filled : List (FilledWindow K)} {telemetry : IiotTelemetry}
    (h : MadeOf parts filled telemetry) : MadeOf parts filled { telemetry with replayed := true } := by
  obtain ⟨made, hmade, replayed, rfl⟩ := h
  exact ⟨made, hmade, true, rfl⟩

/-- A message of the window was delivered. -/
def FilledWindow.DeliveredIn (parts : PipelineParts K) (events : List (PipelineEvent K))
    (window : FilledWindow K) : Prop :=
  ∃ message clock, .deliver message clock ∈ events ∧
    ∃ replayed, message.record = { window.telemetry parts with replayed := replayed }

/-- Records of two windows are equal only for the same identifier. -/
theorem identifier_of_record {window window' : FilledWindow K} {replayed replayed' : Bool}
    (h : ({ window.telemetry parts with replayed := replayed } : IiotTelemetry) =
      { window'.telemetry parts with replayed := replayed' }) :
    uuid4 window.reads.random = uuid4 window'.reads.random := by
  have hmessage := congrArg IiotTelemetry.messageId h
  change (window.telemetry parts).messageId = (window'.telemetry parts).messageId at hmessage
  have htext : ∀ made : FilledWindow K,
      cText (made.telemetry parts).messageId = plainBytes (codes (uuid4 made.reads.random)) :=
    fun made => cText_messageId ..
  have hdecoded := congrArg decodeUtf8 (congrArg cText hmessage)
  rw [htext, htext, decodeUtf8_ascii (verbatim_uuid4 _).1.ascii,
    decodeUtf8_ascii (verbatim_uuid4 _).1.ascii] at hdecoded
  exact codes_injective (Option.some.inj hdecoded)

/-! ### The gateway -/

/-- Every record that the gateway holds is one of the windows'. -/
def Gateway.Holds (parts : PipelineParts K) (filled : List (FilledWindow K)) : Gateway K → Prop
  | off flash => flash.nvs.Keeps parts.config.offlineCapacity.toNat (MadeOf parts filled)
  | running gateway =>
      gateway.tasks.Holds parts.config.offlineCapacity.toNat (MadeOf parts filled) ∧
        gateway.aggregation = .filling parts.config.expectedSamples gateway.samples ∧
        gateway.samples.length < parts.config.expectedSamples.toNat

structure Gateway.Sound (parts : PipelineParts K) (filled : List (FilledWindow K)) (gateway : Gateway K) :
    Prop where
  reserved : gateway.counter.Reserved
  bound : ∀ window ∈ filled, window.reads.sequence.toNat < gateway.counter.bound
  holds : gateway.Holds parts filled

theorem Gateway.Sound.off {filled : List (FilledWindow K)} {gateway : Gateway K}
    (h : gateway.Sound parts filled) {nvs : Nvs} {sequenceHi : Option UInt64}
    (hmark : gateway.counter.bound ≤ (sequenceHi.getD 0).toNat + 1)
    (hkeeps : nvs.Keeps parts.config.offlineCapacity.toNat (MadeOf parts filled)) :
    (Gateway.off ⟨nvs, sequenceHi⟩).Sound parts filled where
  reserved := reserved_boot sequenceHi
  bound window hwindow := by
    apply lt_of_lt_of_le (h.bound window hwindow)
    rw [Gateway.counter, bound_boot]
    exact hmark
  holds := hkeeps

/-! ### The tables -/

/-- The rows of the device are the windows that are taken and were delivered. -/
structure ServerTables.Sound (parts : PipelineParts K) (siteId deviceId : String)
    (filled : List (FilledWindow K)) (events : List (PipelineEvent K)) (tables : ServerTables) : Prop where
  keys : UniqueKeys tables.db.telemetry
  site : tables.db.AtSite siteId deviceId
  rows : ∀ row ∈ tables.db.telemetry,
    (row.deviceId = deviceId ∨ ∃ window ∈ filled, row.messageId = uuid4 window.reads.random) →
      ∃ window ∈ filled, window.Shows parts row ∧ window.Accepted parts ∧ window.DeliveredIn parts events
  stored : ∀ window ∈ filled, window.Accepted parts → window.DeliveredIn parts events →
    ∃ row ∈ tables.db.telemetry, window.Shows parts row

theorem FilledWindow.DeliveredIn.concat {window : FilledWindow K} {events : List (PipelineEvent K)}
    (h : window.DeliveredIn parts events) (event : PipelineEvent K) :
    window.DeliveredIn parts (events ++ [event]) := by
  obtain ⟨message, clock, hevent, hrecord⟩ := h
  exact ⟨message, clock, List.mem_append_left _ hevent, hrecord⟩

theorem deliveredIn_of_concat {window : FilledWindow K} {events : List (PipelineEvent K)}
    {event : PipelineEvent K} (h : window.DeliveredIn parts (events ++ [event]))
    (hevent : ∀ message clock, event ≠ .deliver message clock) : window.DeliveredIn parts events := by
  obtain ⟨message, clock, hmem, hrecord⟩ := h
  rcases List.mem_append.mp hmem with hold | hnew
  · exact ⟨message, clock, hold, hrecord⟩
  · exact absurd (List.mem_singleton.mp hnew).symm (hevent message clock)

namespace ServerTables.Sound

variable {filled : List (FilledWindow K)} {events : List (PipelineEvent K)} {tables : ServerTables}

/-- A step that delivers nothing and adds only rows of other devices. -/
theorem concat (h : tables.Sound parts siteId deviceId filled events) {event : PipelineEvent K}
    (hevent : ∀ message clock, event ≠ .deliver message clock) {after : ServerTables}
    {added : List Telemetry} (hrows : after.db.telemetry = tables.db.telemetry ++ added)
    (hadded : ∀ row ∈ added, row.deviceId ≠ deviceId ∧
      ∀ window ∈ filled, row.messageId ≠ uuid4 window.reads.random)
    (hkeys : UniqueKeys after.db.telemetry) (hsite : after.db.AtSite siteId deviceId) :
    after.Sound parts siteId deviceId filled (events ++ [event]) where
  keys := hkeys
  site := hsite
  rows row hrow hours := by
    rw [hrows] at hrow
    rcases List.mem_append.mp hrow with hold | hnew
    · obtain ⟨window, hwindow, hshows, haccepted, hdelivered⟩ := h.rows row hold hours
      exact ⟨window, hwindow, hshows, haccepted, hdelivered.concat event⟩
    · obtain ⟨hdevice, hmessage⟩ := hadded row hnew
      rcases hours with hours | ⟨window, hwindow, hours⟩
      · exact absurd hours hdevice
      · exact absurd hours (hmessage window hwindow)
  stored window hwindow haccepted hdelivered := by
    obtain ⟨row, hrow, hshows⟩ :=
      h.stored window hwindow haccepted (deliveredIn_of_concat hdelivered hevent)
    refine ⟨row, ?_, hshows⟩
    rw [hrows]
    exact List.mem_append_left _ hrow

/-- A step that leaves the tables. -/
theorem same (h : tables.Sound parts siteId deviceId filled events) {event : PipelineEvent K}
    (hevent : ∀ message clock, event ≠ .deliver message clock) :
    tables.Sound parts siteId deviceId filled (events ++ [event]) := by
  apply h.concat hevent (List.append_nil _).symm
  · exact fun row hrow => absurd hrow List.not_mem_nil
  · exact h.keys
  · exact h.site

/-- A window with a new identifier was not delivered yet. -/
theorem fill (h : tables.Sound parts siteId deviceId filled events) {window : FilledWindow K}
    (hnew : ∀ row ∈ tables.db.telemetry, row.messageId ≠ uuid4 window.reads.random)
    (hdelivered : ¬ window.DeliveredIn parts events) :
    tables.Sound parts siteId deviceId (filled ++ [window]) events where
  keys := h.keys
  site := h.site
  rows row hrow hours := by
    have hbefore : row.deviceId = deviceId ∨
        ∃ made ∈ filled, row.messageId = uuid4 made.reads.random := by
      rcases hours with hours | ⟨made, hmade, hours⟩
      · exact .inl hours
      · rcases List.mem_append.mp hmade with hold | hlast
        · exact .inr ⟨made, hold, hours⟩
        · rw [List.mem_singleton.mp hlast] at hours
          exact absurd hours (hnew row hrow)
    obtain ⟨made, hmade, hshows⟩ := h.rows row hrow hbefore
    exact ⟨made, List.mem_append_left _ hmade, hshows⟩
  stored made hmade haccepted hmadeDelivered := by
    rcases List.mem_append.mp hmade with hold | hlast
    · exact h.stored made hold haccepted hmadeDelivered
    · rw [List.mem_singleton.mp hlast] at hmadeDelivered
      exact absurd hmadeDelivered hdelivered

/-- **A delivery.** The window is stored afterwards, if the server takes it, and nothing else is. -/
theorem deliver (h : tables.Sound parts siteId deviceId filled events)
    (hnames : parts.config.Names siteId deviceId) (hapart : WindowsApart parts filled)
    {window : FilledWindow K} (hwindow : window ∈ filled) {message : BrokerMessage} {replayed : Bool}
    (hrecord : message.record = { window.telemetry parts with replayed := replayed })
    {clock : MessageClock} {after : ServerTables}
    (hhandled : window.Handled parts siteId deviceId clock tables after.db) :
    after.Sound parts siteId deviceId filled (events ++ [.deliver message clock]) := by
  have hnow : window.DeliveredIn parts (events ++ [.deliver message clock]) :=
    ⟨message, clock, List.mem_append_right _ (List.mem_singleton_self _), replayed, hrecord⟩
  have hbefore : ∀ made ∈ filled, made.DeliveredIn parts (events ++ [.deliver message clock]) →
      made = window ∨ made.DeliveredIn parts events := by
    rintro made hmade ⟨message', clock', hmem, replayed', hrecord'⟩
    rcases List.mem_append.mp hmem with hold | hlast
    · exact .inr ⟨message', clock', hold, replayed', hrecord'⟩
    · obtain ⟨rfl, rfl⟩ := PipelineEvent.deliver.inj (List.mem_singleton.mp hlast)
      exact .inl (hapart.of_identifier hmade hwindow
        (identifier_of_record (hrecord'.symm.trans hrecord)))
  have hunchanged : after.db = tables.db →
      (window.Accepted parts → ∃ row ∈ tables.db.telemetry, window.Shows parts row) →
      after.Sound parts siteId deviceId filled (events ++ [.deliver message clock]) := by
    intro hsame hstored
    constructor
    · rw [hsame]
      exact h.keys
    · rw [hsame]
      exact h.site
    · rw [hsame]
      intro row hrow hours
      obtain ⟨made, hmade, hshows, haccepted, hdelivered⟩ := h.rows row hrow hours
      exact ⟨made, hmade, hshows, haccepted, hdelivered.concat _⟩
    · rw [hsame]
      intro made hmade haccepted hdelivered
      rcases hbefore made hmade hdelivered with rfl | hold
      · exact hstored haccepted
      · exact h.stored made hmade haccepted hold
  by_cases haccepted : window.Accepted parts
  · obtain ⟨ingest, hshows, hsite, hsize, hafter⟩ := hhandled.accepted haccepted
    obtain ⟨hmessage, hdevice, hsequence⟩ := shows_names hnames hshows
    cases hfound : tables.db.findMessage ingest.envelope.messageId with
    | some row =>
        apply hunchanged
        · rw [hafter, deliver_stored (by rw [hfound]; rfl)]
        · intro _
          have hrow := List.mem_of_find?_eq_some hfound
          have hidentifier : row.messageId = uuid4 window.reads.random := by
            rw [← hmessage]
            change row.messageId = ingest.envelope.messageId
            unfold Database.findMessage at hfound
            simpa using List.find?_some hfound
          obtain ⟨made, hmade, hmadeShows, -⟩ := h.rows row hrow (.inr ⟨window, hwindow, hidentifier⟩)
          obtain rfl := hapart.of_identifier hmade hwindow
            ((shows_names hnames hmadeShows).1.symm.trans hidentifier)
          exact ⟨row, hrow, hmadeShows⟩
    | none =>
        have howner : tables.db.findSequence ingest.envelope.deviceId ingest.envelope.sequence = none := by
          rw [findSequence_none_iff]
          intro hmem
          obtain ⟨row, hrow, hkey⟩ := List.mem_map.mp hmem
          obtain ⟨hrowDevice, hrowSequence⟩ := Prod.mk.inj hkey
          obtain ⟨made, hmade, hmadeShows, -⟩ := h.rows row hrow (.inl (hrowDevice.trans hdevice))
          obtain ⟨hmadeMessage, -, hmadeSequence⟩ := shows_names hnames hmadeShows
          obtain rfl := hapart.of_number hmade hwindow
            (hmadeSequence.symm.trans (hrowSequence.trans hsequence))
          apply findMessage_none_iff.mp hfound
          exact List.mem_map.mpr ⟨row, hrow, hmadeMessage.trans hmessage.symm⟩
        have hatSite : tables.db.AtSite ingest.envelope.siteId ingest.envelope.deviceId := by
          rw [hsite, show ingest.envelope.deviceId = deviceId from hdevice]
          exact h.site
        have hrows := deliver_new hfound howner hatSite hsize
        constructor
        · rw [hafter]
          exact h.keys.deliver
        · rw [hafter]
          exact atSite_deliver h.site fun _ => hsite
        · rw [hafter, hrows]
          intro row hrow hours
          rcases List.mem_append.mp hrow with hold | hnew
          · obtain ⟨made, hmade, hmadeShows, hmadeAccepted, hdelivered⟩ := h.rows row hold hours
            exact ⟨made, hmade, hmadeShows, hmadeAccepted, hdelivered.concat _⟩
          · rw [List.mem_singleton.mp hnew]
            exact ⟨window, hwindow, hshows, haccepted, hnow⟩
        · rw [hafter, hrows]
          intro made hmade hmadeAccepted hdelivered
          rcases hbefore made hmade hdelivered with rfl | hold
          · exact ⟨_, List.mem_append_right _ (List.mem_singleton_self _), hshows⟩
          · obtain ⟨row, hrow, hmadeShows⟩ := h.stored made hmade hmadeAccepted hold
            exact ⟨row, List.mem_append_left _ hrow, hmadeShows⟩
  · exact hunchanged (hhandled.refused haccepted) fun h => absurd h haccepted

end ServerTables.Sound

end IiotMonitoring
