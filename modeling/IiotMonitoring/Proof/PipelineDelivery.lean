import IiotMonitoring.Proof.HandledTelemetry
import IiotMonitoring.Proof.HealthShown
import IiotMonitoring.Proof.TelemetryDelivery

/-!
# Delivering the record of a window

A message of a window is decoded as the window's record, or not at all. Which of the two is a matter of
the window, so that it is the same for every message and every delivery of it.
-/

namespace IiotMonitoring

/-! ### Windows and rows -/

section Windows

variable {K : Type} [Field K] [LinearOrder K] (parts : PipelineParts K)

/-- The record of a window. -/
def FilledWindow.telemetry (window : FilledWindow K) : IiotTelemetry :=
  parts.record (windowResult Aggregation.lowestCurrent parts.sqrtf parts.config.expectedSamples.toNat
    window.samples) window.reads

/-- The server takes the window's record. -/
structure FilledWindow.Accepted (window : FilledWindow K) : Prop where
  rms : RmsAccepted parts.sqrtf parts.convert window.samples
  clock : ClockReadable window.reads.time
  uptime : window.reads.uptimeMs.toNat < 2 ^ 63

/-- The row says what the window's record does. -/
def FilledWindow.Shows (window : FilledWindow K) (row : Telemetry) : Prop :=
  ∃ (clock : MessageClock) (envelope : TelemetryEnvelope), row = (clock.ingest envelope).telemetryRow ∧
    SameRecord parts.config { window.telemetry parts with replayed := row.replayed } envelope

/-- What the parts take from elsewhere: pydantic, the limits of `json.loads`, the functions of
`math.h`, the rounding to a float, the printing of one, and the texts of the database. -/
structure PipelineParts.Proper : Prop where
  valid : iiotConfigValidate parts.config = true
  root : ExactRoot parts.sqrtf
  converts : ConvertsToFloat parts.convert
  documents : parts.pydantic.python.ReadsDocuments
  string : ∀ text : String, parts.pydantic.python.string (.string (codes text)) = some text
  nesting : 3 ≤ parts.limits.nesting
  digits : 20 ≤ parts.limits.digits
  json : ∀ value, (parts.format.json value).print.length ≤ 32
  stores : ∀ text, Verbatim (codes text) → parts.storesText text = true

end Windows

/-! ### Events -/

section Event

variable {scalars : PydanticScalars} {simulation : Bool} {siteId deviceId : String}
  {reads : AggregationReads} {telemetry : IiotTelemetry} {envelope : TelemetryEnvelope}

/-- The event of a record fits a notification. -/
theorem length_telemetryEvent_le {format : FloatFormat}
    (hjson : ∀ value, (format.json value).print.length ≤ 32)
    (hstring : ∀ text : String, scalars.string (.string (codes text)) = some text)
    (hdevice : identifierPattern (codes deviceId) = true)
    (h : ReadsRecord scalars (aggregatedTexts simulation siteId deviceId reads) telemetry envelope)
    (clock : MessageClock) : ((clock.ingest envelope).liveEvent format).print.length ≤ 7000 := by
  have hpattern := (identifierPattern_iff _).mp hdevice
  have hlength := hpattern.length
  obtain ⟨hmessage, hmessageLength⟩ := verbatim_uuid4 reads.random
  have hsequence := length_counter telemetry.sequence
  have hfaults := length_faults telemetry.faultFlags
  have hfaultsText := print_faults telemetry.faultFlags
  have hflags : envelope.faultFlags = setFaults telemetry.faultFlags := by
    have hread := h.faultFlags
    rw [textsField_setFaults hstring] at hread
    exact (Option.some.inj hread).symm
  have hquality : (printString (codes envelope.quality.text)).length ≤ 10 := by
    cases envelope.quality <;> decide
  have hmeasurement : ∀ value : Option (FloatNumber ℚ),
      (value.elim Json.null format.json).print.length ≤ 32 := by
    intro value
    cases value with
    | none =>
        have hnull : Json.null.print.length ≤ 32 := by decide
        exact hnull
    | some value => exact hjson value
  have hkeys : ∀ key ∈ ["type", "telemetry", "device_id", "message_id", "sequence", "quality",
      "measurements", "temperature_c", "vibration_rms_mps2", "vibration_peak_mps2",
      "vibration_crest_factor", "current_a", "fault_flags"],
      (printString (codes key)).length ≤ 24 := by decide
  have htemperature := hmeasurement envelope.measurements.temperatureC
  have hrms := hmeasurement envelope.measurements.vibrationRmsMps2
  have hpeak := hmeasurement envelope.measurements.vibrationPeakMps2
  have hcrest := hmeasurement envelope.measurements.vibrationCrestFactor
  have hcurrent := hmeasurement envelope.measurements.currentA
  rw [Json.print] at hfaultsText
  simp only [List.forall_mem_cons] at hkeys
  unfold Ingest.liveEvent MessageClock.ingest
  dsimp only
  rw [h.deviceId, h.messageId, h.sequence, hflags]
  dsimp only [aggregatedTexts]
  generalize envelope.measurements.temperatureC.elim Json.null format.json = temperature at *
  generalize envelope.measurements.vibrationRmsMps2.elim Json.null format.json = rms at *
  generalize envelope.measurements.vibrationPeakMps2.elim Json.null format.json = peak at *
  generalize envelope.measurements.vibrationCrestFactor.elim Json.null format.json = crest at *
  generalize envelope.measurements.currentA.elim Json.null format.json = current at *
  simp only [Json.print, printMembers, printMoreMembers, List.length_append, List.length_cons,
    List.length_nil, print_ofNat, hpattern.verbatim.length_print, hmessage.length_print, hfaultsText]
  linarith

end Event

/-! ### Messages of a window -/

section Messages

variable {K : Type} [Field K] [LinearOrder K] {parts : PipelineParts K} {siteId deviceId : String}
  {window : FilledWindow K}

/-- The names in an envelope that shows a window. -/
theorem sameRecord_names (hnames : parts.config.Names siteId deviceId) {replayed : Bool}
    {envelope : TelemetryEnvelope}
    (h : SameRecord parts.config { window.telemetry parts with replayed := replayed } envelope) :
    envelope.messageId = uuid4 window.reads.random ∧ envelope.siteId = siteId ∧
      envelope.deviceId = deviceId ∧ envelope.sequence = window.reads.sequence.toNat := by
  have hmessage := h.message
  have htext : cText (window.telemetry parts).messageId = plainBytes (codes (uuid4 window.reads.random)) :=
    cText_messageId ..
  rw [htext, decodeUtf8_ascii (verbatim_uuid4 window.reads.random).1.ascii] at hmessage
  refine ⟨codes_injective (Option.some.inj hmessage).symm, ?_, ?_, h.sequence⟩
  · apply codes_injective
    exact Option.some.inj (h.site.symm.trans hnames.site)
  · apply codes_injective
    exact Option.some.inj (h.device.symm.trans hnames.device)

theorem shows_names (hnames : parts.config.Names siteId deviceId) {row : Telemetry}
    (h : window.Shows parts row) :
    row.messageId = uuid4 window.reads.random ∧ row.deviceId = deviceId ∧
      row.sequence = window.reads.sequence.toNat := by
  obtain ⟨clock, envelope, rfl, hsame⟩ := h
  obtain ⟨hmessage, -, hdevice, hsequence⟩ := sameRecord_names hnames hsame
  exact ⟨hmessage, hdevice, hsequence⟩

variable [IsStrictOrderedRing K]

/-- What the ingestor does with a message of a window. -/
structure FilledWindow.Handled (parts : PipelineParts K) (siteId deviceId : String)
    (window : FilledWindow K) (clock : MessageClock) (tables : ServerTables) (after : Database) : Prop where
  accepted : window.Accepted parts → ∃ ingest : Ingest, window.Shows parts ingest.telemetryRow ∧
    ingest.envelope.siteId = siteId ∧ ¬ ingest.TooLarge parts.format ∧
    after = deliver parts.format tables.db ingest
  refused : ¬ window.Accepted parts → after = tables.db

/-- Every message of a window is taken, or every one is refused. -/
theorem handle_window (hparts : parts.Proper) (hnames : parts.config.Names siteId deviceId)
    (hlength : window.samples.length = parts.config.expectedSamples.toNat)
    (hsequence : window.reads.sequence.toNat < 2 ^ 63) {message : BrokerMessage} {replayed : Bool}
    (hrecord : message.record = { window.telemetry parts with replayed := replayed })
    (hwritten : message.Written parts.config) {topic : Text}
    (htopic : decodeUtf8 message.topic = some topic) (clock : MessageClock) (tables : ServerTables) :
    window.Handled parts siteId deviceId clock tables
      (parts.handle clock tables topic message.payload).2.db := by
  obtain ⟨payload, array, hpublished⟩ := hwritten
  obtain ⟨topicBytes, topicText, document, hmade, htopicText, hparsed, hdecodes, hread, hrefused⟩ :=
    @aggregated_read parts.limits parts.pydantic parts.config K _ _ parts.sqrtf parts.convert _
      hparts.documents hparts.nesting hparts.digits hparts.root hparts.converts hparts.valid siteId deviceId
      hnames window.samples hlength parts.simulation window.reads message.record replayed hrecord payload
      array
  obtain ⟨htopicBytes, hdocument⟩ := Prod.ext_iff.mp (Option.some.inj (hpublished.symm.trans hmade))
  dsimp only at htopicBytes hdocument
  rw [htopicBytes, htopicText] at htopic
  obtain rfl := Option.some.inj htopic
  rw [hdocument]
  have hfits : ∀ envelope, SameRecord parts.config message.record envelope →
      ((clock.ingest envelope).telemetryRow.fits parts.storesText = true ↔
        window.reads.uptimeMs.toNat < 2 ^ 63) := by
    intro envelope hsame
    have hfirmware : parts.storesText envelope.firmwareVersion = true := by
      have hverbatim := (verbatim_firmwareVersion parts.simulation).1
      have htext := hsame.firmware
      rw [hrecord] at htext
      have hcText : cText (window.telemetry parts).firmwareVersion =
          plainBytes (codes (firmwareVersion parts.simulation)) := cText_firmwareVersion ..
      rw [hcText, decodeUtf8_ascii hverbatim.ascii] at htext
      rw [← codes_injective (Option.some.inj htext)]
      exact hparts.stores _ hverbatim
    have hsequence' : envelope.sequence < 2 ^ 63 := by
      rw [hsame.sequence, hrecord]
      exact hsequence
    rw [telemetryRow_fits, hsame.uptimeMs, hrecord]
    exact ⟨fun h => h.2.1, fun h => ⟨hsequence', h, hfirmware⟩⟩
  constructor
  · intro haccepted
    obtain ⟨envelope, hdecoded, hreads⟩ := hread haccepted.rms haccepted.clock
    have hsame := sameRecord_of_reads hnames hdecodes hreads
    refine ⟨clock.ingest envelope, ⟨clock, envelope, rfl, ?_⟩, hreads.siteId, ?_, ?_⟩
    · have hreplayed : (clock.ingest envelope).telemetryRow.replayed = replayed := by
        change envelope.replayed = replayed
        rw [hreads.replayed, hrecord]
      rw [hreplayed, ← hrecord]
      exact hsame
    · exact Nat.not_lt.mpr
        (length_telemetryEvent_le hparts.json hparts.string hnames.devicePattern hreads clock)
    · rw [PipelineParts.handle, handle_decoded hdecoded,
        persist_fits ((hfits envelope hsame).mpr haccepted.uptime)]
  · intro hnot
    by_cases hdecodable : RmsAccepted parts.sqrtf parts.convert window.samples ∧
        ClockReadable window.reads.time
    · obtain ⟨envelope, hdecoded, hreads⟩ := hread hdecodable.1 hdecodable.2
      have hsame := sameRecord_of_reads hnames hdecodes hreads
      have hunfit : (clock.ingest envelope).telemetryRow.fits parts.storesText = false := by
        rw [Bool.eq_false_iff, ne_eq, hfits envelope hsame]
        exact fun huptime => hnot ⟨hdecodable.1, hdecodable.2, huptime⟩
      rw [PipelineParts.handle, handle_decoded hdecoded, persist_unfit hunfit]
    · rw [PipelineParts.handle, handle_undecoded hparsed rfl]
      exact fun envelope hdecoded => hdecodable (hrefused envelope hdecoded)

end Messages

end IiotMonitoring
