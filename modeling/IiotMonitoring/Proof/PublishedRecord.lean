import IiotMonitoring.Proof.Aggregation
import IiotMonitoring.Proof.NetworkStrings
import IiotMonitoring.Proof.TelemetryAccepted

/-!
# Publishing an aggregated record

The strings of the record that `aggregation_task` builds, and the document of it that is published. The
buffer of the document is large enough, and the server reads the document back.
-/

namespace IiotMonitoring

/-! ### Texts -/

theorem Verbatim.cleanBytes {text : Text} (h : Verbatim text) : CleanBytes (plainBytes text) := by
  intro byte hbyte
  obtain ⟨code, hcode, rfl⟩ := List.mem_map.mp hbyte
  have hrange := h code hcode
  have hvalue : (UInt8.ofNat code).toNat = code := by
    rw [UInt8.toNat_ofNat']
    omega
  rw [UInt8.le_iff_toNat_le, ne_eq, ne_eq, ← UInt8.toNat_inj, ← UInt8.toNat_inj, hvalue]
  simp only [UInt8.reduceToNat]
  omega

theorem Verbatim.ascii {text : Text} (h : Verbatim text) : ∀ code ∈ text, code < 128 := fun code hcode =>
  Nat.lt_of_le_of_lt (h code hcode).2.1 (by decide)

/-- The clock's text has digits and the separators, in any year. -/
theorem verbatim_gatewayUtcNow {time : Int} {size : Nat} {now : String}
    (h : gatewayUtcNow time size = some now) : Verbatim (codes now) := by
  obtain ⟨utc, -, htext⟩ := gatewayUtcNow_eq_some h
  have hdigits : ∀ width value : Nat, ∀ character ∈ fixedDigits width value, 45 ≤ character.toNat ∧
      character.toNat ≤ 126 ∧ character.toNat ≠ 92 := by
    intro width value
    apply (fitsShape_fixedDigits width value).range
    intro place hplace
    rw [List.eq_of_mem_replicate hplace]
    decide
  have hyear : ∀ character ∈ Nat.toDigits 10 utc.date.year, 45 ≤ character.toNat ∧
      character.toNat ≤ 126 ∧ character.toNat ≠ 92 := by
    intro character hcharacter
    have hrange := isDigit_range (Nat.isDigit_of_mem_toDigits (by decide) (le_refl 10) hcharacter)
    omega
  apply verbatim_codes
  rw [htext, strftimeUtc, timeText]
  simp only [List.forall_mem_append, List.forall_mem_cons]
  exact ⟨hyear, ⟨⟨by decide, hdigits _ _⟩, ⟨⟨by decide, hdigits _ _⟩, ⟨⟨by decide, hdigits _ _⟩,
    ⟨by decide, hdigits _ _⟩, by decide, hdigits _ _⟩⟩⟩, by decide, by simp⟩

theorem length_gatewayUtcNow {time : Int} {size : Nat} {now : String}
    (h : gatewayUtcNow time size = some now) : now.toList.length < size := by
  unfold gatewayUtcNow at h
  split at h
  · cases h
  cases hutc : gmtime time.toNat with
  | none =>
      rw [hutc] at h
      cases h
  | some utc =>
      rw [hutc] at h
      dsimp only at h
      rw [Option.ite_none_right_eq_some, Option.some_inj] at h
      obtain ⟨hfits, rfl⟩ := h
      rwa [String.toList_ofList]

theorem verbatim_firmwareVersion (simulation : Bool) :
    Verbatim (codes (firmwareVersion simulation)) ∧ (firmwareVersion simulation).length ≤ 48 := by
  cases simulation with
  | true => exact ⟨by decide, by decide⟩
  | false => exact ⟨by decide, by decide⟩

/-- An identifier that the gateway accepts is one of the server. -/
theorem exists_names {config : IiotConfig} (h : iiotConfigValidate config = true) :
    ∃ siteId deviceId, config.Names siteId deviceId := by
  obtain ⟨-, -, ⟨hsite, hdevice⟩, -⟩ := (iiotConfigValidate_iff config).mp h
  have hname : ∀ array : Vector UInt8 64, identifierIsValid array = true →
      ∃ name, decodeUtf8 (cText array) = some (codes name) ∧ identifierPattern (codes name) = true := by
    intro array harray
    rw [← identifierIsValid_cString] at harray
    obtain ⟨text, htext, hpattern⟩ := (identifierIsValid_iff _).mp harray
    have hunicode : isUnicode text = true := by
      apply List.all_eq_true.mpr
      intro code hcode
      exact decide_eq_true (.inl (lt_of_lt_of_le (((identifierPattern_iff text).mp hpattern).ascii code hcode)
        (by decide)))
    have hcodes := textString_iff.mp (if_pos hunicode)
    exact ⟨_, hcodes ▸ htext, hcodes ▸ hpattern⟩
  obtain ⟨siteId, hsiteText, hsitePattern⟩ := hname _ hsite
  obtain ⟨deviceId, hdeviceText, hdevicePattern⟩ := hname _ hdevice
  exact ⟨siteId, deviceId, hsiteText, hdeviceText, hsitePattern, hdevicePattern⟩

/-! ### The record -/

/-- The texts of the record. -/
def aggregatedTexts (simulation : Bool) (siteId deviceId : String) (reads : AggregationReads) :
    RecordTexts where
  messageId := uuid4 reads.random
  siteId := siteId
  deviceId := deviceId
  deviceTime := gatewayUtcNow reads.time 32
  firmwareVersion := firmwareVersion simulation

section Record

variable {config : IiotConfig} {siteId deviceId : String} (simulation : Bool) (reads : AggregationReads)
  (measurements : IiotMeasurements)

theorem cText_messageId :
    cText (aggregatedTelemetry simulation config reads measurements).messageId =
      plainBytes (codes (uuid4 reads.random)) := by
  obtain ⟨hverbatim, hlength⟩ := verbatim_uuid4 reads.random
  change cText (storeText (zeroArray 37) (gatewayMakeUuid reads.random)) = _
  rw [gatewayMakeUuid_eq]
  apply cText_storeText
  · rw [length_plainBytes, hlength]
    decide
  · exact hverbatim.plain.bytes_ne_zero

theorem cText_identifier {array : Vector UInt8 64} (h : identifierIsValid array = true) :
    cText (printText (zeroArray 64) (cText array)) = cText array :=
  cText_printText (Nat.lt_succ_of_le (length_identifier h)) fun _ => ne_zero_of_mem_cText

theorem cText_firmwareVersion :
    cText (aggregatedTelemetry simulation config reads measurements).firmwareVersion =
      plainBytes (codes (firmwareVersion simulation)) := by
  obtain ⟨hverbatim, hlength⟩ := verbatim_firmwareVersion simulation
  change cText (printText (zeroArray 49) (literalText (firmwareVersion simulation))) = _
  rw [hverbatim.literalText_eq]
  apply cText_printText
  · rw [length_plainBytes, codes, List.length_map]
    exact Nat.lt_succ_of_le hlength
  · exact hverbatim.plain.bytes_ne_zero

theorem cText_deviceTime {now : String} (h : gatewayUtcNow reads.time 32 = some now) :
    cText (aggregatedTelemetry simulation config reads measurements).deviceTime = plainBytes (codes now) ∧
      (codes now).length < 32 := by
  have hverbatim := verbatim_gatewayUtcNow h
  have hlength : (codes now).length < 32 := by
    rw [codes, List.length_map]
    exact length_gatewayUtcNow h
  refine ⟨?_, hlength⟩
  change cText (deviceTimeArray (gatewayUtcNow reads.time 32)) = _
  rw [h, deviceTimeArray, hverbatim.literalText_eq]
  apply cText_storeText
  · rwa [length_plainBytes]
  · exact hverbatim.plain.bytes_ne_zero

/-- Every record can be written. -/
theorem aggregated_recorded (hvalid : iiotConfigValidate config = true) :
    (aggregatedTelemetry simulation config reads measurements).Recorded := by
  obtain ⟨-, -, ⟨hsite, hdevice⟩, -⟩ := (iiotConfigValidate_iff config).mp hvalid
  obtain ⟨hmessage, hmessageLength⟩ := verbatim_uuid4 reads.random
  obtain ⟨hfirmware, hfirmwareLength⟩ := verbatim_firmwareVersion simulation
  have hidentifier : ∀ array : Vector UInt8 64, identifierIsValid array = true →
      (cString (printText (zeroArray 64) (cText array))).identifierIsValid = true := by
    intro array harray
    rw [← identifierIsValid_cString] at harray
    unfold CString.identifierIsValid cString at harray ⊢
    dsimp only at harray ⊢
    rwa [cText_identifier (by rwa [← identifierIsValid_cString])]
  constructor
  · exact hidentifier _ hsite
  · exact hidentifier _ hdevice
  · rw [cText_messageId, length_plainBytes]
    exact ⟨hmessageLength, hmessage.cleanBytes⟩
  · intro hclock
    obtain ⟨now, hnow⟩ := Option.isSome_iff_exists.mp hclock
    obtain ⟨htext, hlength⟩ := @cText_deviceTime config simulation reads measurements now hnow
    rw [htext, length_plainBytes]
    exact ⟨hlength, (verbatim_gatewayUtcNow hnow).cleanBytes⟩
  · rw [cText_firmwareVersion, length_plainBytes, codes, List.length_map]
    exact ⟨Nat.lt_succ_of_le hfirmwareLength, hfirmware.cleanBytes⟩

/-- The strings of the record are read as its texts. -/
theorem aggregated_decodes (hvalid : iiotConfigValidate config = true)
    (hnames : config.Names siteId deviceId) :
    (aggregatedTelemetry simulation config reads measurements).strings.DecodesAs utf8Decoding
      (aggregatedTexts simulation siteId deviceId reads).strings
      (aggregatedTelemetry simulation config reads measurements).clockSynchronized := by
  obtain ⟨-, -, ⟨hsite, hdevice⟩, -⟩ := (iiotConfigValidate_iff config).mp hvalid
  have hmessage : decodeUtf8 (cText (aggregatedTelemetry simulation config reads measurements).messageId) =
      some (codes (uuid4 reads.random)) := by
    rw [cText_messageId, decodeUtf8_ascii (verbatim_uuid4 reads.random).1.ascii]
  have hsiteText : decodeUtf8 (cText (aggregatedTelemetry simulation config reads measurements).siteId) =
      some (codes siteId) := by
    rw [aggregatedTelemetry, cText_identifier hsite, hnames.site]
  have hdeviceText :
      decodeUtf8 (cText (aggregatedTelemetry simulation config reads measurements).deviceId) =
        some (codes deviceId) := by
    rw [aggregatedTelemetry, cText_identifier hdevice, hnames.device]
  have htime : ∀ now, gatewayUtcNow reads.time 32 = some now →
      decodeUtf8 (cText (aggregatedTelemetry simulation config reads measurements).deviceTime) =
        some (codes ((gatewayUtcNow reads.time 32).getD "")) := by
    intro now hnow
    obtain ⟨htext, -⟩ := @cText_deviceTime config simulation reads measurements now hnow
    rw [htext, hnow, Option.getD_some, decodeUtf8_ascii (verbatim_gatewayUtcNow hnow).ascii]
  have hfirmware : decodeUtf8 (cText
      (aggregatedTelemetry simulation config reads measurements).firmwareVersion) =
        some (codes (firmwareVersion simulation)) := by
    rw [cText_firmwareVersion, decodeUtf8_ascii (verbatim_firmwareVersion simulation).1.ascii]
  constructor
  · rw [utf8Decoding_decode, IiotTelemetry.strings, hmessage]
    rfl
  · rw [utf8Decoding_decode, IiotTelemetry.strings, hsiteText]
    rfl
  · rw [utf8Decoding_decode, IiotTelemetry.strings, hdeviceText]
    rfl
  · intro hclock
    obtain ⟨now, hnow⟩ := Option.isSome_iff_exists.mp hclock
    rw [utf8Decoding_decode, IiotTelemetry.strings, htime now hnow]
    rfl
  · rw [utf8Decoding_decode, IiotTelemetry.strings, hfirmware]
    rfl

theorem aggregatedTexts_valid (hnames : config.Names siteId deviceId) :
    (aggregatedTexts simulation siteId deviceId reads).Valid where
  messageId := isUuidText_uuid4 reads.random
  siteId := hnames.sitePattern
  deviceId := hnames.devicePattern
  firmwareVersion := (verbatim_firmwareVersion simulation).2

end Record

/-! ### What is published -/

/-- The string in a buffer that holds it with its terminator. -/
theorem Memory.text_eq {memory : Memory} {size : Nat} {text : List UInt8} (hfits : text.length < size)
    (htext : ∀ byte ∈ text, byte ≠ 0) (hheld : (List.range text.length).map memory = text)
    (hend : memory text.length = 0) : memory.text size = text := by
  obtain ⟨more, hsize⟩ : ∃ more, size = text.length + (more + 1) := ⟨size - text.length - 1, by omega⟩
  have hkept : ∀ byte ∈ text, decide (byte ≠ 0) = true := fun byte hbyte => decide_eq_true (htext byte hbyte)
  unfold Memory.text
  rw [hsize, List.range_add, List.map_append, hheld, List.takeWhile_append_of_pos hkept,
    List.range_succ_eq_map, List.map_cons, List.map_cons, Nat.add_zero, hend, List.takeWhile_cons_of_neg,
    List.append_nil]
  simp

theorem document_ne_zero (telemetry : IiotTelemetry) : ∀ byte ∈ telemetry.document, byte ≠ 0 := by
  have hplain : ∀ {text : Text}, Plain text → ∀ byte ∈ plainBytes text, byte ≠ 0 :=
    fun h => h.bytes_ne_zero
  have hstring : ∀ {size : Nat} (array : Vector UInt8 size), ∀ byte ∈ cText array, byte ≠ 0 :=
    fun _ _ => ne_zero_of_mem_cText
  have htime : ∀ byte ∈ (if telemetry.clockSynchronized then
      plainBytes (codes "\"") ++ cText telemetry.deviceTime ++ plainBytes (codes "\"")
      else plainBytes (codes "null")), byte ≠ 0 := by
    split_ifs
    · simp only [List.forall_mem_append]
      exact ⟨⟨hplain (by decide), hstring _⟩, hplain (by decide)⟩
    · exact hplain (by decide)
  unfold IiotTelemetry.document telemetryDocument
  simp only [List.forall_mem_append, plainBytes_append]
  exact ⟨⟨⟨⟨⟨⟨⟨⟨⟨⟨hplain (by decide), hstring _⟩, hplain (by decide)⟩, hstring _⟩, hplain (by decide)⟩,
    hstring _⟩, ⟨⟨hplain (by decide), hplain (plain_printNat _)⟩, hplain (by decide)⟩⟩, htime⟩,
    ⟨⟨⟨⟨hplain (by decide), hplain (plain_bool _)⟩, hplain (by decide)⟩, hplain (plain_printNat _)⟩,
      hplain (by decide)⟩⟩, hstring _⟩, hplain (plain_closing _)⟩

theorem telemetrySuffix_text :
    decodeUtf8 telemetrySuffix.bytes = some (codes (TopicKind.text .telemetry)) := by
  rw [decodeUtf8_iff_ascii (codes_text_ascii _)]
  exact literalText_text .telemetry

/-- A record that can be written is published whole, on the topic of the device. -/
theorem publishTelemetry_eq {config : IiotConfig} {siteId deviceId : String}
    (hnames : config.Names siteId deviceId) {telemetry : IiotTelemetry} (h : telemetry.Recorded)
    (payload : Memory) (topic : Vector UInt8 iiotTopicMax) :
    ∃ topicBytes topicText, decodeUtf8 topicBytes = some topicText ∧
      parseTopic topicText = .ok ⟨codes siteId, codes deviceId, .telemetry⟩ ∧
      publishTelemetry true config payload topic telemetry = some (topicBytes, telemetry.document) ∧
      telemetry.document.length < iiotJsonMax := by
  have hlength : telemetry.document.length < iiotJsonMax := length_telemetryDocument h.stringsEnd
  have hwritten := iiotSerializeTelemetry_eq payload iiotJsonMax h.siteId h.deviceId h.messageId.1
  obtain ⟨hreturned, -, hheld⟩ := print_complete hwritten
  have htrue := hreturned.mpr hlength
  obtain ⟨hbytes, hend⟩ := hheld htrue
  have hmade := sameTopic topic (cString config.siteId) (cString config.deviceId) telemetrySuffix
  have hvalue : TopicKind.topic .telemetry (codes siteId) (codes deviceId) = .ok _ :=
    topic_ok_iff.mpr ⟨hnames.sitePattern, hnames.devicePattern, rfl⟩
  obtain ⟨hdecoded, hparsed⟩ := hmade.text _ _ .telemetry _ hnames.site hnames.device
    telemetrySuffix_text hvalue
  have haccepted := hmade.accepted.mpr
    ⟨_, _, .telemetry, _, hnames.site, hnames.device, telemetrySuffix_text, hvalue⟩
  refine ⟨_, _, hdecoded, hparsed, ?_, hlength⟩
  unfold publishTelemetry gatewayMqttPublish
  dsimp only
  rw [if_pos htrue, Memory.text_eq hlength (document_ne_zero telemetry) hbytes hend, Bool.not_true,
    if_neg (by decide), if_pos haccepted]

end IiotMonitoring
