import IiotMonitoring.Proof.ContractAgree
import IiotMonitoring.Proof.PublishedRecord
import IiotMonitoring.Proof.StoredMeasurements

/-!
# From the samples of a window to the server

The record of a full window is written, published and decoded by the server exactly if the root mean
square of its vibration is in the server's range and its time has a year that the server can read. What is
decoded is what was measured. The gateway takes single samples that the server takes as peaks, and does
not look at the root mean square.
-/

namespace IiotMonitoring

/-! ### What is delivered -/

/-- A finite measurement is read as the double next to its five significant digits, and another one as
none. -/
structure Preserved (value : CFloat) (measurement : Option (FloatNumber ℚ)) : Prop where
  none : value.value.toNumber? = none → measurement = none
  some : ∀ number, value.value.toNumber? = some number →
    ∃ written read, RoundsTo 4 number written ∧ binary64 written = .finite read ∧
      measurement = some (.finite read)

/-- The envelope says what the record of the gateway says. -/
structure SameRecord (config : IiotConfig) (telemetry : IiotTelemetry) (envelope : TelemetryEnvelope) :
    Prop where
  site : decodeUtf8 (cText config.siteId) = some (codes envelope.siteId)
  device : decodeUtf8 (cText config.deviceId) = some (codes envelope.deviceId)
  message : decodeUtf8 (cText telemetry.messageId) = some (codes envelope.messageId)
  sequence : envelope.sequence = telemetry.sequence.toNat
  clockSynchronized : envelope.clockSynchronized = telemetry.clockSynchronized
  uptimeMs : envelope.uptimeMs = telemetry.uptimeMs.toNat
  firmware : decodeUtf8 (cText telemetry.firmwareVersion) = some (codes envelope.firmwareVersion)
  replayed : envelope.replayed = telemetry.replayed
  quality : envelope.quality.text = telemetry.measurements.overallQuality
  sampleQuality : envelope.sampleQuality = readQualities telemetry.measurements
  temperature : Preserved telemetry.measurements.temperatureC envelope.measurements.temperatureC
  rms : Preserved telemetry.measurements.vibrationRmsMps2 envelope.measurements.vibrationRmsMps2
  peak : Preserved telemetry.measurements.vibrationPeakMps2 envelope.measurements.vibrationPeakMps2
  crest : Preserved telemetry.measurements.vibrationCrestFactor envelope.measurements.vibrationCrestFactor
  current : Preserved telemetry.measurements.currentA envelope.measurements.currentA

/-- The record is written into the buffer and published, and the server decodes it as it is. -/
def Delivered (limits : JsonLimits) (pydantic : Pydantic) (config : IiotConfig) (payload : Memory)
    (topic : Vector UInt8 iiotTopicMax) (telemetry : IiotTelemetry) : Prop :=
  ∃ topicBytes topicText document envelope,
    publishTelemetry true config payload topic telemetry = some (topicBytes, document) ∧
      decodeUtf8 topicBytes = some topicText ∧
      decodePayload limits pydantic topicText document = .ok envelope ∧
      SameRecord config telemetry envelope

/-- The record is written into `IIOT_JSON_MAX` bytes, and the server accepts them on the topic of the
device for what was measured. -/
def Accepted (limits : JsonLimits) (pydantic : Pydantic) (config : IiotConfig) (payload : Memory)
    (topic : Vector UInt8 iiotTopicMax) (telemetry : IiotTelemetry) : Prop :=
  let written := iiotSerializeTelemetry telemetry payload iiotJsonMax
  let made := iiotMakeTopic topic (cString config.siteId) (cString config.deviceId) telemetrySuffix
  written.1 = true ∧ made.1 = true ∧ ∃ topicText envelope,
    decodeUtf8 (cText made.2) = some topicText ∧
      decodePayload limits pydantic topicText (written.2.text iiotJsonMax) = .ok envelope ∧
      SameRecord config telemetry envelope

/-- What `publish_telemetry` delivers is what is accepted where the link is up. -/
theorem accepted_iff_delivered {limits : JsonLimits} {pydantic : Pydantic} {config : IiotConfig}
    {payload : Memory} {topic : Vector UInt8 iiotTopicMax} {telemetry : IiotTelemetry} :
    Accepted limits pydantic config payload topic telemetry ↔
      Delivered limits pydantic config payload topic telemetry := by
  unfold Accepted Delivered publishTelemetry gatewayMqttPublish
  cases hwritten : (iiotSerializeTelemetry telemetry payload iiotJsonMax).1 with
  | false => simp [hwritten]
  | true =>
      cases hmade : (iiotMakeTopic topic (cString config.siteId) (cString config.deviceId)
          telemetrySuffix).1 with
      | false => simp [hwritten, hmade]
      | true => simp [hwritten, hmade]

/-- The clock is not past the last year of a `datetime`, or it is not synchronized. -/
def ClockReadable (time : Int) : Prop :=
  ∀ now, gatewayUtcNow time 32 = some now → time * 1000000 ≤ datetimeMax

/-- No float is written beyond the doubles. -/
theorem binary64_written {value : CFloat} {number written : ℚ} (h : value.value.toNumber? = some number)
    (hwritten : RoundsTo 4 number written) : ∃ read, binary64 written = .finite read := by
  have hbound : IsDouble (2 ^ 131) := ⟨1, 131, by decide, by decide, by decide, by norm_num⟩
  have hwithin : |written| ≤ 2 ^ 131 := by
    have hnumber := (finite_range h).2.2
    calc |written| ≤ 2 * |number| := hwritten.abs_le
      _ ≤ 2 * 10 ^ (39 : ℤ) := by linarith
      _ ≤ 2 ^ 131 := by norm_num
  obtain ⟨hlow, hhigh⟩ := abs_le.mp hwithin
  obtain ⟨read, hread, -⟩ := binary64_between hbound.neg hbound hlow hhigh
  exact ⟨read, hread⟩

theorem preserved_read (value : CFloat) : Preserved value (readMeasurement value) := by
  constructor
  · intro hnone
    rw [readMeasurement, hnone, Option.map_none]
  · intro number hnumber
    have hrounds := generalNumber_roundsTo 4 value.signBit (abs_nonneg number)
    rw [← (finite_range hnumber).1] at hrounds
    obtain ⟨read, hread⟩ := binary64_written hnumber hrounds
    refine ⟨writtenNumber value number, read, hrounds, hread, ?_⟩
    rw [readMeasurement, hnumber, Option.map_some, ← hread]
    rfl

theorem sameRecord_of_reads {config : IiotConfig} {telemetry : IiotTelemetry} {texts : RecordTexts}
    {scalars : PydanticScalars} {envelope : TelemetryEnvelope}
    (hnames : config.Names texts.siteId texts.deviceId)
    (htexts : telemetry.strings.DecodesAs utf8Decoding texts.strings telemetry.clockSynchronized)
    (h : ReadsRecord scalars texts telemetry envelope) : SameRecord config telemetry envelope := by
  have hmeasurement : ∀ {value : CFloat} {read : Option (FloatNumber ℚ)},
      read = readMeasurement value → Preserved value read := fun hread => hread ▸ preserved_read _
  constructor
  · rw [h.siteId, hnames.site]
  · rw [h.deviceId, hnames.device]
  · have hmessage := htexts.messageId
    rw [utf8Decoding_decode] at hmessage
    rw [h.messageId]
    exact hmessage
  · exact h.sequence
  · exact h.clockSynchronized
  · exact h.uptimeMs
  · have hfirmware := htexts.firmwareVersion
    rw [utf8Decoding_decode] at hfirmware
    rw [h.firmwareVersion]
    exact hfirmware
  · exact h.replayed
  · exact h.quality
  · exact h.sampleQuality
  · exact hmeasurement (congrArg Measurements.temperatureC h.measurements)
  · exact hmeasurement (congrArg Measurements.vibrationRmsMps2 h.measurements)
  · exact hmeasurement (congrArg Measurements.vibrationPeakMps2 h.measurements)
  · exact hmeasurement (congrArg Measurements.vibrationCrestFactor h.measurements)
  · exact hmeasurement (congrArg Measurements.currentA h.measurements)

/-! ### Times -/

theorem le_year_dateFrom_of_blockStart {start days year : Nat}
    (h : blockStart yearLength year ≤ blockStart yearLength start + days) :
    year ≤ (dateFrom start days).year := by
  by_contra hearly
  have hbefore := place_lt (Nat.not_le.mp hearly) (dateFrom start days).yearDay_lt
  have hnumber := dayNumber_dateFrom start days
  unfold CivilDate.dayNumber at hnumber
  omega

/-- Past the last year of a `datetime` the clock's text has a longer year. -/
theorem gatewayUtcNow_late {time : Int} (hlate : datetimeMax < time * 1000000) {now : String}
    (hnow : gatewayUtcNow time 32 = some now) :
    ∃ year rest, 10000 ≤ year ∧ now.toList = Nat.toDigits 10 year ++ '-' :: rest := by
  obtain ⟨utc, hutc, htext⟩ := gatewayUtcNow_eq_some hnow
  have hyear : 10000 ≤ utc.date.year := by
    rw [(gmtime_eq_some hutc).1]
    apply le_year_dateFrom_of_blockStart
    have hend := blockStart_yearLength 10000
    unfold datetimeMax at hlate
    rw [blockStart_1970]
    omega
  exact ⟨utc.date.year, _, hyear, htext⟩

theorem timeField_readable_iff {scalars : PydanticScalars} (h : scalars.ReadsDocuments) (time : Int) :
    (∃ deviceTime, timeField scalars (timeJson (gatewayUtcNow time 32)) = some deviceTime) ↔
      ClockReadable time := by
  unfold ClockReadable
  cases hnow : gatewayUtcNow time 32 with
  | none =>
      apply iff_of_true
      · exact ⟨none, rfl⟩
      · exact fun now hsome => absurd hsome (Option.some_ne_none now).symm
  | some now =>
      have hfield : timeField scalars (timeJson (some now)) =
          (scalars.datetime (.string (codes now))).map some := rfl
      rw [hfield]
      by_cases hmax : time * 1000000 ≤ datetimeMax
      · have hmin : datetimeMin ≤ time * 1000000 := by
          unfold gatewayUtcNow at hnow
          split_ifs at hnow with hunsynchronized
          unfold datetimeMin
          omega
        rw [gatewayUtcNow_zulu hmax hnow, h.datetime _ hmin hmax]
        exact iff_of_true ⟨_, rfl⟩ fun _ _ => hmax
      · obtain ⟨year, rest, hyear, htext⟩ := gatewayUtcNow_late (not_le.mp hmax) hnow
        have hnone : scalars.datetime (.string (codes now)) = none := by
          have hrefused := h.datetime_year year rest hyear
          rwa [← htext, String.ofList_toList] at hrefused
        rw [hnone]
        apply iff_of_false
        · rintro ⟨deviceTime, hsome⟩
          cases hsome
        · exact fun hreadable => hmax (hreadable now rfl)

/-! ### The whole way -/

section Delivery

variable {limits : JsonLimits} {pydantic : Pydantic} {config : IiotConfig}

/-- What the decoder makes of the document of a record. -/
theorem decodePayload_document {telemetry : IiotTelemetry} (h : telemetry.Recorded)
    (hnesting : 3 ≤ limits.nesting) (hdigits : 20 ≤ limits.digits) {texts : RecordTexts}
    (htexts : telemetry.strings.DecodesAs utf8Decoding texts.strings telemetry.clockSynchronized)
    {topic : Text} (htopic : parseTopic topic = .ok ⟨codes texts.siteId, codes texts.deviceId, .telemetry⟩)
    (hlength : telemetry.document.length < iiotJsonMax) (envelope : TelemetryEnvelope) :
    decodePayload limits pydantic topic telemetry.document = .ok envelope ↔
      validateTelemetry pydantic.python (telemetryJson texts.strings telemetry) = some envelope ∧
        codes envelope.siteId = codes texts.siteId ∧ codes envelope.deviceId = codes texts.deviceId := by
  have hsize : ¬ maxPayloadBytes < telemetry.document.length :=
    Nat.not_lt.mpr (hlength.le.trans (by decide))
  unfold decodePayload
  rw [if_neg hsize, htopic]
  dsimp only
  rw [if_pos rfl, jsonLoads_document h hnesting hdigits htexts]
  dsimp only
  cases validateTelemetry pydantic.python (telemetryJson texts.strings telemetry) with
  | none =>
      apply iff_of_false
      · intro herror
        cases herror
      · exact fun hsome => absurd hsome.1.symm (Option.some_ne_none envelope)
  | some read =>
      dsimp only [ParsedTopic.accept]
      rw [Option.some_inj]
      split_ifs with hsame
      · rw [Except.ok.injEq]
        constructor
        · rintro rfl
          exact ⟨rfl, hsame⟩
        · exact fun hread => hread.1
      · apply iff_of_false
        · intro herror
          cases herror
        · rintro ⟨rfl, hnames⟩
          exact hsame hnames

variable {K : Type} [Field K] [LinearOrder K] {sqrtf : K → K} {convert : K → CFloat}

theorem stored_expected {count : Nat} {samples : List (IiotSample K)} (hpos : 1 ≤ count)
    (hcount : count ≤ 6000) :
    ((windowResult Aggregation.lowestCurrent sqrtf count samples).stored convert).Expected := by
  have hexpected : (UInt16.ofNat count).toNat = count :=
    UInt16.toNat_ofNat_of_lt' (show count < 65536 by omega)
  rw [windowResult_eq Aggregation.lowestCurrent sqrtf hpos (by omega)]
  exact ⟨hexpected.symm ▸ hpos, hexpected.symm ▸ hpos, hexpected.symm ▸ hpos⟩

variable [IsStrictOrderedRing K]

/-- The record of a full window, published for the first time or again, and what the server makes of
its document. -/
theorem aggregated_read (hpydantic : pydantic.python.ReadsDocuments) (hnesting : 3 ≤ limits.nesting)
    (hdigits : 20 ≤ limits.digits) (hroot : ExactRoot sqrtf) (hconvert : ConvertsToFloat convert)
    (hvalid : iiotConfigValidate config = true) {siteId deviceId : String}
    (hnames : config.Names siteId deviceId) {samples : List (IiotSample K)}
    (hlength : samples.length = config.expectedSamples.toNat) (simulation : Bool)
    (reads : AggregationReads) {telemetry : IiotTelemetry} (replayed : Bool)
    (htelemetry : telemetry = { aggregatedTelemetry simulation config reads
      ((windowResult Aggregation.lowestCurrent sqrtf config.expectedSamples.toNat samples).stored convert) with
        replayed := replayed })
    (payload : Memory) (topic : Vector UInt8 iiotTopicMax) :
    ∃ topicBytes topicText document,
      publishTelemetry true config payload topic telemetry = some (topicBytes, document) ∧
        decodeUtf8 topicBytes = some topicText ∧
        parseTopic topicText = .ok ⟨codes siteId, codes deviceId, .telemetry⟩ ∧
        telemetry.strings.DecodesAs utf8Decoding
          (aggregatedTexts simulation siteId deviceId reads).strings telemetry.clockSynchronized ∧
        (RmsAccepted sqrtf convert samples → ClockReadable reads.time →
          ∃ envelope, decodePayload limits pydantic topicText document = .ok envelope ∧
            ReadsRecord pydantic.python (aggregatedTexts simulation siteId deviceId reads) telemetry
              envelope) ∧
        ∀ envelope, decodePayload limits pydantic topicText document = .ok envelope →
          RmsAccepted sqrtf convert samples ∧ ClockReadable reads.time := by
  obtain ⟨hpos, hcount⟩ := IiotConfig.expectedSamples_range hvalid
  have hmeasured := @stored_readWithin K _ _ sqrtf convert _ _ _ hroot hconvert hpos hcount hlength
  have hrms := @rms_read_iff K _ _ sqrtf convert _ _ _ hroot hconvert hpos hcount hlength
  have hexpected := @stored_expected K _ _ sqrtf convert _ samples hpos hcount
  generalize (windowResult Aggregation.lowestCurrent sqrtf config.expectedSamples.toNat samples) = result at *
  have hrecorded : telemetry.Recorded := by
    obtain ⟨hsite, hdevice, hmessage, htime, hfirmware⟩ :=
      aggregated_recorded simulation reads (result.stored convert) hvalid
    rw [htelemetry]
    exact ⟨hsite, hdevice, hmessage, htime, hfirmware⟩
  have hdecodes : telemetry.strings.DecodesAs utf8Decoding
      (aggregatedTexts simulation siteId deviceId reads).strings telemetry.clockSynchronized := by
    rw [htelemetry]
    exact aggregated_decodes simulation reads (result.stored convert) hvalid hnames
  have hclock : telemetry.clockSynchronized =
      (aggregatedTexts simulation siteId deviceId reads).deviceTime.isSome := by
    rw [htelemetry]
    rfl
  have hmeasurements : telemetry.measurements = result.stored convert := by
    rw [htelemetry]
    rfl
  have hvibration : telemetry.measurements.vibrationRmsMps2 =
      result.vibrationRmsMps2.stored convert := by
    rw [hmeasurements]
    rfl
  rw [← hmeasurements] at hmeasured hexpected
  rw [← hvibration] at hrms
  obtain ⟨topicBytes, topicText, htopicText, htopic, hpublished, hfits⟩ :=
    publishTelemetry_eq hnames hrecorded payload topic
  have hdocument := @decodePayload_document limits pydantic _ hrecorded hnesting hdigits _ hdecodes _
    htopic hfits
  refine ⟨topicBytes, topicText, _, hpublished, htopicText, htopic, hdecodes, ?_, ?_⟩
  · intro haccepted hreadable
    obtain ⟨deviceTime, htime⟩ := (timeField_readable_iff hpydantic reads.time).mpr hreadable
    obtain ⟨envelope, hread, hsame⟩ := validateTelemetry_read hpydantic
      (aggregatedTexts_valid simulation reads hnames) hclock (hmeasured haccepted) hexpected htime
    refine ⟨envelope, (hdocument envelope).mpr ?_, hsame⟩
    rw [hsame.siteId, hsame.deviceId]
    exact ⟨hread, rfl, rfl⟩
  · intro envelope hdecoded
    have hread := ((hdocument envelope).mp hdecoded).1
    obtain ⟨hwithin, htime⟩ := validateTelemetry_refuses hpydantic hclock hread
    exact ⟨hrms.mp hwithin, (timeField_readable_iff hpydantic reads.time).mp htime⟩

/-- The record of a full window is delivered exactly where the decoder takes it. -/
theorem delivered_window_iff (hpydantic : pydantic.python.ReadsDocuments) (hnesting : 3 ≤ limits.nesting)
    (hdigits : 20 ≤ limits.digits) (hroot : ExactRoot sqrtf) (hconvert : ConvertsToFloat convert)
    (hvalid : iiotConfigValidate config = true) {samples : List (IiotSample K)}
    (hlength : samples.length = config.expectedSamples.toNat) (simulation : Bool)
    (reads : AggregationReads) {telemetry : IiotTelemetry} (replayed : Bool)
    (htelemetry : telemetry = { aggregatedTelemetry simulation config reads
      ((windowResult Aggregation.lowestCurrent sqrtf config.expectedSamples.toNat samples).stored convert) with
        replayed := replayed })
    (payload : Memory) (topic : Vector UInt8 iiotTopicMax) :
    Delivered limits pydantic config payload topic telemetry ↔
      RmsAccepted sqrtf convert samples ∧ ClockReadable reads.time := by
  obtain ⟨siteId, deviceId, hnames⟩ := exists_names hvalid
  obtain ⟨topicBytes, topicText, document, hpublished, htopicText, -, hdecodes, hread, hrefused⟩ :=
    aggregated_read hpydantic hnesting hdigits hroot hconvert hvalid hnames hlength simulation reads
      replayed htelemetry payload topic
  constructor
  · rintro ⟨topicBytes', topicText', document', envelope, hpublished', htopicText', hdecoded, -⟩
    obtain ⟨rfl, rfl⟩ := Prod.ext_iff.mp (Option.some.inj (hpublished.symm.trans hpublished'))
    obtain rfl := Option.some.inj (htopicText.symm.trans htopicText')
    exact hrefused envelope hdecoded
  · rintro ⟨haccepted, hreadable⟩
    obtain ⟨envelope, hdecoded, hsame⟩ := hread haccepted hreadable
    exact ⟨topicBytes, topicText, document, envelope, hpublished, htopicText, hdecoded,
      sameRecord_of_reads hnames hdecodes hsame⟩

end Delivery

/-! ### A library and a conversion -/

/-- The floats that are numbers. -/
def finiteFloats : Finset CFloat :=
  ((Finset.range (2 ^ 32)).image fun bits => CFloat.mk (UInt32.ofNat bits)).filter fun float =>
    float.value.isFinite = true

theorem mem_finiteFloats {float : CFloat} {number : ℚ} (h : float.value = .finite number) :
    float ∈ finiteFloats := by
  unfold finiteFloats
  rw [Finset.mem_filter, Finset.mem_image, h]
  refine ⟨⟨float.bits.toNat, Finset.mem_range.mpr float.bits.toNat_lt, ?_⟩, rfl⟩
  rw [UInt32.ofNat_toNat]

/-- The distance of a number from the one that a float stands for. -/
noncomputable def floatDistance (number : ℝ) (float : CFloat) : ℝ :=
  |((float.value.toNumber?.getD 0 : ℚ) : ℝ) - number|

theorem exists_nearest (number : ℝ) :
    ∃ nearest ∈ finiteFloats, ∀ float ∈ finiteFloats, floatDistance number nearest ≤ floatDistance number float :=
  Finset.exists_min_image finiteFloats (floatDistance number)
    ⟨⟨0⟩, @mem_finiteFloats ⟨0⟩ 0 (by decide)⟩

/-- The conversion to the nearest float. -/
noncomputable def nearestFloat (number : ℝ) : CFloat := (exists_nearest number).choose

theorem convertsToFloat_nearest : ConvertsToFloat nearestFloat := by
  intro low high lowest highest number hlow hhigh habove hbelow
  obtain ⟨hmem, hnearest⟩ := (exists_nearest number).choose_spec
  change nearestFloat number ∈ finiteFloats at hmem
  change ∀ float ∈ finiteFloats, floatDistance number (nearestFloat number) ≤ floatDistance number float
    at hnearest
  have hfinite := (Finset.mem_filter.mp hmem).2
  obtain ⟨stored, hstored⟩ : ∃ stored, (nearestFloat number).value = .finite stored := by
    cases hvalue : (nearestFloat number).value with
    | finite stored => exact ⟨stored, rfl⟩
    | infinity negative =>
        rw [hvalue] at hfinite
        cases hfinite
    | nan =>
        rw [hvalue] at hfinite
        cases hfinite
  have hlowest := hnearest low (mem_finiteFloats hlow)
  have hhighest := hnearest high (mem_finiteFloats hhigh)
  unfold floatDistance at hlowest hhighest
  rw [hstored, hlow] at hlowest
  rw [hstored, hhigh] at hhighest
  simp only [FloatNumber.toNumber?, Option.getD_some] at hlowest hhighest
  refine ⟨stored, hstored, ?_, ?_⟩
  · by_contra hless
    have hcast : (stored : ℝ) < lowest := by exact_mod_cast not_le.mp hless
    rw [abs_of_nonpos (by linarith), abs_of_nonpos (by linarith)] at hlowest
    linarith
  · by_contra hmore
    have hcast : (highest : ℝ) < stored := by exact_mod_cast not_le.mp hmore
    rw [abs_of_nonneg (by linarith), abs_of_nonneg (by linarith)] at hhighest
    linarith

/-- A time with a year of four digits. -/
def readShortTime : Json → Option Int
  | .string text => if text[4]? = some 45 then readZulu text else none
  | _ => none

theorem readShortTime_short {text : Text} (h : text[4]? = some 45) :
    readShortTime (.string text) = readZulu text := if_pos h

theorem readShortTime_long {text : Text} (h : text[4]? ≠ some 45) : readShortTime (.string text) = none :=
  if_neg h

theorem zuluText_short {time : Int} (hmax : time ≤ datetimeMax) :
    (codes (zuluText time))[4]? = some 45 := by
  rw [codes, zuluText_eq hmax, UtcParts.text, List.map_append, List.getElem?_append_right]
  · rw [List.length_map, length_fixedDigits]
    rfl
  · rw [List.length_map, length_fixedDigits]

theorem longYear_long {year : Nat} (hyear : 10000 ≤ year) (rest : List Char) :
    (codes (String.ofList (Nat.toDigits 10 year ++ '-' :: rest)))[4]? ≠ some 45 := by
  have hlength : 4 < (Nat.toDigits 10 year).length := by
    rw [← Nat.not_le, Nat.length_toDigits_le_iff (by decide) (by decide)]
    omega
  rw [codes, String.toList_ofList, List.map_append,
    List.getElem?_append_left (by rwa [List.length_map]), List.getElem?_map]
  intro hhyphen
  obtain ⟨character, hcharacter, hcode⟩ := Option.map_eq_some_iff.mp hhyphen
  have hrange := isDigit_range (Nat.isDigit_of_mem_toDigits (by decide) (le_refl 10)
    (List.mem_of_getElem? hcharacter))
  omega

def documentScalars : PydanticScalars := { strictScalars with datetime := readShortTime }

theorem readsDocuments_documentScalars : documentScalars.ReadsDocuments where
  lax := {
    literalOne := strictScalars_lax.literalOne
    int_number := strictScalars_lax.int_number
    int_bool := strictScalars_lax.int_bool
    int_scalar := strictScalars_lax.int_scalar
    float_nonFinite := strictScalars_lax.float_nonFinite
    float_bool := strictScalars_lax.float_bool
    float_array := strictScalars_lax.float_array
    float_object := strictScalars_lax.float_object
    bool_bool := strictScalars_lax.bool_bool
    uuid_string := strictScalars_lax.uuid_string
    string_iff := strictScalars_lax.string_iff
    boundedString_iff := strictScalars_lax.boundedString_iff }
  float_number number := .inl rfl
  uuid text _ := textString_iff.mpr rfl
  datetime time hmin hmax := by
    have hread : documentScalars.datetime = readShortTime := rfl
    rw [hread, readShortTime_short (zuluText_short hmax), readZulu_zuluText hmin hmax]
  datetime_year year rest hyear := by
    have hread : documentScalars.datetime = readShortTime := rfl
    rw [hread, readShortTime_long (longYear_long hyear rest)]

def documentPydantic : Pydantic := ⟨documentScalars, documentScalars, fun _ => none, fun _ => 1⟩

/-- Ten samples of one vibration. -/
noncomputable def steadySamples (vibration : ℝ) : List (IiotSample ℝ) :=
  List.replicate 10 ⟨.finite 25, .good, .finite 1, .good, .finite vibration, .good⟩

theorem countedVibrations_steadySamples {vibration : ℝ} (hpos : 0 ≤ vibration)
    (hmax : vibration ≤ 4000) :
    countedVibrations (steadySamples vibration) = List.replicate 10 vibration := by
  have hsample : (IiotSample.mk (.finite (25 : ℝ)) .good (.finite 1) .good (.finite vibration)
      .good).vibration = .ok vibration := by
    unfold IiotSample.vibration readSample
    simp [abs_of_nonneg hpos, hmax]
  unfold countedVibrations steadySamples acceptedNumbers
  rw [List.map_replicate, hsample]
  rfl

/-- The root mean square is the vibration. -/
theorem rmsAccepted_steadySamples {vibration : ℝ} (hpos : 0 ≤ vibration) (hmax : vibration ≤ 4000)
    {float : CFloat} {number : ℚ} (hfloat : float.value = .finite number)
    (hsame : (number : ℝ) = vibration) :
    RmsAccepted Real.sqrt nearestFloat (steadySamples vibration) ↔ number ≤ 2000 + 1 / 20 := by
  have hroot : Real.sqrt (squareSum (List.replicate 10 vibration) / (10 : ℕ)) = vibration := by
    have hsquare : squareSum (List.replicate 10 vibration) / (10 : ℕ) = vibration ^ 2 := by
      simp [squareSum]
      ring
    rw [hsquare, Real.sqrt_sq hpos]
  obtain ⟨stored, hstored, hlow, hhigh⟩ := convertsToFloat_nearest float float number number vibration
    hfloat hfloat hsame.le hsame.ge
  obtain rfl := le_antisymm hlow hhigh
  unfold RmsAccepted
  rw [countedVibrations_steadySamples hpos hmax, List.length_replicate, hroot, hstored]
  simp

theorem not_rmsAccepted_strong : ¬ RmsAccepted Real.sqrt nearestFloat (steadySamples 3000) := by
  rw [rmsAccepted_steadySamples (by norm_num) (by norm_num)
    (show CFloat.value ⟨0x453b8000⟩ = .finite 3000 by decide) (by norm_num)]
  norm_num

def steadyReads : AggregationReads := ⟨Vector.replicate 16 0, 7, 60000, 1798761600, 0⟩

/-! ### Windows -/

section Windows

variable {limits : JsonLimits} {pydantic : Pydantic} {config : IiotConfig} {K : Type} [Field K]
  [LinearOrder K] [IsStrictOrderedRing K] {sqrtf : K → K} {convert : K → CFloat}

/-- **What the gateway measures.** The record of a full window is written, and the server accepts it for
what was measured, if and only if the root mean square of the vibration is in the server's range and the
clock shows a year that the server can read. -/
theorem window_accepted_iff (hpydantic : pydantic.python.ReadsDocuments) (hnesting : 3 ≤ limits.nesting)
    (hdigits : 20 ≤ limits.digits) (hroot : ExactRoot sqrtf) (hconvert : ConvertsToFloat convert)
    (hvalid : iiotConfigValidate config = true) {samples : List (IiotSample K)}
    (hlength : samples.length = config.expectedSamples.toNat) (simulation : Bool)
    (reads : AggregationReads) (payload : Memory) (topic : Vector UInt8 iiotTopicMax) :
    Accepted limits pydantic config payload topic (aggregatedTelemetry simulation config reads
        ((windowResult Aggregation.lowestCurrent sqrtf config.expectedSamples.toNat samples).stored
          convert)) ↔
      RmsAccepted sqrtf convert samples ∧ ClockReadable reads.time := by
  rw [accepted_iff_delivered]
  exact delivered_window_iff hpydantic hnesting hdigits hroot hconvert hvalid hlength simulation reads
    false rfl payload topic

/-- A vibration of 3 m/s². -/
theorem window_accepted_iff_steady :
    Accepted ⟨1000, 4300⟩ documentPydantic iiotConfigDefaults (fun _ => 0) (zeroArray iiotTopicMax)
      (aggregatedTelemetry true iiotConfigDefaults steadyReads
        ((windowResult Aggregation.lowestCurrent Real.sqrt iiotConfigDefaults.expectedSamples.toNat
          (steadySamples 3)).stored nearestFloat)) := by
  refine (window_accepted_iff readsDocuments_documentScalars (by decide) (by decide) exactRoot_real
    convertsToFloat_nearest validate_defaults_gateway rfl true steadyReads _ _).mpr ⟨?_, ?_⟩
  · exact (rmsAccepted_steadySamples (by norm_num) (by norm_num)
      (show CFloat.value ⟨0x40400000⟩ = .finite 3 by decide) (by norm_num)).mpr (by norm_num)
  · exact fun _ _ => by decide

/-- Each sample of 3000 m/s² is in the gateway's range, and the record is refused. -/
theorem strong_window_refused :
    ¬ ∀ (config : IiotConfig) (samples : List (IiotSample ℝ)) (simulation : Bool)
        (reads : AggregationReads), iiotConfigValidate config = true →
        samples.length = config.expectedSamples.toNat →
        Accepted ⟨1000, 4300⟩ documentPydantic config (fun _ => 0) (zeroArray iiotTopicMax)
          (aggregatedTelemetry simulation config reads
            ((windowResult Aggregation.lowestCurrent Real.sqrt config.expectedSamples.toNat
              samples).stored nearestFloat)) := by
  intro hall
  have haccepted := accepted_iff_delivered.mp
    (hall iiotConfigDefaults (steadySamples 3000) true steadyReads validate_defaults_gateway rfl)
  have hread := (delivered_window_iff readsDocuments_documentScalars (by decide) (by decide)
    exactRoot_real convertsToFloat_nearest validate_defaults_gateway rfl true steadyReads false rfl _
    _).mp haccepted
  exact not_rmsAccepted_strong hread.1

end Windows

/-! ### Streams -/

section Streams

variable {limits : JsonLimits} {pydantic : Pydantic} {config : IiotConfig} {K : Type} [Field K]
  [LinearOrder K] [IsStrictOrderedRing K] {sqrtf : K → K} {convert : K → CFloat}

/-- **From the samples to the server.** The record of any window in any stream of samples is published,
at once or as a replay, and the server decodes it as it was measured, if and only if the root mean square
of the vibration is in the server's range and the clock shows a year that the server can read. -/
theorem aggregated_delivered_iff (hpydantic : pydantic.python.ReadsDocuments)
    (hnesting : 3 ≤ limits.nesting) (hdigits : 20 ≤ limits.digits) (hroot : ExactRoot sqrtf)
    (hconvert : ConvertsToFloat convert) (hvalid : iiotConfigValidate config = true)
    {stream : List (IiotSample K)} {index : Nat} {result : WindowMeasurements K}
    (hresult : (Aggregation.measurements sqrtf config.expectedSamples
      (Aggregation.start config.expectedSamples) stream)[index]? = some result)
    (simulation : Bool) (reads : AggregationReads) (replayed : Bool) (payload : Memory)
    (topic : Vector UInt8 iiotTopicMax) :
    Delivered limits pydantic config payload topic
        { aggregatedTelemetry simulation config reads (result.stored convert) with
          replayed := replayed } ↔
      RmsAccepted sqrtf convert (Aggregation.windowSamples config.expectedSamples stream index) ∧
        ClockReadable reads.time := by
  obtain ⟨hpos, -⟩ := IiotConfig.expectedSamples_range hvalid
  obtain ⟨hlength, rfl⟩ := Aggregation.measurements_get hpos hresult
  exact delivered_window_iff hpydantic hnesting hdigits hroot hconvert hvalid hlength simulation reads
    replayed rfl payload topic

/-- The second of two windows is lost, also when it is replayed. -/
theorem strong_replay_not_delivered :
    ¬ Delivered ⟨1000, 4300⟩ documentPydantic iiotConfigDefaults (fun _ => 0) (zeroArray iiotTopicMax)
      { aggregatedTelemetry true iiotConfigDefaults steadyReads
          ((windowResult Aggregation.lowestCurrent Real.sqrt 10 (steadySamples 3000)).stored
            nearestFloat) with
        replayed := true } := by
  have hpos : 1 ≤ iiotConfigDefaults.expectedSamples.toNat := by decide
  have hweak : (steadySamples 3).length = iiotConfigDefaults.expectedSamples.toNat := rfl
  have hstrong : (steadySamples 3000).length = iiotConfigDefaults.expectedSamples.toNat := rfl
  have hsecond := @Aggregation.measurements_append ℝ _ _ Real.sqrt _ hpos _ hstrong []
  rw [List.append_nil] at hsecond
  have hresult : (Aggregation.measurements Real.sqrt iiotConfigDefaults.expectedSamples
      (Aggregation.start iiotConfigDefaults.expectedSamples)
      (steadySamples 3 ++ steadySamples 3000))[1]? =
        some (windowResult Aggregation.lowestCurrent Real.sqrt 10 (steadySamples 3000)) := by
    rw [Aggregation.measurements_append hpos hweak, List.getElem?_cons_succ, hsecond]
    rfl
  intro hdelivered
  have hrms := ((aggregated_delivered_iff readsDocuments_documentScalars (by decide) (by decide)
    exactRoot_real convertsToFloat_nearest validate_defaults_gateway hresult true steadyReads true
    (fun _ => 0) (zeroArray iiotTopicMax)).mp hdelivered).1
  have hwindow : Aggregation.windowSamples iiotConfigDefaults.expectedSamples
      (steadySamples 3 ++ steadySamples 3000) 1 = steadySamples 3000 := by
    unfold Aggregation.windowSamples
    rw [Nat.one_mul, List.drop_left' hweak, List.take_of_length_le hstrong.le]
  rw [hwindow] at hrms
  exact not_rmsAccepted_strong hrms

end Streams

end IiotMonitoring
