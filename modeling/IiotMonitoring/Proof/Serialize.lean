import IiotMonitoring.Proof.TelemetryDocument
import IiotMonitoring.Proof.Topics
import Mathlib.Algebra.Order.BigOperators.Group.List

/-!
# Telemetry documents are complete or refused

The writer holds what `snprintf` of the whole document would leave, however the document is cut into
appends. So a document is written if it fits with its terminator, and every document fits into
`IIOT_JSON_MAX` bytes.
-/

namespace IiotMonitoring

/-! ### Lengths -/

/-- A finite measurement has the sign of its first bit, and is zero or neither tiny nor huge. -/
theorem finite_range {value : CFloat} {number : ℚ} (h : value.value.toNumber? = some number) :
    (number = if value.signBit then -|number| else |number|) ∧
      (number = 0 ∨ (10 : ℚ) ^ (-45 : ℤ) ≤ |number|) ∧ |number| < (10 : ℚ) ^ (39 : ℤ) := by
  have hfinite : FloatNumber.ofBinary32 value.bits = .finite number := by
    unfold CFloat.value at h
    cases hvalue : FloatNumber.ofBinary32 value.bits with
    | finite number' =>
        rw [hvalue] at h
        exact congrArg _ (Option.some.inj h)
    | infinity negative =>
        rw [hvalue] at h
        cases h
    | nan =>
        rw [hvalue] at h
        cases h
  obtain ⟨magnitude, hlt, rfl⟩ := FloatNumber.ofBinary32_magnitude hfinite
  have hnonneg : (0 : ℚ) ≤ (magnitude : ℚ) / 2 ^ 149 := by positivity
  have hsize : |if 2 ^ 31 ≤ value.bits.toNat then -((magnitude : ℚ) / 2 ^ 149)
      else (magnitude : ℚ) / 2 ^ 149| = (magnitude : ℚ) / 2 ^ 149 := by
    split_ifs
    · rw [abs_neg, abs_of_nonneg hnonneg]
    · exact abs_of_nonneg hnonneg
  rw [hsize]
  refine ⟨?_, ?_, ?_⟩
  · unfold CFloat.signBit
    simp only [decide_eq_true_eq]
  · rcases Nat.eq_zero_or_pos magnitude with hzero | hpos
    · left
      rw [hzero]
      simp
    · right
      have hone : (1 : ℚ) ≤ magnitude := by exact_mod_cast hpos
      calc (10 : ℚ) ^ (-45 : ℤ) ≤ 1 / 2 ^ 149 := by norm_num
        _ ≤ (magnitude : ℚ) / 2 ^ 149 := div_le_div_of_nonneg_right hone (by positivity)
  · have hbelow : (magnitude : ℚ) < 2 ^ 24 * 2 ^ 253 := by exact_mod_cast hlt
    calc (magnitude : ℚ) / 2 ^ 149 < 2 ^ 24 * 2 ^ 253 / 2 ^ 149 :=
          div_lt_div_of_pos_right hbelow (by positivity)
      _ < (10 : ℚ) ^ (39 : ℤ) := by norm_num

theorem length_measurement (value : CFloat) : (measurementText value).length ≤ 11 := by
  cases hvalue : value.value.toNumber? with
  | none =>
      rw [(measurementJson_none hvalue).1]
      decide
  | some number =>
      rw [(measurementJson_finite hvalue).1]
      apply length_generalNumber _ (abs_nonneg number)
      obtain ⟨-, hzero | hlow, hhigh⟩ := finite_range hvalue
      · rw [hzero, abs_zero, scientific_zero]
        decide
      · have hrange := @scientific_exponent_range 4 _ _ _ hlow hhigh
        omega

theorem length_commaJoin (texts : List Text) :
    (commaJoin texts).length ≤ (texts.map fun text => text.length + 1).sum := by
  induction texts with
  | nil => exact Nat.zero_le _
  | cons text texts ih =>
      cases texts with
      | nil =>
          rw [commaJoin_singleton]
          simp
      | cons next texts =>
          have hjoined := commaJoin_cons_cons text next texts []
          rw [List.append_nil, List.append_nil] at hjoined
          rw [hjoined, List.length_append, List.length_cons, List.map_cons, List.sum_cons]
          omega

theorem length_faults (flags : UInt32) : (faultsText flags).length ≤ 151 := by
  have hsub : ((setFaults flags).map fun name => (quoted (codes name)).length + 1).Sublist
      ((faultNames.map (·.name)).map fun name => (quoted (codes name)).length + 1) :=
    ((List.filter_sublist).map _).map _
  have hsum := hsub.sum_le_sum fun _ _ => Nat.zero_le _
  have htotal : ((faultNames.map (·.name)).map fun name => (quoted (codes name)).length + 1).sum = 149 := by
    decide
  have hjoin := length_commaJoin ((setFaults flags).map fun name => quoted (codes name))
  rw [List.map_map] at hjoin
  have hsame : ((setFaults flags).map
      ((fun text : Text => text.length + 1) ∘ fun name => quoted (codes name))) =
        (setFaults flags).map fun name => (quoted (codes name)).length + 1 := rfl
  unfold faultsText
  rw [List.length_append, List.length_cons, List.length_singleton]
  rw [hsame] at hjoin
  omega

theorem length_statusName (status : IiotSensorStatus) :
    (codes (iiotSensorStatusName status)).length ≤ 12 := by
  cases status <;> decide

theorem length_overallQuality (measurements : IiotMeasurements) :
    (codes measurements.overallQuality).length ≤ 8 := by
  unfold IiotMeasurements.overallQuality
  dsimp only
  split_ifs <;> decide

theorem length_bool (value : Bool) : (codes (if value then "true" else "false")).length ≤ 5 := by
  cases value <;> decide

theorem length_number_le {number width : Nat} (hwidth : 1 ≤ width) (hnumber : number < 10 ^ width) :
    (printNat number).length ≤ width := by
  rw [length_printNat]
  exact length_decimalDigits_le hwidth hnumber

theorem length_count (count : UInt16) : (printNat count.toNat).length ≤ 5 :=
  length_number_le (by decide) (lt_of_lt_of_le count.toNat_lt (by decide))

theorem length_counter (counter : UInt64) : (printNat counter.toNat).length ≤ 20 :=
  length_number_le (by decide) (lt_of_lt_of_le counter.toNat_lt (by decide))

theorem length_sampleQuality (name : String) (qualityValue : IiotSampleQuality) (trailing : Bool) :
    (sampleQualityText name qualityValue trailing).length ≤ (codes name).length + 80 := by
  have hliterals : (codes "\"").length + (codes "\":\x7b\"status\":\"").length +
      (codes "\",\"valid_samples\":").length + (codes ",\"expected_samples\":").length +
      (codes "\x7d").length = 53 := by
    decide
  have htrailing : (codes (if trailing then "," else "")).length ≤ 1 := by cases trailing <;> decide
  have hstatus := length_statusName qualityValue.status
  have hvalid := length_count qualityValue.validSamples
  have hexpected := length_count qualityValue.expectedSamples
  unfold sampleQualityText
  simp only [List.length_append]
  omega

theorem length_closing (telemetry : IiotTelemetry) : (closingText telemetry).length ≤ 700 := by
  have hliterals : (codes "\",\"quality\":\"").length + (codes "\",\"replayed\":").length +
      (codes ",\"measurements\":\x7b\"temperature_c\":").length +
      (codes ",\"vibration_rms_mps2\":").length + (codes ",\"vibration_peak_mps2\":").length +
      (codes ",\"vibration_crest_factor\":").length + (codes ",\"current_a\":").length +
      (codes "\x7d,\"sample_quality\":\x7b").length + (codes "\x7d,\"fault_flags\":").length +
      (codes "\x7d").length + (codes "temperature").length + (codes "vibration").length +
      (codes "current").length = 207 := by
    decide
  have hquality := length_overallQuality telemetry.measurements
  have hreplayed := length_bool telemetry.replayed
  have htemperature := length_measurement telemetry.measurements.temperatureC
  have hrms := length_measurement telemetry.measurements.vibrationRmsMps2
  have hpeak := length_measurement telemetry.measurements.vibrationPeakMps2
  have hcrest := length_measurement telemetry.measurements.vibrationCrestFactor
  have hcurrent := length_measurement telemetry.measurements.currentA
  have hsamples := length_sampleQuality "temperature" telemetry.measurements.temperatureQuality true
  have hsamples' := length_sampleQuality "vibration" telemetry.measurements.vibrationQuality true
  have hsamples'' := length_sampleQuality "current" telemetry.measurements.currentQuality false
  have hfaults := length_faults telemetry.faultFlags
  unfold closingText
  simp only [List.length_append]
  omega

/-- The strings of a record as the arrays bound them. The time is written where the clock is
synchronised. -/
structure IiotTelemetry.StringsEnd (telemetry : IiotTelemetry) : Prop where
  messageId : (cText telemetry.messageId).length = 36
  siteId : (cText telemetry.siteId).length ≤ iiotIdMax
  deviceId : (cText telemetry.deviceId).length ≤ iiotIdMax
  deviceTime : telemetry.clockSynchronized = true → (cText telemetry.deviceTime).length < 32
  firmwareVersion : (cText telemetry.firmwareVersion).length < 49

theorem length_telemetryDocument {telemetry : IiotTelemetry} (h : telemetry.StringsEnd) :
    (telemetryDocument plainBytes telemetry.strings telemetry).length < iiotJsonMax := by
  have hliterals : (codes "\x7b\"schema_version\":1,\"message_id\":\"").length +
      (codes "\",\"site_id\":\"").length + (codes "\",\"device_id\":\"").length +
      (codes "\",\"sequence\":").length + (codes ",\"device_time\":").length +
      (codes ",\"clock_synchronized\":").length + (codes ",\"uptime_ms\":").length +
      (codes ",\"firmware_version\":\"").length = 146 := by
    decide
  have htime : (if telemetry.clockSynchronized then
      plainBytes (codes "\"") ++ telemetry.strings.deviceTime ++ plainBytes (codes "\"") else
      plainBytes (codes "null")).length ≤ 33 := by
    cases hclock : telemetry.clockSynchronized with
    | true =>
        have hends := h.deviceTime hclock
        rw [if_pos rfl, List.length_append, List.length_append, length_plainBytes]
        have hquote : (codes "\"").length = 1 := by decide
        unfold IiotTelemetry.strings
        dsimp only
        omega
    | false =>
        rw [if_neg Bool.false_ne_true, length_plainBytes]
        decide
  have hbool := length_bool telemetry.clockSynchronized
  have hsequence := length_counter telemetry.sequence
  have huptime := length_counter telemetry.uptimeMs
  have hclosing := length_closing telemetry
  obtain ⟨hmessage, hsite, hdevice, -, hfirmware⟩ := h
  unfold telemetryDocument
  unfold IiotTelemetry.strings at htime ⊢
  unfold iiotIdMax at hsite hdevice
  unfold iiotJsonMax
  simp only [List.length_append, length_plainBytes] at htime ⊢
  omega

/-! ### The writer -/

/-- The memory holds the text as `snprintf` would leave it, and the flag says whether it fits. -/
structure JsonWriter.Holds (writer : JsonWriter) (memory : Memory) (size : Nat) (text : List UInt8) :
    Prop where
  capacity : writer.capacity = size
  output : writer.output = memory.print 0 size text
  valid : writer.valid = true ↔ text.length < size
  used : writer.valid = true → writer.used = text.length

section Writer

variable {writer : JsonWriter} {memory : Memory} {size : Nat} {text : List UInt8}

theorem holds_start (hsize : 0 < size) (text : List UInt8) :
    (JsonWriter.append ⟨memory, size, 0, true⟩ text).Holds memory size text := by
  have hroom : ¬ ((!true || decide (size ≤ 0)) = true) := by simp [hsize.ne']
  unfold JsonWriter.append
  dsimp only
  rw [if_neg hroom, Nat.sub_zero, Nat.zero_add]
  by_cases hover : size ≤ text.length
  · rw [if_pos hover]
    exact ⟨rfl, rfl, ⟨fun h => absurd h Bool.false_ne_true, fun h => absurd h (not_lt.mpr hover)⟩,
      fun h => absurd h Bool.false_ne_true⟩
  · rw [if_neg hover]
    exact ⟨rfl, rfl, ⟨fun _ => not_le.mp hover, fun _ => rfl⟩, fun _ => rfl⟩

/-- The first text that does not fit is cut where the whole text is cut, and later ones change nothing. -/
theorem JsonWriter.Holds.append (h : writer.Holds memory size text) (more : List UInt8) :
    (writer.append more).Holds memory size (text ++ more) := by
  obtain ⟨hcapacity, houtput, hvalid, hused⟩ := h
  unfold JsonWriter.append
  by_cases hflag : writer.valid = true
  · have hfits := hvalid.mp hflag
    have hroom : ¬ ((!true || decide (size ≤ text.length)) = true) := by simpa using hfits
    have hprint := @Memory.print_append size memory 0 text more hfits
    rw [Nat.zero_add] at hprint
    rw [hflag, hused hflag, hcapacity, houtput, if_neg hroom]
    dsimp only
    by_cases hover : size - text.length ≤ more.length
    · rw [if_pos hover]
      refine ⟨rfl, hprint, ⟨fun h => absurd h Bool.false_ne_true, ?_⟩,
        fun h => absurd h Bool.false_ne_true⟩
      rw [List.length_append]
      omega
    · rw [if_neg hover]
      refine ⟨rfl, hprint, ⟨fun _ => ?_, fun _ => rfl⟩, fun _ => List.length_append.symm⟩
      rw [List.length_append]
      omega
  · have hover : size ≤ text.length := not_lt.mp fun hfits => hflag (hvalid.mpr hfits)
    rw [if_pos (by simp [hflag])]
    refine ⟨hcapacity, ?_, ⟨fun h => absurd h Bool.false_ne_true, ?_⟩,
      fun h => absurd h Bool.false_ne_true⟩
    · rw [houtput]
      apply Memory.print_cut
      rw [List.take_append_of_le_length (by omega)]
    · rw [List.length_append]
      omega

theorem literalText_plain {text : String} (h : Plain (codes text)) :
    literalText text = plainBytes (codes text) :=
  toUTF8_ascii fun code hcode => Nat.lt_of_le_of_lt (h code hcode).2 (by decide)

theorem appendNumber_eq (writer : JsonWriter) (value : CFloat) :
    writer.appendNumber value = writer.append (plainBytes (measurementText value)) := by
  unfold JsonWriter.appendNumber printGeneral
  cases hvalue : value.value.toNumber? with
  | none => rw [(measurementJson_none hvalue).1, literalText_plain (by decide)]
  | some number => rw [(measurementJson_finite hvalue).1]

theorem appendQuality_eq (writer : JsonWriter) {name : String} (qualityValue : IiotSampleQuality)
    (trailing : Bool) (hname : Plain (codes name)) :
    writer.appendQuality name qualityValue trailing =
      writer.append (plainBytes (sampleQualityText name qualityValue trailing)) := by
  have hstatus := literalText_plain (plain_statusName qualityValue.status).2
  have htrailing : literalText (if trailing then "," else "") =
      plainBytes (codes (if trailing then "," else "")) := by
    apply literalText_plain
    cases trailing <;> decide
  unfold JsonWriter.appendQuality sampleQualityText printUnsigned
  simp only [plainBytes_append]
  rw [hstatus, htrailing, literalText_plain hname, literalText_plain (by decide),
    literalText_plain (by decide), literalText_plain (by decide), literalText_plain (by decide),
    literalText_plain (by decide)]

/-- Names with a comma before each but the first of all. -/
def joinedNames (first : Bool) (names : List String) : Text :=
  if first then commaJoin (names.map fun name => quoted (codes name))
  else (names.map fun name => quoted (codes name)).flatMap (44 :: ·)

theorem joinedNames_cons (first : Bool) (name : String) (names : List String) :
    joinedNames first (name :: names) =
      codes (if first then "" else ",") ++ codes "\"" ++ codes name ++ codes "\"" ++
        joinedNames false names := by
  unfold joinedNames
  cases first with
  | true =>
      rw [if_pos rfl, List.map_cons, commaJoin_cons]
      rfl
  | false =>
      rw [if_neg Bool.false_ne_true, List.map_cons, List.flatMap_cons]
      rfl

theorem JsonWriter.Holds.appendFaultNames {values : List FaultName} {first : Bool} {flags : UInt32}
    (hplain : ∀ value ∈ values, Plain (codes value.name)) (h : writer.Holds memory size text) :
    (JsonWriter.appendFaultNames flags values first writer).Holds memory size
      (text ++ plainBytes (joinedNames first
        ((values.filter fun value => flags &&& value.flag ≠ 0).map (·.name)))) := by
  induction values generalizing first writer text with
  | nil =>
      have hempty : joinedNames first [] = [] := by cases first <;> rfl
      rw [List.filter_nil, List.map_nil, hempty]
      exact (List.append_nil text).symm ▸ h
  | cons value values ih =>
      have hname := hplain value List.mem_cons_self
      have hrest := fun value' hvalue' => hplain value' (.tail _ hvalue')
      unfold JsonWriter.appendFaultNames
      by_cases hset : flags &&& value.flag ≠ 0
      · have hcomma : literalText (if first then "" else ",") =
            plainBytes (codes (if first then "" else ",")) := by
          apply literalText_plain
          cases first <;> decide
        have happended := h.append (literalText (if first then "" else ",") ++ literalText "\"" ++
          literalText value.name ++ literalText "\"")
        have hnext := @ih _ _ false hrest happended
        rw [hcomma, literalText_plain hname, literalText_plain (by decide), List.append_assoc text,
          ← plainBytes_append, ← plainBytes_append, ← plainBytes_append, ← plainBytes_append,
          ← joinedNames_cons] at hnext
        rw [if_pos hset, List.filter_cons_of_pos (by simpa using hset), List.map_cons, hcomma,
          literalText_plain hname, literalText_plain (by decide), ← plainBytes_append,
          ← plainBytes_append, ← plainBytes_append]
        exact hnext
      · rw [if_neg hset, List.filter_cons_of_neg (by simpa using hset)]
        exact ih hrest h

theorem JsonWriter.Holds.appendFaults (h : writer.Holds memory size text) (flags : UInt32) :
    (writer.appendFaults flags).Holds memory size (text ++ plainBytes (faultsText flags)) := by
  have hplain : ∀ value ∈ faultNames, Plain (codes value.name) := by decide
  have htext : plainBytes (faultsText flags) =
      literalText "[" ++ plainBytes (joinedNames true (setFaults flags)) ++ literalText "]" := by
    rw [literalText_plain (by decide), literalText_plain (by decide), ← plainBytes_append,
      ← plainBytes_append]
    rfl
  have hnames : (JsonWriter.appendFaultNames flags faultNames true
      (writer.append (literalText "["))).Holds memory size
        (text ++ literalText "[" ++ plainBytes (joinedNames true (setFaults flags))) :=
    (h.append (literalText "[")).appendFaultNames hplain
  rw [htext, ← List.append_assoc, ← List.append_assoc]
  exact hnames.append (literalText "]")

theorem JsonWriter.Holds.result {document : List UInt8} (h : writer.Holds memory size text)
    (htext : text = document) :
    (writer.valid, writer.output) = (decide (document.length < size), memory.print 0 size document) := by
  rw [htext] at h
  exact Prod.ext (Bool.eq_iff_iff.mpr (h.valid.trans decide_eq_true_iff.symm)) h.output

end Writer

/-! ### The document -/

/-- The document that a record of valid identifiers stands for, in bytes. -/
def IiotTelemetry.document (telemetry : IiotTelemetry) : List UInt8 :=
  telemetryDocument plainBytes telemetry.strings telemetry

/-- The appends leave what one `snprintf` of the document would. -/
theorem iiotSerializeTelemetry_eq {telemetry : IiotTelemetry} (output : Memory) (outputSize : Nat)
    (hsite : (cString telemetry.siteId).identifierIsValid = true)
    (hdevice : (cString telemetry.deviceId).identifierIsValid = true)
    (hmessage : (cText telemetry.messageId).length = 36) :
    iiotSerializeTelemetry telemetry output outputSize =
      (decide (telemetry.document.length < outputSize), output.print 0 outputSize telemetry.document) := by
  rcases Nat.eq_zero_or_pos outputSize with rfl | hpos
  · unfold iiotSerializeTelemetry
    rw [if_pos (by simp)]
    have hsame : output.print 0 0 telemetry.document = output := by
      funext address
      exact Memory.print_after (Nat.zero_le _)
    rw [hsame]
    simp
  · have haccepted : ¬ ((outputSize = 0 || !(cString telemetry.siteId).identifierIsValid ||
        !(cString telemetry.deviceId).identifierIsValid ||
          decide ((cText telemetry.messageId).length ≠ 36)) = true) := by
      simp [hsite, hdevice, hmessage, hpos.ne']
    unfold iiotSerializeTelemetry
    rw [if_neg haccepted]
    dsimp only
    have hbool : ∀ value : Bool, literalBool value =
        plainBytes (codes (if value then "true" else "false")) := fun value =>
      literalText_plain (plain_bool value)
    have hquality := literalText_plain (plain_overallQuality telemetry.measurements).2
    rw [← apply_ite (JsonWriter.append _), appendQuality_eq _ _ _ (by decide),
      appendQuality_eq _ _ _ (by decide), appendQuality_eq _ _ _ (by decide)]
    simp only [appendNumber_eq]
    refine JsonWriter.Holds.result ((((((((((((((((((((holds_start hpos _).append _).append _).append
      _).append _).append _).append _).append _).append _).append _).append _).append _).append _).append
      _).append _).append _).append _).append _).appendFaults _).append _) ?_
    unfold IiotTelemetry.document telemetryDocument closingText IiotTelemetry.strings
    simp (disch := decide) only [hbool, hquality, literalText_plain, plainBytes_append, printUnsigned,
      List.append_assoc]

/-- The strings of the record, a character for each byte. -/
def IiotTelemetry.texts (telemetry : IiotTelemetry) : TelemetryStrings Nat where
  messageId := byteCodes telemetry.strings.messageId
  siteId := byteCodes telemetry.strings.siteId
  deviceId := byteCodes telemetry.strings.deviceId
  deviceTime := byteCodes telemetry.strings.deviceTime
  firmwareVersion := byteCodes telemetry.strings.firmwareVersion

/-- A record with valid identifiers and with strings that end and need no escape. The time is written
where the clock is synchronised. -/
structure IiotTelemetry.Recorded (telemetry : IiotTelemetry) : Prop where
  siteId : (cString telemetry.siteId).identifierIsValid = true
  deviceId : (cString telemetry.deviceId).identifierIsValid = true
  messageId : (cText telemetry.messageId).length = 36 ∧ CleanBytes (cText telemetry.messageId)
  deviceTime : telemetry.clockSynchronized = true →
    (cText telemetry.deviceTime).length < 32 ∧ CleanBytes (cText telemetry.deviceTime)
  firmwareVersion : (cText telemetry.firmwareVersion).length < 49 ∧
    CleanBytes (cText telemetry.firmwareVersion)

theorem Identifier.cleanBytes {bytes : List UInt8} (h : Identifier (bytes.map UInt8.toNat)) :
    CleanBytes bytes := by
  intro byte hbyte
  have hcode := h.codes _ (List.mem_map_of_mem hbyte)
  unfold IdentifierCode at hcode
  rw [UInt8.le_iff_toNat_le, ne_eq, ne_eq, ← UInt8.toNat_inj, ← UInt8.toNat_inj]
  simp only [UInt8.reduceToNat]
  omega

namespace IiotTelemetry.Recorded

variable {telemetry : IiotTelemetry}

theorem stringsEnd (h : telemetry.Recorded) : telemetry.StringsEnd where
  messageId := h.messageId.1
  siteId := by
    have hlength := ((identifierIsValid_codes _).mp h.siteId).length
    rwa [List.length_map] at hlength
  deviceId := by
    have hlength := ((identifierIsValid_codes _).mp h.deviceId).length
    rwa [List.length_map] at hlength
  deviceTime hclock := (h.deviceTime hclock).1
  firmwareVersion := h.firmwareVersion.1

/-- However its strings are decoded, the characters need no escape. -/
theorem clean (h : telemetry.Recorded) {decoding : CharacterDecoding} {texts : TelemetryStrings Nat}
    (htexts : telemetry.strings.DecodesAs decoding texts telemetry.clockSynchronized) :
    texts.Clean telemetry.clockSynchronized where
  messageId := decoding.clean _ _ h.messageId.2 htexts.messageId
  siteId := decoding.clean _ _ ((identifierIsValid_codes _).mp h.siteId).cleanBytes htexts.siteId
  deviceId := decoding.clean _ _ ((identifierIsValid_codes _).mp h.deviceId).cleanBytes htexts.deviceId
  deviceTime hclock := decoding.clean _ _ (h.deviceTime hclock).2 (htexts.deviceTime hclock)
  firmwareVersion := decoding.clean _ _ h.firmwareVersion.2 htexts.firmwareVersion

theorem parse_document (h : telemetry.Recorded) {limits : JsonLimits} (hnesting : 3 ≤ limits.nesting)
    (hdigits : 20 ≤ limits.digits) {decoding : CharacterDecoding} {texts : TelemetryStrings Nat}
    (htexts : telemetry.strings.DecodesAs decoding texts telemetry.clockSynchronized) :
    ∃ text, decoding.decode telemetry.document = some text ∧
      parseJson limits text = .ok (telemetryJson texts telemetry) :=
  ⟨_, telemetryDocument_decode htexts, telemetryDocument_parse (h.clean htexts) hnesting hdigits⟩

end IiotTelemetry.Recorded

/-- The document starts with a brace, and so it is no other encoding. -/
theorem decodeText_document (telemetry : IiotTelemetry) :
    decodeText telemetry.document = decodeUtf8 telemetry.document := by
  have hstart : ∃ rest, telemetry.document = 123 :: 34 :: 115 :: 99 :: rest := by
    unfold IiotTelemetry.document telemetryDocument
    simp only [List.append_assoc]
    exact ⟨_, rfl⟩
  obtain ⟨rest, hrest⟩ := hstart
  have hencoding : detectEncoding (123 :: 34 :: 115 :: 99 :: rest) = (.utf8, 0) := rfl
  unfold decodeText
  rw [hrest, hencoding]
  rfl

theorem texts_decode (telemetry : IiotTelemetry) :
    telemetry.strings.DecodesAs byteDecoding telemetry.texts telemetry.clockSynchronized :=
  ⟨rfl, rfl, rfl, fun _ => rfl, rfl⟩

theorem jsonLoads_document {telemetry : IiotTelemetry} (h : telemetry.Recorded) {limits : JsonLimits}
    (hnesting : 3 ≤ limits.nesting) (hdigits : 20 ≤ limits.digits) {texts : TelemetryStrings Nat}
    (htexts : telemetry.strings.DecodesAs utf8Decoding texts telemetry.clockSynchronized) :
    jsonLoads limits telemetry.document = .ok (telemetryJson texts telemetry) := by
  obtain ⟨text, hdecode, hparse⟩ := h.parse_document hnesting hdigits htexts
  rw [utf8Decoding_decode] at hdecode
  unfold jsonLoads
  rw [decodeText_document, hdecode]
  exact hparse

/-- The number of a finite measurement is the measurement to five significant digits. -/
theorem measurementJson_rounds {value : CFloat} {number : ℚ}
    (h : value.value.toNumber? = some number) :
    ∃ written, measurementJson value = .number written ∧ RoundsTo 4 number written.value := by
  refine ⟨_, (measurementJson_finite h).2, ?_⟩
  have hrounds := generalNumber_roundsTo 4 value.signBit (abs_nonneg number)
  rwa [← (finite_range h).1] at hrounds

theorem parseJson_document {telemetry : IiotTelemetry} (h : telemetry.Recorded) {limits : JsonLimits}
    (hnesting : 3 ≤ limits.nesting) (hdigits : 20 ≤ limits.digits) :
    parseJson limits (byteCodes telemetry.document) = .ok (telemetryJson telemetry.texts telemetry) := by
  obtain ⟨text, hdecode, hparse⟩ := h.parse_document hnesting hdigits (texts_decode telemetry)
  rw [byteDecoding_decode, Option.some.injEq] at hdecode
  rw [hdecode]
  exact hparse

/-- What one `snprintf` returns and writes. -/
theorem print_complete {output : Memory} {size : Nat} {document : List UInt8} {result : Bool × Memory}
    (h : result = (decide (document.length < size), output.print 0 size document)) :
    (result.1 = true ↔ document.length + 1 ≤ size) ∧
      (∀ address, size ≤ address → result.2 address = output address) ∧
      (result.1 = true →
        (List.range document.length).map result.2 = document ∧ result.2 document.length = 0) := by
  rw [h]
  refine ⟨decide_eq_true_iff, ?_, ?_⟩
  · intro address haddress
    apply Memory.print_after
    omega
  · intro hfits
    have hwritten := @Memory.print_fits output 0 size _ (of_decide_eq_true hfits)
    simp only [Nat.zero_add] at hwritten
    exact hwritten

/-- A record is written whole or refused, nothing is written past the buffer, and what is written is
read as the record. Every record fits into `IIOT_JSON_MAX` bytes. -/
theorem iiotSerializeTelemetry_complete {telemetry : IiotTelemetry} (h : telemetry.Recorded)
    {limits : JsonLimits} (hnesting : 3 ≤ limits.nesting) (hdigits : 20 ≤ limits.digits)
    (output : Memory) (outputSize : Nat) :
    ((iiotSerializeTelemetry telemetry output outputSize).1 = true ↔
        telemetry.document.length + 1 ≤ outputSize) ∧
      (∀ address, outputSize ≤ address →
        (iiotSerializeTelemetry telemetry output outputSize).2 address = output address) ∧
      ((iiotSerializeTelemetry telemetry output outputSize).1 = true →
        (List.range telemetry.document.length).map
            (iiotSerializeTelemetry telemetry output outputSize).2 = telemetry.document ∧
          (iiotSerializeTelemetry telemetry output outputSize).2 telemetry.document.length = 0) ∧
      (iiotSerializeTelemetry telemetry output iiotJsonMax).1 = true ∧
      parseJson limits (byteCodes telemetry.document) = .ok (telemetryJson telemetry.texts telemetry) ∧
      (∀ texts, telemetry.strings.DecodesAs utf8Decoding texts telemetry.clockSynchronized →
        jsonLoads limits telemetry.document = .ok (telemetryJson texts telemetry)) ∧
      (∀ value : CFloat, value.value.toNumber? = none → measurementJson value = .null) ∧
      (∀ (value : CFloat) (number : ℚ), value.value.toNumber? = some number →
        ∃ written, measurementJson value = .number written ∧ RoundsTo 4 number written.value) := by
  have hprint := fun size =>
    iiotSerializeTelemetry_eq output size h.siteId h.deviceId h.messageId.1
  have hlength : telemetry.document.length < iiotJsonMax := length_telemetryDocument h.stringsEnd
  obtain ⟨hreturned, hbeyond, hwritten⟩ := print_complete (hprint outputSize)
  refine ⟨hreturned, hbeyond, hwritten, ?_, parseJson_document h hnesting hdigits, ?_, ?_, ?_⟩
  · exact (print_complete (hprint iiotJsonMax)).1.mpr hlength
  · exact fun texts htexts => jsonLoads_document h hnesting hdigits htexts
  · exact fun value hvalue => (measurementJson_none hvalue).2
  · exact fun value number hvalue => measurementJson_rounds hvalue

/-- A record of an unsynchronised clock, without measurements and with two faults. -/
def sparseTelemetry : IiotTelemetry where
  messageId := printText (Vector.replicate 37 0) (plainBytes (codes "00000000-0000-4000-8000-000000000042"))
  siteId := printText (Vector.replicate 64 0) (plainBytes (codes "workshop-demo"))
  deviceId := printText (Vector.replicate 64 0) (plainBytes (codes "motor-01"))
  firmwareVersion := printText (Vector.replicate 49 0) (plainBytes (codes "1.0.0"))
  deviceTime := Vector.replicate 32 0
  sequence := 42
  uptimeMs := 1000
  clockSynchronized := false
  replayed := false
  measurements :=
    { temperatureC := ⟨0x7fc00000⟩
      currentA := ⟨0x7fc00000⟩
      vibrationRmsMps2 := ⟨0x7fc00000⟩
      vibrationPeakMps2 := ⟨0x7fc00000⟩
      vibrationCrestFactor := ⟨0x7fc00000⟩
      temperatureQuality := ⟨.missing, 0, 10⟩
      currentQuality := ⟨.missing, 0, 10⟩
      vibrationQuality := ⟨.missing, 0, 10⟩ }
  faultFlags := 40

set_option maxRecDepth 4000 in
theorem sparseTelemetry_recorded : sparseTelemetry.Recorded where
  siteId := by decide
  deviceId := by decide
  messageId := by decide
  deviceTime h := absurd h (by decide)
  firmwareVersion := by decide

theorem iiotSerializeTelemetry_complete_sparse :
    (iiotSerializeTelemetry sparseTelemetry (fun _ => 170) iiotJsonMax).1 = true ∧
      (iiotSerializeTelemetry sparseTelemetry (fun _ => 170) 600).2 600 = 170 ∧
      parseJson ⟨3, 20⟩ (byteCodes sparseTelemetry.document) =
        .ok (telemetryJson sparseTelemetry.texts sparseTelemetry) := by
  obtain ⟨-, hbeyond, -, hsufficient, hparse, -⟩ := iiotSerializeTelemetry_complete
    sparseTelemetry_recorded (show 3 ≤ (JsonLimits.mk 3 20).nesting from le_refl 3)
    (show 20 ≤ (JsonLimits.mk 3 20).digits from le_refl 20) (fun _ => 170) 600
  exact ⟨hsufficient, hbeyond 600 (le_refl 600), hparse⟩

end IiotMonitoring
