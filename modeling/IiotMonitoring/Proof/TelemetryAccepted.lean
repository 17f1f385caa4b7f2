import IiotMonitoring.Lib.Binary64
import IiotMonitoring.Proof.PublishedAck
import IiotMonitoring.Proof.Serialize

/-!
# Telemetry documents the server accepts

What the model of a telemetry message makes of the document of a record. A document is refused only for
a measurement that is read outside of its range, or for a time that is no `datetime`.
-/

namespace IiotMonitoring

/-- What pydantic documents of the values in a document: a number is read as the nearest double, where one
beyond all doubles may be refused, the text of a UUID is the UUID, and an ISO 8601 text is its time, where
the year has four digits. -/
structure PydanticScalars.ReadsDocuments (scalars : PydanticScalars) : Prop where
  lax : scalars.Lax
  float_number : ∀ number : JsonNumber, scalars.float (.number number) = some (binary64 number.value) ∨
    scalars.float (.number number) = none ∧ ∃ negative, binary64 number.value = .infinity negative
  uuid : ∀ text : String, isUuidText text.toList = true →
    scalars.uuid (.string (codes text)) = some text
  datetime : ∀ time : Int, datetimeMin ≤ time → time ≤ datetimeMax →
    scalars.datetime (.string (codes (zuluText time))) = some time
  datetime_year : ∀ (year : Nat) (rest : List Char), 10000 ≤ year →
    scalars.datetime (.string (codes (String.ofList (Nat.toDigits 10 year ++ '-' :: rest)))) = none

/-! ### Measurements -/

/-- The number that is written for a measurement. -/
def writtenNumber (value : CFloat) (number : ℚ) : ℚ := (generalNumber 4 value.signBit |number|).value

/-- What the server reads of it. -/
def readMeasurement (value : CFloat) : Option (FloatNumber ℚ) :=
  value.value.toNumber?.map fun number => binary64 (writtenNumber value number)

/-- What is read of a measurement is in the range. -/
def ReadWithin (low high : ℚ) (value : CFloat) : Prop :=
  ∀ number, value.value.toNumber? = some number →
    (binary64 (writtenNumber value number)).within low high = true

section Scalars

variable {scalars : PydanticScalars}

theorem measurementField_number (h : scalars.ReadsDocuments) (low high : ℚ) (number : JsonNumber) :
    measurementField scalars low high (.number number) =
      if (binary64 number.value).within low high then some (some (binary64 number.value)) else none := by
  change ((scalars.float (.number number)).filter (FloatNumber.within low high)).map some = _
  rcases h.float_number number with hread | ⟨hnone, negative, hinfinity⟩
  · rw [hread, Option.filter_some]
    split_ifs
    · rfl
    · rfl
  · rw [hnone, hinfinity, FloatNumber.within_infinity]
    rfl

theorem measurementField_of_readWithin (h : scalars.ReadsDocuments) {low high : ℚ} {value : CFloat}
    (hwithin : ReadWithin low high value) :
    measurementField scalars low high (measurementJson value) = some (readMeasurement value) := by
  cases hvalue : value.value.toNumber? with
  | none =>
      rw [(measurementJson_none hvalue).2, readMeasurement, hvalue]
      rfl
  | some number =>
      rw [(measurementJson_finite hvalue).2, readMeasurement, hvalue, measurementField_number h]
      exact if_pos (hwithin number hvalue)

theorem readWithin_of_measurementField (h : scalars.ReadsDocuments) {low high : ℚ} {value : CFloat}
    {read : Option (FloatNumber ℚ)}
    (hread : measurementField scalars low high (measurementJson value) = some read) :
    ReadWithin low high value := by
  intro number hvalue
  rw [(measurementJson_finite hvalue).2, measurementField_number h, Option.ite_some_none_eq_some] at hread
  exact hread.1

/-- The measurements of a record are read in the ranges of the server. -/
structure IiotMeasurements.ReadWithin (measurements : IiotMeasurements) : Prop where
  temperature : IiotMonitoring.ReadWithin (-80) 200 measurements.temperatureC
  rms : IiotMonitoring.ReadWithin 0 2000 measurements.vibrationRmsMps2
  peak : IiotMonitoring.ReadWithin 0 4000 measurements.vibrationPeakMps2
  crest : IiotMonitoring.ReadWithin 0 100 measurements.vibrationCrestFactor
  current : IiotMonitoring.ReadWithin minimumCurrent 10 measurements.currentA

def readMeasurements (measurements : IiotMeasurements) : Measurements where
  temperatureC := readMeasurement measurements.temperatureC
  vibrationRmsMps2 := readMeasurement measurements.vibrationRmsMps2
  vibrationPeakMps2 := readMeasurement measurements.vibrationPeakMps2
  vibrationCrestFactor := readMeasurement measurements.vibrationCrestFactor
  currentA := readMeasurement measurements.currentA

/-- The `measurements` of a document. -/
def measurementsJson (measurements : IiotMeasurements) : Json :=
  .object
    [(codes "temperature_c", measurementJson measurements.temperatureC),
      (codes "vibration_rms_mps2", measurementJson measurements.vibrationRmsMps2),
      (codes "vibration_peak_mps2", measurementJson measurements.vibrationPeakMps2),
      (codes "vibration_crest_factor", measurementJson measurements.vibrationCrestFactor),
      (codes "current_a", measurementJson measurements.currentA)]

theorem validateMeasurements_read (h : scalars.ReadsDocuments) {measurements : IiotMeasurements}
    (hwithin : measurements.ReadWithin) :
    validateMeasurements scalars (measurementsJson measurements) =
      some (readMeasurements measurements) := by
  unfold validateMeasurements
  refine Option.bind_eq_some_iff.mpr ⟨_, rfl, ?_⟩
  refine Option.bind_eq_some_iff.mpr ⟨_, (requiredField_of_member rfl _).trans
    (measurementField_of_readWithin h hwithin.temperature), ?_⟩
  refine Option.bind_eq_some_iff.mpr ⟨_, (requiredField_of_member rfl _).trans
    (measurementField_of_readWithin h hwithin.rms), ?_⟩
  refine Option.bind_eq_some_iff.mpr ⟨_, (requiredField_of_member rfl _).trans
    (measurementField_of_readWithin h hwithin.peak), ?_⟩
  refine Option.bind_eq_some_iff.mpr ⟨_, (requiredField_of_member rfl _).trans
    (measurementField_of_readWithin h hwithin.crest), ?_⟩
  exact Option.bind_eq_some_iff.mpr ⟨_, (requiredField_of_member rfl _).trans
    (measurementField_of_readWithin h hwithin.current), rfl⟩

/-- A record whose measurements are accepted has a root mean square that is read in its range. -/
theorem rms_of_validateMeasurements (h : scalars.ReadsDocuments) {measurements : IiotMeasurements}
    {read : Measurements} (hread : validateMeasurements scalars (measurementsJson measurements) = some read) :
    ReadWithin 0 2000 measurements.vibrationRmsMps2 := by
  unfold validateMeasurements at hread
  obtain ⟨members, hmembers, hread⟩ := Option.bind_eq_some_iff.mp hread
  obtain ⟨_, -, hread⟩ := Option.bind_eq_some_iff.mp hread
  obtain ⟨rms, hrms, -⟩ := Option.bind_eq_some_iff.mp hread
  obtain rfl := Json.object.inj (modelMembers_eq hmembers)
  rw [requiredField_of_member rfl] at hrms
  exact readWithin_of_measurementField h hrms

/-! ### Qualities -/

/-- What is read of a quality. -/
def readQuality (qualityValue : IiotSampleQuality) : SensorQuality where
  status := iiotSensorStatusName qualityValue.status
  validSamples := qualityValue.validSamples.toNat
  expectedSamples := qualityValue.expectedSamples.toNat
  errorCode := none

theorem natField_ofNat (h : scalars.Lax) {low count : Nat} (hlow : low ≤ count) :
    natField scalars low (.number (.ofNat count)) = some count := by
  have hint : scalars.int (.number (.ofNat count)) = some (count : Int) := by
    rw [h.int_number _ rfl, value_ofNat, Rat.num_natCast]
  rw [natField, hint, Option.filter_some, if_pos (decide_eq_true (by exact_mod_cast hlow))]
  rfl

theorem literalField_statusName (status : IiotSensorStatus) :
    literalField id sensorStatuses (.string (codes (iiotSensorStatusName status))) =
      some (iiotSensorStatusName status) := by
  cases status <;> rfl

theorem validateSensorQuality_read (h : scalars.Lax) {qualityValue : IiotSampleQuality}
    (hexpected : 1 ≤ qualityValue.expectedSamples.toNat) :
    validateSensorQuality scalars (sampleQualityJson qualityValue) = some (readQuality qualityValue) := by
  unfold validateSensorQuality
  refine Option.bind_eq_some_iff.mpr ⟨_, rfl, ?_⟩
  refine Option.bind_eq_some_iff.mpr ⟨_, (requiredField_of_member rfl _).trans
    (literalField_statusName _), ?_⟩
  refine Option.bind_eq_some_iff.mpr ⟨_, (requiredField_of_member rfl _).trans
    (natField_ofNat h (Nat.zero_le _)), ?_⟩
  refine Option.bind_eq_some_iff.mpr ⟨_, (requiredField_of_member rfl _).trans
    (natField_ofNat h hexpected), ?_⟩
  exact Option.bind_eq_some_iff.mpr ⟨none, rfl, rfl⟩

/-- Every channel expects a sample. -/
structure IiotMeasurements.Expected (measurements : IiotMeasurements) : Prop where
  temperature : 1 ≤ measurements.temperatureQuality.expectedSamples.toNat
  vibration : 1 ≤ measurements.vibrationQuality.expectedSamples.toNat
  current : 1 ≤ measurements.currentQuality.expectedSamples.toNat

def readQualities (measurements : IiotMeasurements) : SampleQuality where
  temperature := readQuality measurements.temperatureQuality
  vibration := readQuality measurements.vibrationQuality
  current := readQuality measurements.currentQuality

theorem validateSampleQuality_read (h : scalars.Lax) {measurements : IiotMeasurements}
    (hexpected : measurements.Expected) :
    validateSampleQuality scalars (.object
        [(codes "temperature", sampleQualityJson measurements.temperatureQuality),
          (codes "vibration", sampleQualityJson measurements.vibrationQuality),
          (codes "current", sampleQualityJson measurements.currentQuality)]) =
      some (readQualities measurements) := by
  unfold validateSampleQuality
  refine Option.bind_eq_some_iff.mpr ⟨_, rfl, ?_⟩
  refine Option.bind_eq_some_iff.mpr ⟨_, (requiredField_of_member rfl _).trans
    (validateSensorQuality_read h hexpected.temperature), ?_⟩
  refine Option.bind_eq_some_iff.mpr ⟨_, (requiredField_of_member rfl _).trans
    (validateSensorQuality_read h hexpected.vibration), ?_⟩
  exact Option.bind_eq_some_iff.mpr ⟨_, (requiredField_of_member rfl _).trans
    (validateSensorQuality_read h hexpected.current), rfl⟩

theorem literalField_quality (measurements : IiotMeasurements) :
    ∃ quality : Quality, quality.text = measurements.overallQuality ∧
      literalField Quality.text [.good, .degraded, .bad] (.string (codes measurements.overallQuality)) =
        some quality := by
  unfold IiotMeasurements.overallQuality
  dsimp only
  split_ifs
  · exact ⟨.bad, rfl, rfl⟩
  · exact ⟨.degraded, rfl, rfl⟩
  · exact ⟨.good, rfl, rfl⟩

/-- The names of the faults are read, whatever pydantic makes of a string. -/
theorem textsField_faults (h : scalars.Lax) (flags : UInt32) :
    ∃ names, textsField scalars 32 (.array ((setFaults flags).map fun name => .string (codes name))) =
      some names := by
  have hstrings : ∀ names : List String,
      ∃ read, (names.map fun name => Json.string (codes name)).mapM scalars.string = some read := by
    intro names
    induction names with
    | nil => exact ⟨[], rfl⟩
    | cons name names ih =>
        obtain ⟨read, hread⟩ := ih
        obtain ⟨text, htext⟩ := Option.isSome_iff_exists.mp
          ((h.string_iff (.string (codes name))).mpr ⟨_, rfl⟩)
        refine ⟨text :: read, ?_⟩
        rw [List.map_cons, List.mapM_cons, htext, hread]
        rfl
  have hlength : ((setFaults flags).map fun name => Json.string (codes name)).length ≤ 32 := by
    rw [List.length_map]
    calc (setFaults flags).length
        = (faultNames.filter fun fault => flags &&& fault.flag ≠ 0).length := List.length_map _
      _ ≤ faultNames.length := List.length_filter_le _ _
      _ ≤ 32 := by decide
  obtain ⟨names, hnames⟩ := hstrings (setFaults flags)
  exact ⟨names, (if_pos hlength).trans hnames⟩

/-! ### Records -/

/-- The texts of a record. The time is written where the clock is synchronised. -/
structure RecordTexts where
  messageId : String
  siteId : String
  deviceId : String
  deviceTime : Option String
  firmwareVersion : String

def RecordTexts.strings (texts : RecordTexts) : TelemetryStrings Nat where
  messageId := codes texts.messageId
  siteId := codes texts.siteId
  deviceId := codes texts.deviceId
  deviceTime := codes (texts.deviceTime.getD "")
  firmwareVersion := codes texts.firmwareVersion

/-- Texts as a gateway has them. -/
structure RecordTexts.Valid (texts : RecordTexts) : Prop where
  messageId : isUuidText texts.messageId.toList = true
  siteId : identifierPattern (codes texts.siteId) = true
  deviceId : identifierPattern (codes texts.deviceId) = true
  firmwareVersion : texts.firmwareVersion.length ≤ 48

/-- What the server reads of a record. -/
structure ReadsRecord (scalars : PydanticScalars) (texts : RecordTexts) (telemetry : IiotTelemetry)
    (envelope : TelemetryEnvelope) : Prop where
  messageId : envelope.messageId = texts.messageId
  siteId : envelope.siteId = texts.siteId
  deviceId : envelope.deviceId = texts.deviceId
  sequence : envelope.sequence = telemetry.sequence.toNat
  clockSynchronized : envelope.clockSynchronized = telemetry.clockSynchronized
  uptimeMs : envelope.uptimeMs = telemetry.uptimeMs.toNat
  firmwareVersion : envelope.firmwareVersion = texts.firmwareVersion
  replayed : envelope.replayed = telemetry.replayed
  faultFlags : textsField scalars 32
    (.array ((setFaults telemetry.faultFlags).map fun name => .string (codes name))) =
      some envelope.faultFlags
  quality : envelope.quality.text = telemetry.measurements.overallQuality
  measurements : envelope.measurements = readMeasurements telemetry.measurements
  sampleQuality : envelope.sampleQuality = readQualities telemetry.measurements

theorem boundedString_of_lax (h : scalars.Lax) (text : String) :
    scalars.boundedString (.string (codes text)) = some text :=
  (h.boundedString_iff _ _).mpr rfl

theorem identifierField_codes (h : scalars.Lax) {text : String}
    (htext : identifierPattern (codes text) = true) :
    identifierField scalars (.string (codes text)) = some text := by
  rw [identifierField, boundedString_of_lax h, Option.filter_some, if_pos htext]

theorem textField_codes (h : scalars.Lax) {length : Nat} {text : String} (htext : text.length ≤ length) :
    textField scalars length (.string (codes text)) = some text := by
  rw [textField, boundedString_of_lax h, Option.filter_some, if_pos (decide_eq_true htext)]

/-- The `device_time` of a document. -/
theorem deviceTime_json (texts : RecordTexts) :
    (if texts.deviceTime.isSome then Json.string texts.strings.deviceTime else .null) =
      timeJson texts.deviceTime := by
  unfold RecordTexts.strings timeJson
  cases texts.deviceTime <;> rfl

theorem validateTelemetry_read (h : scalars.ReadsDocuments) {texts : RecordTexts} (htexts : texts.Valid)
    {telemetry : IiotTelemetry} (hclock : telemetry.clockSynchronized = texts.deviceTime.isSome)
    (hwithin : telemetry.measurements.ReadWithin) (hexpected : telemetry.measurements.Expected)
    {deviceTime : Option Int} (htime : timeField scalars (timeJson texts.deviceTime) = some deviceTime) :
    ∃ envelope, validateTelemetry scalars (telemetryJson texts.strings telemetry) = some envelope ∧
      ReadsRecord scalars texts telemetry envelope := by
  obtain ⟨quality, hquality, hliteral⟩ := literalField_quality telemetry.measurements
  obtain ⟨faults, hfaults⟩ := textsField_faults h.lax telemetry.faultFlags
  have hconsistent : clockConsistent telemetry.clockSynchronized deviceTime = true := by
    rw [hclock, clockConsistent, decide_eq_true_iff]
    cases hnow : texts.deviceTime with
    | none =>
        rw [hnow] at htime
        cases htime
        rfl
    | some now =>
        rw [hnow] at htime
        obtain ⟨time, -, rfl⟩ := Option.map_eq_some_iff.mp htime
        rfl
  have hversion : scalars.literalOne (.number (.ofNat 1)) = true :=
    (h.lax.literalOne (.ofNat 1) rfl).mpr (by rw [value_ofNat, Nat.cast_one])
  refine ⟨⟨texts.messageId, texts.siteId, texts.deviceId, telemetry.sequence.toNat, deviceTime,
    telemetry.clockSynchronized, telemetry.uptimeMs.toNat, texts.firmwareVersion, quality,
    telemetry.replayed, readMeasurements telemetry.measurements,
    readQualities telemetry.measurements, faults⟩, ?_,
    ⟨rfl, rfl, rfl, rfl, rfl, rfl, rfl, rfl, hfaults, hquality, rfl, rfl⟩⟩
  rw [validateTelemetry_iff]
  refine ⟨_, rfl, ?_⟩
  constructor
  · exact (requiredField_of_member rfl _).trans (if_pos hversion)
  · exact (requiredField_of_member rfl _).trans (h.uuid _ htexts.messageId)
  · exact (requiredField_of_member rfl _).trans (identifierField_codes h.lax htexts.siteId)
  · exact (requiredField_of_member rfl _).trans (identifierField_codes h.lax htexts.deviceId)
  · exact (requiredField_of_member rfl _).trans (natField_ofNat h.lax (Nat.zero_le _))
  · rw [← deviceTime_json, ← hclock] at htime
    exact (requiredField_of_member rfl _).trans htime
  · exact (requiredField_of_member rfl _).trans (h.lax.bool_bool _)
  · exact (requiredField_of_member rfl _).trans (natField_ofNat h.lax (Nat.zero_le _))
  · exact (requiredField_of_member rfl _).trans (textField_codes h.lax htexts.firmwareVersion)
  · exact (requiredField_of_member rfl _).trans hliteral
  · exact (requiredField_of_member rfl _).trans (h.lax.bool_bool _)
  · exact (requiredField_of_member rfl _).trans (validateMeasurements_read h hwithin)
  · exact (requiredField_of_member rfl _).trans (validateSampleQuality_read h.lax hexpected)
  · exact (requiredField_of_member rfl _).trans hfaults
  · exact hconsistent

/-- A document that is accepted has a root mean square in its range and a time that is read. -/
theorem validateTelemetry_refuses (h : scalars.ReadsDocuments) {texts : RecordTexts}
    {telemetry : IiotTelemetry} (hclock : telemetry.clockSynchronized = texts.deviceTime.isSome)
    {envelope : TelemetryEnvelope}
    (hread : validateTelemetry scalars (telemetryJson texts.strings telemetry) = some envelope) :
    ReadWithin 0 2000 telemetry.measurements.vibrationRmsMps2 ∧
      ∃ deviceTime, timeField scalars (timeJson texts.deviceTime) = some deviceTime := by
  obtain ⟨members, hmembers, hfields⟩ := validateTelemetry_iff.mp hread
  obtain rfl := Json.object.inj (modelMembers_eq hmembers)
  have hmeasurements := hfields.measurements
  have htime := hfields.deviceTime
  rw [requiredField_of_member rfl] at hmeasurements htime
  rw [← deviceTime_json, ← hclock]
  exact ⟨rms_of_validateMeasurements h hmeasurements, _, htime⟩

end Scalars

end IiotMonitoring
