import IiotMonitoring.Firmware.Serialize
import IiotMonitoring.Lib.JsonText
import IiotMonitoring.Lib.JsonWritten

/-!
# What a telemetry document says

The text that a record stands for, as an object of JSON, and how it lies in bytes: the five strings of
the record between characters of ASCII.
-/

namespace IiotMonitoring

/-! ### The object -/

/-- The strings of a record. -/
structure TelemetryStrings (α : Type) where
  messageId : List α
  siteId : List α
  deviceId : List α
  deviceTime : List α
  firmwareVersion : List α

def IiotTelemetry.strings (telemetry : IiotTelemetry) : TelemetryStrings UInt8 where
  messageId := cText telemetry.messageId
  siteId := cText telemetry.siteId
  deviceId := cText telemetry.deviceId
  deviceTime := cText telemetry.deviceTime
  firmwareVersion := cText telemetry.firmwareVersion

/-- Null, or the number rounded to five significant digits. -/
def measurementJson (value : CFloat) : Json :=
  match value.value.toNumber? with
  | some number => .number (generalNumber 4 value.signBit |number|)
  | none => .null

def sampleQualityJson (qualityValue : IiotSampleQuality) : Json :=
  .object
    [(codes "status", .string (codes (iiotSensorStatusName qualityValue.status))),
      (codes "valid_samples", .number (.ofNat qualityValue.validSamples.toNat)),
      (codes "expected_samples", .number (.ofNat qualityValue.expectedSamples.toNat))]

/-- The names of the faults whose bits are set. -/
def setFaults (flags : UInt32) : List String :=
  (faultNames.filter fun fault => flags &&& fault.flag ≠ 0).map (·.name)

/-- What a document says of a record. -/
def telemetryJson (strings : TelemetryStrings Nat) (telemetry : IiotTelemetry) : Json :=
  .object
    [(codes "schema_version", .number (.ofNat 1)),
      (codes "message_id", .string strings.messageId),
      (codes "site_id", .string strings.siteId),
      (codes "device_id", .string strings.deviceId),
      (codes "sequence", .number (.ofNat telemetry.sequence.toNat)),
      (codes "device_time", if telemetry.clockSynchronized then .string strings.deviceTime else .null),
      (codes "clock_synchronized", .bool telemetry.clockSynchronized),
      (codes "uptime_ms", .number (.ofNat telemetry.uptimeMs.toNat)),
      (codes "firmware_version", .string strings.firmwareVersion),
      (codes "quality", .string (codes telemetry.measurements.overallQuality)),
      (codes "replayed", .bool telemetry.replayed),
      (codes "measurements", .object
        [(codes "temperature_c", measurementJson telemetry.measurements.temperatureC),
          (codes "vibration_rms_mps2", measurementJson telemetry.measurements.vibrationRmsMps2),
          (codes "vibration_peak_mps2", measurementJson telemetry.measurements.vibrationPeakMps2),
          (codes "vibration_crest_factor", measurementJson telemetry.measurements.vibrationCrestFactor),
          (codes "current_a", measurementJson telemetry.measurements.currentA)]),
      (codes "sample_quality", .object
        [(codes "temperature", sampleQualityJson telemetry.measurements.temperatureQuality),
          (codes "vibration", sampleQualityJson telemetry.measurements.vibrationQuality),
          (codes "current", sampleQualityJson telemetry.measurements.currentQuality)]),
      (codes "fault_flags", .array ((setFaults telemetry.faultFlags).map fun name => .string (codes name)))]

/-! ### Its text -/

def measurementText (value : CFloat) : Text :=
  match value.value.toNumber? with
  | some number => (generalNumber 4 value.signBit |number|).print
  | none => codes "null"

def measurementMember (key : String) (value : CFloat) : WrittenMember :=
  ⟨key, measurementText value, measurementJson value⟩

def sampleQualityMember (key : String) (qualityValue : IiotSampleQuality) : WrittenMember :=
  .object key
    [.string "status" (codes (iiotSensorStatusName qualityValue.status)),
      .natural "valid_samples" qualityValue.validSamples.toNat,
      .natural "expected_samples" qualityValue.expectedSamples.toNat]

def faultsText (flags : UInt32) : Text :=
  91 :: commaJoin ((setFaults flags).map fun name => quoted (codes name)) ++ [93]

def faultsMember (flags : UInt32) : WrittenMember :=
  ⟨"fault_flags", faultsText flags, .array ((setFaults flags).map fun name => .string (codes name))⟩

def deviceTimeMember (strings : TelemetryStrings Nat) (synchronized : Bool) : WrittenMember :=
  ⟨"device_time", if synchronized then quoted strings.deviceTime else codes "null",
    if synchronized then .string strings.deviceTime else .null⟩

@[simp]
theorem sampleQualityMember_key (key : String) (qualityValue : IiotSampleQuality) :
    (sampleQualityMember key qualityValue).key = key := rfl

@[simp]
theorem deviceTimeMember_key (strings : TelemetryStrings Nat) (synchronized : Bool) :
    (deviceTimeMember strings synchronized).key = "device_time" := rfl

def telemetryMembers (strings : TelemetryStrings Nat) (telemetry : IiotTelemetry) :
    List WrittenMember :=
  [.natural "schema_version" 1,
    .string "message_id" strings.messageId,
    .string "site_id" strings.siteId,
    .string "device_id" strings.deviceId,
    .natural "sequence" telemetry.sequence.toNat,
    deviceTimeMember strings telemetry.clockSynchronized,
    .bool "clock_synchronized" telemetry.clockSynchronized,
    .natural "uptime_ms" telemetry.uptimeMs.toNat,
    .string "firmware_version" strings.firmwareVersion,
    .string "quality" (codes telemetry.measurements.overallQuality),
    .bool "replayed" telemetry.replayed,
    .object "measurements"
      [measurementMember "temperature_c" telemetry.measurements.temperatureC,
        measurementMember "vibration_rms_mps2" telemetry.measurements.vibrationRmsMps2,
        measurementMember "vibration_peak_mps2" telemetry.measurements.vibrationPeakMps2,
        measurementMember "vibration_crest_factor" telemetry.measurements.vibrationCrestFactor,
        measurementMember "current_a" telemetry.measurements.currentA],
    .object "sample_quality"
      [sampleQualityMember "temperature" telemetry.measurements.temperatureQuality,
        sampleQualityMember "vibration" telemetry.measurements.vibrationQuality,
        sampleQualityMember "current" telemetry.measurements.currentQuality],
    faultsMember telemetry.faultFlags]

theorem telemetryMembers_json (strings : TelemetryStrings Nat) (telemetry : IiotTelemetry) :
    Json.object ((telemetryMembers strings telemetry).map fun member => (codes member.key, member.value)) =
      telemetryJson strings telemetry := rfl

/-! ### Its pieces -/

def sampleQualityText (name : String) (qualityValue : IiotSampleQuality) (trailing : Bool) : Text :=
  codes "\"" ++ codes name ++ codes "\":\x7b\"status\":\"" ++
    codes (iiotSensorStatusName qualityValue.status) ++ codes "\",\"valid_samples\":" ++
    printNat qualityValue.validSamples.toNat ++ codes ",\"expected_samples\":" ++
    printNat qualityValue.expectedSamples.toNat ++ codes "\x7d" ++ codes (if trailing then "," else "")

/-- What follows the last string of the record. -/
def closingText (telemetry : IiotTelemetry) : Text :=
  let measurements := telemetry.measurements
  codes "\",\"quality\":\"" ++ codes measurements.overallQuality ++ codes "\",\"replayed\":" ++
    codes (if telemetry.replayed then "true" else "false") ++
    codes ",\"measurements\":\x7b\"temperature_c\":" ++ measurementText measurements.temperatureC ++
    codes ",\"vibration_rms_mps2\":" ++ measurementText measurements.vibrationRmsMps2 ++
    codes ",\"vibration_peak_mps2\":" ++ measurementText measurements.vibrationPeakMps2 ++
    codes ",\"vibration_crest_factor\":" ++ measurementText measurements.vibrationCrestFactor ++
    codes ",\"current_a\":" ++ measurementText measurements.currentA ++
    codes "\x7d,\"sample_quality\":\x7b" ++
    sampleQualityText "temperature" measurements.temperatureQuality true ++
    sampleQualityText "vibration" measurements.vibrationQuality true ++
    sampleQualityText "current" measurements.currentQuality false ++
    codes "\x7d,\"fault_flags\":" ++ faultsText telemetry.faultFlags ++ codes "\x7d"

/-- The document around the strings of the record. -/
def telemetryDocument {α : Type} (plain : Text → List α) (strings : TelemetryStrings α)
    (telemetry : IiotTelemetry) : List α :=
  plain (codes "\x7b\"schema_version\":1,\"message_id\":\"") ++ strings.messageId ++
    plain (codes "\",\"site_id\":\"") ++ strings.siteId ++ plain (codes "\",\"device_id\":\"") ++
    strings.deviceId ++
    plain (codes "\",\"sequence\":" ++ printNat telemetry.sequence.toNat ++ codes ",\"device_time\":") ++
    (if telemetry.clockSynchronized then plain (codes "\"") ++ strings.deviceTime ++ plain (codes "\"")
    else plain (codes "null")) ++
    plain (codes ",\"clock_synchronized\":" ++
      codes (if telemetry.clockSynchronized then "true" else "false") ++ codes ",\"uptime_ms\":" ++
      printNat telemetry.uptimeMs.toNat ++ codes ",\"firmware_version\":\"") ++
    strings.firmwareVersion ++ plain (closingText telemetry)

theorem sampleQualityText_member (name : String) (qualityValue : IiotSampleQuality) (trailing : Bool) :
    sampleQualityText name qualityValue trailing =
      memberText (codes name) (sampleQualityMember name qualityValue).text ++
        codes (if trailing then "," else "") := by
  simp only [sampleQualityText, sampleQualityMember, WrittenMember.object, WrittenMember.string,
    WrittenMember.natural, objectText, memberText, quoted, List.map_cons, List.map_nil, commaJoin_cons_cons,
    commaJoin_singleton, List.append_assoc, List.cons_append, List.nil_append]
  rfl

set_option maxRecDepth 2000 in
theorem telemetryDocument_members (strings : TelemetryStrings Nat) (telemetry : IiotTelemetry) :
    telemetryDocument id strings telemetry =
      objectText ((telemetryMembers strings telemetry).map fun member => (codes member.key, member.text)) := by
  have hone : printNat 1 = [49] := by simp [printNat, decimalDigits]
  have htime : (if telemetry.clockSynchronized = true then
      id (codes "\"") ++ strings.deviceTime ++ id (codes "\"") else id (codes "null")) =
        (deviceTimeMember strings telemetry.clockSynchronized).text := by
    unfold deviceTimeMember
    cases telemetry.clockSynchronized <;> rfl
  unfold telemetryDocument closingText
  rw [htime]
  simp only [sampleQualityText_member, telemetryMembers, measurementMember, faultsMember,
    sampleQualityMember_key, deviceTimeMember_key, WrittenMember.object, WrittenMember.string, WrittenMember.natural, WrittenMember.bool, objectText,
    memberText, quoted, List.map_cons, List.map_nil, commaJoin_cons_cons, commaJoin_singleton,
    List.append_assoc, List.cons_append, List.nil_append, id_eq, hone]
  rfl

/-! ### It is read -/

theorem plain_statusName (status : IiotSensorStatus) :
    CleanText (codes (iiotSensorStatusName status)) ∧ Plain (codes (iiotSensorStatusName status)) := by
  cases status <;> decide

theorem plain_overallQuality (measurements : IiotMeasurements) :
    CleanText (codes measurements.overallQuality) ∧ Plain (codes measurements.overallQuality) := by
  unfold IiotMeasurements.overallQuality
  dsimp only
  split_ifs <;> decide

theorem plain_setFaults {flags : UInt32} {name : String} (h : name ∈ setFaults flags) :
    CleanText (codes name) ∧ Plain (codes name) := by
  have hall : ∀ fault ∈ faultNames, CleanText (codes fault.name) ∧ Plain (codes fault.name) := by decide
  obtain ⟨fault, hfault, rfl⟩ := List.mem_map.mp h
  exact hall fault (List.mem_of_mem_filter hfault)

theorem measurementJson_finite {value : CFloat} {number : ℚ} (h : value.value.toNumber? = some number) :
    measurementText value = (generalNumber 4 value.signBit |number|).print ∧
      measurementJson value = .number (generalNumber 4 value.signBit |number|) := by
  unfold measurementText measurementJson
  rw [h]
  exact ⟨rfl, rfl⟩

theorem measurementJson_none {value : CFloat} (h : value.value.toNumber? = none) :
    measurementText value = codes "null" ∧ measurementJson value = .null := by
  unfold measurementText measurementJson
  rw [h]
  exact ⟨rfl, rfl⟩

section Reads

variable {limits : JsonLimits} {nesting : Nat}

theorem reads_measurement {key : String} {value : CFloat}
    (hkey : CleanText (codes key) ∧ Plain (codes key)) (hdigits : 5 ≤ limits.digits) :
    (measurementMember key value).Reads limits nesting := by
  constructor
  · exact hkey
  · change Written limits nesting (measurementText value) (measurementJson value)
    cases hvalue : value.value.toNumber? with
    | none =>
        rw [(measurementJson_none hvalue).1, (measurementJson_none hvalue).2]
        exact written_literal (by simp [literals])
    | some number =>
        rw [(measurementJson_finite hvalue).1, (measurementJson_finite hvalue).2]
        exact written_number (generalNumber_within _ (abs_nonneg number) hdigits)

theorem reads_sampleQuality {key : String} {qualityValue : IiotSampleQuality}
    (hkey : CleanText (codes key) ∧ Plain (codes key)) (hdigits : 5 ≤ limits.digits) :
    (sampleQualityMember key qualityValue).Reads limits (nesting + 1) := by
  have hcount : ∀ {key : String} (count : UInt16), CleanText (codes key) ∧ Plain (codes key) →
      (WrittenMember.natural key count.toNat).Reads limits nesting := fun count hkey =>
    reads_natural hkey (by decide) (lt_of_lt_of_le count.toNat_lt (by decide)) hdigits
  apply reads_object hkey (List.cons_ne_nil _ _)
  simp only [List.forall_mem_cons]
  exact ⟨reads_string (by decide) (plain_statusName _).1, hcount _ (by decide), hcount _ (by decide),
    List.forall_mem_nil _⟩

theorem reads_faults (flags : UInt32) : (faultsMember flags).Reads limits (nesting + 1) := by
  constructor
  · change CleanText (codes "fault_flags") ∧ Plain (codes "fault_flags")
    decide
  · change Written limits (nesting + 1) (faultsText flags) _
    unfold faultsText faultsMember
    by_cases hnone : setFaults flags = []
    · rw [hnone]
      exact written_empty_array
    · have hwritten := @written_array limits nesting
        ((setFaults flags).map fun name => (quoted (codes name), .string (codes name)))
        (by simpa using hnone) (by
          intro item hitem
          obtain ⟨name, hname, rfl⟩ := List.mem_map.mp hitem
          exact written_string (plain_setFaults hname).1)
      rw [List.map_map, List.map_map] at hwritten
      exact hwritten

theorem reads_deviceTime {strings : TelemetryStrings Nat} {synchronized : Bool}
    (h : synchronized = true → CleanText strings.deviceTime) :
    (deviceTimeMember strings synchronized).Reads limits nesting := by
  constructor
  · rw [deviceTimeMember_key]
    decide
  · cases synchronized with
    | true => exact written_string (h rfl)
    | false =>
        change Written limits nesting (codes "null") .null
        exact written_literal (by simp [literals])

/-- Strings whose characters need no escape. The time is written where the clock is synchronised. -/
structure TelemetryStrings.Clean (strings : TelemetryStrings Nat) (synchronized : Bool) : Prop where
  messageId : CleanText strings.messageId
  siteId : CleanText strings.siteId
  deviceId : CleanText strings.deviceId
  deviceTime : synchronized = true → CleanText strings.deviceTime
  firmwareVersion : CleanText strings.firmwareVersion

theorem telemetryMembers_read {strings : TelemetryStrings Nat} {telemetry : IiotTelemetry}
    (hstrings : strings.Clean telemetry.clockSynchronized) (hdigits : 20 ≤ limits.digits) :
    ∀ member ∈ telemetryMembers strings telemetry, member.Reads limits (nesting + 2) := by
  have hcounter : ∀ {key : String} (counter : UInt64), CleanText (codes key) ∧ Plain (codes key) →
      (WrittenMember.natural key counter.toNat).Reads limits (nesting + 2) := fun counter hkey =>
    reads_natural hkey (by decide) (lt_of_lt_of_le counter.toNat_lt (by decide)) hdigits
  have hmeasurement : ∀ {key : String} (value : CFloat), CleanText (codes key) ∧ Plain (codes key) →
      (measurementMember key value).Reads limits (nesting + 1) := fun value hkey =>
    reads_measurement hkey (by omega)
  have hquality : ∀ {key : String} (value : IiotSampleQuality), CleanText (codes key) ∧ Plain (codes key) →
      (sampleQualityMember key value).Reads limits (nesting + 1) := fun value hkey =>
    reads_sampleQuality hkey (by omega)
  unfold telemetryMembers
  simp only [List.forall_mem_cons]
  refine ⟨reads_natural (by decide) (le_refl 1) (by decide) (by omega),
    reads_string (by decide) hstrings.messageId, reads_string (by decide) hstrings.siteId,
    reads_string (by decide) hstrings.deviceId, hcounter _ (by decide),
    reads_deviceTime hstrings.deviceTime, reads_bool (by decide), hcounter _ (by decide),
    reads_string (by decide) hstrings.firmwareVersion,
    reads_string (by decide) (plain_overallQuality _).1, reads_bool (by decide), ?_, ?_,
    reads_faults _, List.forall_mem_nil _⟩
  · apply reads_object (by decide) (List.cons_ne_nil _ _)
    simp only [List.forall_mem_cons]
    exact ⟨hmeasurement _ (by decide), hmeasurement _ (by decide), hmeasurement _ (by decide),
      hmeasurement _ (by decide), hmeasurement _ (by decide), List.forall_mem_nil _⟩
  · apply reads_object (by decide) (List.cons_ne_nil _ _)
    simp only [List.forall_mem_cons]
    exact ⟨hquality _ (by decide), hquality _ (by decide), hquality _ (by decide), List.forall_mem_nil _⟩

theorem telemetryDocument_parse {strings : TelemetryStrings Nat} {telemetry : IiotTelemetry}
    (hstrings : strings.Clean telemetry.clockSynchronized) (hnesting : 3 ≤ limits.nesting)
    (hdigits : 20 ≤ limits.digits) :
    parseJson limits (telemetryDocument id strings telemetry) = .ok (telemetryJson strings telemetry) := by
  obtain ⟨nesting, hlevels⟩ : ∃ nesting, limits.nesting = nesting + 3 := ⟨limits.nesting - 3, by omega⟩
  have hmembers : telemetryMembers strings telemetry ≠ [] := List.cons_ne_nil _ _
  have hwritten := written_object hmembers (@telemetryMembers_read limits nesting _ _ hstrings hdigits)
  rw [← telemetryDocument_members, telemetryMembers_json, ← hlevels] at hwritten
  exact hwritten.parseJson

end Reads

/-! ### In bytes -/

/-- What the strings of a record are read as. -/
structure TelemetryStrings.DecodesAs (decoding : CharacterDecoding) (strings : TelemetryStrings UInt8)
    (texts : TelemetryStrings Nat) (synchronized : Bool) : Prop where
  messageId : decoding.decode strings.messageId = some texts.messageId
  siteId : decoding.decode strings.siteId = some texts.siteId
  deviceId : decoding.decode strings.deviceId = some texts.deviceId
  deviceTime : synchronized = true → decoding.decode strings.deviceTime = some texts.deviceTime
  firmwareVersion : decoding.decode strings.firmwareVersion = some texts.firmwareVersion

theorem plain_bool (value : Bool) : Plain (codes (if value then "true" else "false")) := by
  cases value <;> decide

theorem plain_measurement (value : CFloat) : Plain (measurementText value) := by
  cases hvalue : value.value.toNumber? with
  | none =>
      rw [(measurementJson_none hvalue).1]
      decide
  | some number =>
      rw [(measurementJson_finite hvalue).1]
      exact plain_number _

theorem plain_commaJoin {texts : List Text} (h : ∀ text ∈ texts, Plain text) : Plain (commaJoin texts) := by
  induction texts with
  | nil => exact plain_nil
  | cons text texts ih =>
      have hfirst := h text List.mem_cons_self
      have hrest := ih fun other hother => h other (.tail _ hother)
      cases texts with
      | nil =>
          rw [commaJoin_singleton]
          exact hfirst
      | cons next texts =>
          have hjoined := commaJoin_cons_cons text next texts []
          rw [List.append_nil, List.append_nil] at hjoined
          rw [hjoined]
          exact hfirst.append (Plain.cons (by decide) (by decide) hrest)

theorem plain_quoted {text : Text} (h : Plain text) : Plain (quoted text) :=
  Plain.append (Plain.cons (by decide) (by decide) h) (by decide)

theorem plain_faults (flags : UInt32) : Plain (faultsText flags) := by
  apply Plain.append
  · apply Plain.cons (by decide) (by decide)
    apply plain_commaJoin
    intro text htext
    obtain ⟨name, hname, rfl⟩ := List.mem_map.mp htext
    exact plain_quoted (plain_setFaults hname).2
  · decide

theorem plain_sampleQuality {name : String} (qualityValue : IiotSampleQuality) (trailing : Bool)
    (hname : Plain (codes name)) : Plain (sampleQualityText name qualityValue trailing) := by
  have htrailing : Plain (codes (if trailing then "," else "")) := by cases trailing <;> decide
  unfold sampleQualityText
  simp only [plain_append, and_assoc]
  exact ⟨by decide, hname, by decide, (plain_statusName _).2, by decide, plain_printNat _, by decide,
    plain_printNat _, by decide, htrailing⟩

theorem plain_closing (telemetry : IiotTelemetry) : Plain (closingText telemetry) := by
  have hquality := (plain_overallQuality telemetry.measurements).2
  unfold closingText
  simp only [plain_append, and_assoc]
  exact ⟨by decide, hquality, by decide, plain_bool _, by decide, plain_measurement _, by decide,
    plain_measurement _, by decide, plain_measurement _, by decide, plain_measurement _, by decide,
    plain_measurement _, by decide, plain_sampleQuality _ _ (by decide),
    plain_sampleQuality _ _ (by decide), plain_sampleQuality _ _ (by decide), by decide,
    plain_faults _, by decide⟩

/-- The document is decoded piece by piece. -/
theorem telemetryDocument_decode {decoding : CharacterDecoding} {strings : TelemetryStrings UInt8}
    {texts : TelemetryStrings Nat} {telemetry : IiotTelemetry}
    (h : strings.DecodesAs decoding texts telemetry.clockSynchronized) :
    decoding.decode (telemetryDocument plainBytes strings telemetry) =
      some (telemetryDocument id texts telemetry) := by
  have hsequence : Plain (codes "\",\"sequence\":" ++ printNat telemetry.sequence.toNat ++
      codes ",\"device_time\":") := by
    simp only [plain_append]
    exact ⟨⟨by decide, plain_printNat _⟩, by decide⟩
  have huptime : Plain (codes ",\"clock_synchronized\":" ++
      codes (if telemetry.clockSynchronized then "true" else "false") ++ codes ",\"uptime_ms\":" ++
      printNat telemetry.uptimeMs.toNat ++ codes ",\"firmware_version\":\"") := by
    simp only [plain_append, and_assoc]
    exact ⟨by decide, plain_bool _, by decide, plain_printNat _, by decide⟩
  have htime : decoding.decode (if telemetry.clockSynchronized then
      plainBytes (codes "\"") ++ strings.deviceTime ++ plainBytes (codes "\"") else
      plainBytes (codes "null")) = some (if telemetry.clockSynchronized then
        codes "\"" ++ texts.deviceTime ++ codes "\"" else codes "null") := by
    have hquote := decoding.plain (show Plain (codes "\"") by decide)
    cases hclock : telemetry.clockSynchronized with
    | true => exact decoding.append _ _ _ _ (decoding.append _ _ _ _ hquote (h.deviceTime hclock)) hquote
    | false => exact decoding.plain (by decide)
  unfold telemetryDocument
  refine decoding.append _ _ _ _ ?_ (decoding.plain (plain_closing telemetry))
  refine decoding.append _ _ _ _ ?_ h.firmwareVersion
  refine decoding.append _ _ _ _ ?_ (decoding.plain huptime)
  refine decoding.append _ _ _ _ ?_ htime
  refine decoding.append _ _ _ _ ?_ (decoding.plain hsequence)
  refine decoding.append _ _ _ _ ?_ h.deviceId
  refine decoding.append _ _ _ _ ?_ (decoding.plain (by decide))
  refine decoding.append _ _ _ _ ?_ h.siteId
  refine decoding.append _ _ _ _ ?_ (decoding.plain (by decide))
  exact decoding.append _ _ _ _ (decoding.plain (by decide)) h.messageId

end IiotMonitoring
