import IiotMonitoring.Lib.Binary64
import IiotMonitoring.Lib.JsonText
import IiotMonitoring.Proof.ContractFields

/-!
# When the two validators agree

`decode_payload` and the schema on one payload: a document is told by its verdicts, of which two are
about the document as a whole.
-/

namespace IiotMonitoring

/-- What the bytes are as a document, whatever the reader's limits. -/
def Document (payload : List UInt8) (raw : Json) : Prop :=
  ∃ limits, jsonLoads limits payload = .ok raw

theorem jsonLoads_raise {limits limits' : JsonLimits} (hnesting : limits.nesting ≤ limits'.nesting)
    (hdigits : limits.digits ≤ limits'.digits) {payload : List UInt8} {raw : Json}
    (h : jsonLoads limits payload = .ok raw) : jsonLoads limits' payload = .ok raw := by
  unfold jsonLoads at h ⊢
  cases htext : decodeText payload with
  | none =>
      rw [htext] at h
      cases h
  | some text =>
      rw [htext] at h
      dsimp only at h ⊢
      rcases parseJson_raise hnesting hdigits text with hsame | herror | herror
      · rw [hsame, h]
      · rw [herror] at h
        cases h
      · rw [herror] at h
        cases h

theorem Document.unique {payload : List UInt8} {raw raw' : Json} (h : Document payload raw)
    (h' : Document payload raw') : raw = raw' := by
  obtain ⟨limits, hread⟩ := h
  obtain ⟨limits', hread'⟩ := h'
  let both : JsonLimits :=
    ⟨max limits.nesting limits'.nesting, max limits.digits limits'.digits⟩
  have hboth : jsonLoads both payload = .ok raw :=
    jsonLoads_raise (le_max_left _ _) (le_max_left _ _) hread
  have hboth' : jsonLoads both payload = .ok raw' :=
    jsonLoads_raise (le_max_right _ _) (le_max_right _ _) hread'
  rw [hboth] at hboth'
  exact Except.ok.inj hboth'

/-- The document is within the reader's limits, and has only the numbers that JSON has. -/
def documentVerdicts (limits : JsonLimits) (scalars : PydanticScalars) (formats : JsonFormats)
    (payload : List UInt8) (raw : Json) : List Verdict :=
  [.of (jsonLoads limits payload).isOk true, .of true raw.isFinite] ++ telemetryVerdicts scalars formats raw

/-- A topic of telemetry that names the payload's site and device. -/
structure TopicOf (topic : Text) (payload : List UInt8) (parsed : ParsedTopic) : Prop where
  parses : parseTopic topic = .ok parsed
  telemetry : parsed.kind = .telemetry
  siteId : ∀ members, Document payload (.object members) →
    findMember (codes "site_id") members = some (.string parsed.siteId)
  deviceId : ∀ members, Document payload (.object members) →
    findMember (codes "device_id") members = some (.string parsed.deviceId)

section Decoder

variable {limits : JsonLimits} {pydantic : Pydantic} {topic : Text} {payload : List UInt8}
  {parsed : ParsedTopic}

theorem identifierField_text {scalars : PydanticScalars} (hlax : scalars.Lax) {text : Text}
    {identifier : String} (h : identifierField scalars (.string text) = some identifier) :
    codes identifier = text := by
  unfold identifierField at h
  rw [Option.filter_eq_some_iff, hlax.boundedString_iff] at h
  exact (Json.string.inj h.1).symm

/-- What is valid is decoded, as the topic names it. -/
theorem decodes_iff (hlax : pydantic.python.Lax) (hsize : payload.length ≤ maxPayloadBytes)
    (htopic : TopicOf topic payload parsed) :
    (∃ envelope, decodePayload limits pydantic topic payload = .ok envelope) ↔
      ∃ raw, jsonLoads limits payload = .ok raw ∧ (validateTelemetry pydantic.python raw).isSome = true := by
  unfold decodePayload
  rw [if_neg (not_lt.mpr hsize), htopic.parses]
  simp only [htopic.telemetry, if_true]
  cases hread : jsonLoads limits payload with
  | error error => simp
  | ok raw =>
      simp only [Except.ok.injEq, exists_eq_left']
      cases hvalid : validateTelemetry pydantic.python raw with
      | none => simp
      | some envelope =>
          obtain ⟨members, hmembers, hreads⟩ := validateTelemetry_iff.mp hvalid
          obtain rfl := modelMembers_eq hmembers
          obtain ⟨site, hsite, hsiteId⟩ := requiredField_some hreads.siteId
          obtain ⟨device, hdevice, hdeviceId⟩ := requiredField_some hreads.deviceId
          rw [htopic.siteId members ⟨limits, hread⟩] at hsite
          rw [htopic.deviceId members ⟨limits, hread⟩] at hdevice
          obtain rfl := Option.some.inj hsite
          obtain rfl := Option.some.inj hdevice
          have hidentity : codes envelope.siteId = parsed.siteId ∧
              codes envelope.deviceId = parsed.deviceId :=
            ⟨identifierField_text hlax hsiteId, identifierField_text hlax hdeviceId⟩
          simp [ParsedTopic.accept, hidentity]

/-- On one document, the verdicts tell what the two make of it. -/
theorem judges_document (hlax : pydantic.python.Lax) (formats : JsonFormats)
    (hsize : payload.length ≤ maxPayloadBytes) (htopic : TopicOf topic payload parsed) {raw : Json}
    (hdocument : Document payload raw) :
    Judges (documentVerdicts limits pydantic.python formats payload raw)
      (∃ envelope, decodePayload limits pydantic topic payload = .ok envelope)
      (SchemaAccepts formats payload) := by
  have hlimits : Judges [.of (jsonLoads limits payload).isOk true] (jsonLoads limits payload = .ok raw)
      True := by
    refine Judges.of_verdict ?_ (by simp)
    cases hread : jsonLoads limits payload with
    | error error => simp [Except.isOk, Except.toBool]
    | ok raw' =>
        obtain rfl := hdocument.unique ⟨limits, hread⟩
        simp [Except.isOk, Except.toBool]
  have hfinite : Judges [.of true raw.isFinite] True (raw.isFinite = true) :=
    Judges.of_verdict (by simp) (by simp)
  have hjudges := (hlimits.append hfinite).append (judges_telemetry hlax formats raw)
  refine hjudges.congr ?_ ?_
  · rw [decodes_iff hlax hsize htopic, and_true]
    constructor
    · rintro ⟨hread, hvalid⟩
      exact ⟨raw, hread, hvalid⟩
    · rintro ⟨raw', hread, hvalid⟩
      obtain rfl := hdocument.unique ⟨limits, hread⟩
      exact ⟨hread, hvalid⟩
  · rw [true_and]
    constructor
    · rintro ⟨hraw, hvalid⟩
      obtain ⟨limits', hread⟩ := hdocument
      exact ⟨limits', raw, hread, hraw, hvalid⟩
    · rintro ⟨limits', raw', hread, hraw, hvalid⟩
      obtain rfl := hdocument.unique ⟨limits', hread⟩
      exact ⟨hraw, hvalid⟩

/-- `decode_payload` and the schema decide alike exactly on the payloads without a part that only one of
them refuses, or with a part that both refuse, or with parts of either kind. -/
theorem decode_agrees_iff (hlax : pydantic.python.Lax) (formats : JsonFormats)
    (hsize : payload.length ≤ maxPayloadBytes) (htopic : TopicOf topic payload parsed) :
    ((∃ envelope, decodePayload limits pydantic topic payload = .ok envelope) ↔
        SchemaAccepts formats payload) ↔
      ∀ raw, Document payload raw →
        Agree (documentVerdicts limits pydantic.python formats payload raw) := by
  by_cases hread : ∃ raw, Document payload raw
  · obtain ⟨raw, hdocument⟩ := hread
    rw [(judges_document hlax formats hsize htopic hdocument).agree_iff]
    constructor
    · intro hagree raw' hdocument'
      obtain rfl := hdocument.unique hdocument'
      exact hagree
    · intro h
      exact h raw hdocument
  · have hnot : ¬ ∃ envelope, decodePayload limits pydantic topic payload = .ok envelope := by
      rw [decodes_iff hlax hsize htopic]
      rintro ⟨raw, hraw, -⟩
      exact hread ⟨raw, limits, hraw⟩
    have hnot' : ¬ SchemaAccepts formats payload := by
      rintro ⟨limits', raw, hraw, -⟩
      exact hread ⟨raw, limits', hraw⟩
    constructor
    · intro _ raw hdocument
      exact absurd ⟨raw, hdocument⟩ hread
    · intro _
      exact iff_of_false hnot hnot'

end Decoder

/-! ### A sequence beyond 64 bits -/

/-- Converts nothing but what has the type. -/
def strictScalars : PydanticScalars where
  literalOne := fun value =>
    match value with
    | .number number => number.value = 1
    | _ => false
  int := fun value =>
    match value with
    | .number number => if number.isInteger then some number.value.num else none
    | .bool flag => some flag.toNat
    | _ => none
  float := fun value =>
    match value with
    | .number number => some (binary64 number.value)
    | .nonFinite literal => some literal.float
    | .bool flag => some (.finite flag.toNat)
    | _ => none
  bool := fun value =>
    match value with
    | .bool flag => some flag
    | _ => none
  uuid := fun value =>
    match value with
    | .string text => textString text
    | _ => none
  datetime := fun _ => none
  string := fun value =>
    match value with
    | .string text => some (String.ofList (text.map Char.ofNat))
    | _ => none
  boundedString := fun value =>
    match value with
    | .string text => textString text
    | _ => none

theorem strictScalars_lax : strictScalars.Lax where
  literalOne number _ := by simp [strictScalars]
  int_number number h := by simp [strictScalars, h]
  int_bool flag := rfl
  int_scalar value number h := by
    cases value <;> simp [strictScalars] at h <;> rfl
  float_nonFinite literal := rfl
  float_bool flag := rfl
  float_array items := rfl
  float_object members := rfl
  bool_bool flag := rfl
  uuid_string value uuid h := by
    cases value with
    | string text => exact ⟨text, rfl⟩
    | _ => cases h
  string_iff value := by
    cases value <;> simp [strictScalars]
  boundedString_iff value string := by
    cases value with
    | string text =>
        rw [Json.string.injEq]
        exact textString_iff
    | _ => simp [strictScalars]

def textJson (value : String) : Json := .string (codes value)

def naturalJson (value : Nat) : Json := .number (.ofNat value)

def sampleSensor : Json :=
  .object [(codes "status", textJson "good"), (codes "valid_samples", naturalJson 10),
    (codes "expected_samples", naturalJson 10)]

/-- A message without synchronized clock. -/
def sampleTelemetry (sequence : Nat) (temperature : Json) : Json :=
  .object
    [(codes "schema_version", naturalJson 1),
      (codes "message_id", textJson "12345678-1234-4234-8234-123456789abc"),
      (codes "site_id", textJson "site-1"),
      (codes "device_id", textJson "motor-1"),
      (codes "sequence", naturalJson sequence),
      (codes "device_time", .null),
      (codes "clock_synchronized", .bool false),
      (codes "uptime_ms", naturalJson 1000),
      (codes "firmware_version", textJson "0.1.0"),
      (codes "quality", textJson "good"),
      (codes "replayed", .bool false),
      (codes "measurements", .object [(codes "temperature_c", temperature), (codes "vibration_rms_mps2", .null),
        (codes "vibration_peak_mps2", .null), (codes "vibration_crest_factor", .null),
        (codes "current_a", .null)]),
      (codes "sample_quality", .object [(codes "temperature", sampleSensor),
        (codes "vibration", sampleSensor), (codes "current", sampleSensor)]),
      (codes "fault_flags", .array [])]

def longTelemetry : Json := sampleTelemetry 18446744073709551616 .null

def longPayload : List UInt8 := plainBytes longTelemetry.print

def pythonLimits : JsonLimits := ⟨900, 4300⟩

def anyFormats : JsonFormats := ⟨fun _ => true, fun _ => true⟩

def strictPydantic : Pydantic := ⟨strictScalars, strictScalars, fun _ => none, fun _ => 1⟩

def sampleTopic : Text := codes "iiot/v1/site-1/motor-1/telemetry"

theorem jsonLoads_long : jsonLoads pythonLimits longPayload = .ok longTelemetry :=
  jsonLoads_print (by decide)

theorem long_size : longPayload.length ≤ maxPayloadBytes := by
  decide +kernel

theorem long_topicOf : TopicOf sampleTopic longPayload ⟨codes "site-1", codes "motor-1", .telemetry⟩ := by
  refine ⟨by decide, rfl, ?_, ?_⟩
  · intro members hdocument
    obtain rfl := Json.object.inj (hdocument.unique ⟨pythonLimits, jsonLoads_long⟩)
    rfl
  · intro members hdocument
    obtain rfl := Json.object.inj (hdocument.unique ⟨pythonLimits, jsonLoads_long⟩)
    rfl

theorem decode_agrees_iff_long :
    ((∃ envelope, decodePayload pythonLimits strictPydantic sampleTopic longPayload = .ok envelope) ↔
        SchemaAccepts anyFormats longPayload) ↔
      ∀ raw, Document longPayload raw →
        Agree (documentVerdicts pythonLimits strictScalars anyFormats longPayload raw) :=
  @decode_agrees_iff pythonLimits strictPydantic _ _ _ strictScalars_lax anyFormats long_size long_topicOf

/-- A sequence of 65 bits is decoded, which the schema does not allow. -/
theorem decode_disagrees_long :
    strictScalars.Lax ∧ longPayload.length ≤ maxPayloadBytes ∧
      TopicOf sampleTopic longPayload ⟨codes "site-1", codes "motor-1", .telemetry⟩ ∧
      ¬ ((∃ envelope, decodePayload pythonLimits strictPydantic sampleTopic longPayload = .ok envelope) ↔
        SchemaAccepts anyFormats longPayload) := by
  refine ⟨strictScalars_lax, long_size, long_topicOf, ?_⟩
  have hjudges := judges_telemetry strictScalars_lax anyFormats longTelemetry
  intro hiff
  have hdecodes : ∃ envelope, decodePayload pythonLimits strictPydantic sampleTopic longPayload = .ok envelope := by
    rw [decodes_iff strictScalars_lax long_size long_topicOf]
    exact ⟨longTelemetry, jsonLoads_long, hjudges.model.mp (by decide +kernel)⟩
  obtain ⟨limits, raw, hread, -, hvalid⟩ := hiff.mp hdecodes
  obtain rfl := Document.unique ⟨limits, hread⟩ ⟨pythonLimits, jsonLoads_long⟩
  exact absurd (hjudges.schema.mpr hvalid) (by decide +kernel)

end IiotMonitoring
