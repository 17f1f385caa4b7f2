import IiotMonitoring.Firmware.AckPublish
import IiotMonitoring.Proof.IssuedCommand

/-!
# Published acknowledgements are decoded

The text of an acknowledgement is a document in the compact form of `json.dumps`. It fits the buffer,
and the server's decoder reads the acknowledgement from it.
-/

namespace IiotMonitoring

/-! ### The document -/

def timeJson : Option String → Json
  | none => .null
  | some text => .string (codes text)

def ackJson (siteId deviceId messageId : String) (deviceTime : Option String) (ack : CommandAck) : Json :=
  .object
    [(codes "schema_version", .number (.ofNat 1)),
      (codes "message_id", .string (codes messageId)),
      (codes "command_id", .string (codes ack.commandId)),
      (codes "site_id", .string (codes siteId)),
      (codes "device_id", .string (codes deviceId)),
      (codes "device_time", timeJson deviceTime),
      (codes "status", .string (codes ack.status)),
      (codes "result_code", .string (codes ack.resultCode)),
      (codes "detail", .null),
      (codes "relay_on", .bool ack.relayOn)]

/-- The texts in an acknowledgement need no escape. -/
structure AckTexts (siteId deviceId messageId : String) (ack : CommandAck) : Prop where
  site : Verbatim (codes siteId)
  device : Verbatim (codes deviceId)
  message : Verbatim (codes messageId)
  command : Verbatim (codes ack.commandId)
  status : Verbatim (codes ack.status)
  result : Verbatim (codes ack.resultCode)

section Document

variable {siteId deviceId messageId : String} {deviceTime : Option String} {ack : CommandAck}

theorem print_ackJson (h : AckTexts siteId deviceId messageId ack) :
    (ackJson siteId deviceId messageId deviceTime ack).print =
      codes "\x7b\"schema_version\":1,\"message_id\":\"" ++ codes messageId ++
        codes "\",\"command_id\":\"" ++ codes ack.commandId ++
        codes "\",\"site_id\":\"" ++ codes siteId ++
        codes "\",\"device_id\":\"" ++ codes deviceId ++
        codes "\",\"device_time\":" ++ (timeJson deviceTime).print ++
        codes ",\"status\":\"" ++ codes ack.status ++
        codes "\",\"result_code\":\"" ++ codes ack.resultCode ++
        codes "\",\"detail\":null,\"relay_on\":" ++
        codes (if ack.relayOn then "true" else "false") ++ codes "\x7d" := by
  have hkey : ∀ {key : String}, Verbatim (codes key) → printString (codes key) = quoted (codes key) :=
    fun hkey => hkey.print
  have hrelay : (if ack.relayOn = true then codes "true" else codes "false") =
      codes (if ack.relayOn then "true" else "false") := by
    split_ifs
    · rfl
    · rfl
  unfold ackJson
  simp (disch := decide) only [Json.print, printMembers, printMoreMembers, h.site.print, h.device.print,
    h.message.print, h.command.print, h.status.print, h.result.print, hkey, print_ofNat, hrelay]
  generalize codes siteId = site
  generalize codes deviceId = device
  generalize codes messageId = message
  generalize codes ack.commandId = command
  generalize codes ack.status = status
  generalize codes ack.resultCode = result
  generalize codes (if ack.relayOn then "true" else "false") = relay
  simp [quoted, codes, printNat, decimalDigits]

theorem length_ackJson_le (h : AckTexts siteId deviceId messageId ack) :
    (ackJson siteId deviceId messageId deviceTime ack).print.length ≤
      163 + (codes messageId).length + (codes ack.commandId).length + (codes siteId).length +
        (codes deviceId).length + (timeJson deviceTime).print.length + (codes ack.status).length +
        (codes ack.resultCode).length := by
  have hrelay : (codes (if ack.relayOn = true then "true" else "false")).length ≤ 5 := by
    split_ifs
    · decide
    · decide
  have hpieces : (codes "\x7b\"schema_version\":1,\"message_id\":\"").length +
      (codes "\",\"command_id\":\"").length + (codes "\",\"site_id\":\"").length +
      (codes "\",\"device_id\":\"").length + (codes "\",\"device_time\":").length +
      (codes ",\"status\":\"").length + (codes "\",\"result_code\":\"").length +
      (codes "\",\"detail\":null,\"relay_on\":").length + (codes "\x7d").length ≤ 158 := by decide
  rw [print_ackJson h]
  simp only [List.length_append]
  omega

end Document

/-! ### The bytes -/

theorem literalText_eq {text : String} (h : ∀ code ∈ codes text, code < 128) :
    literalText text = plainBytes (codes text) := toUTF8_ascii h

theorem Verbatim.literalText_eq {text : String} (h : Verbatim (codes text)) :
    literalText text = plainBytes (codes text) :=
  toUTF8_ascii fun code hcode => Nat.lt_of_le_of_lt (h code hcode).2.1 (by decide)

theorem Plain.bytes_ne_zero {text : Text} (h : Plain text) : ∀ byte ∈ plainBytes text, byte ≠ 0 := by
  intro byte hbyte
  obtain ⟨code, hcode, rfl⟩ := List.mem_map.mp hbyte
  exact (byte_plain (h code hcode).1 (h code hcode).2).1

section Bytes

variable {config : IiotConfig} {siteId deviceId messageId : String} {deviceTime : Option String}
  {ack : CommandAck}

theorem commandAckText_eq (h : AckTexts siteId deviceId messageId ack)
    (hsite : cText config.siteId = plainBytes (codes siteId))
    (hdevice : cText config.deviceId = plainBytes (codes deviceId)) :
    commandAckText config (plainBytes (codes messageId)) (plainBytes (timeJson deviceTime).print) ack =
      plainBytes (ackJson siteId deviceId messageId deviceTime ack).print := by
  have hrelay : literalText (if ack.relayOn = true then "true" else "false") =
      plainBytes (codes (if ack.relayOn then "true" else "false")) := by
    split_ifs
    · exact literalText_eq (by decide)
    · exact literalText_eq (by decide)
  rw [print_ackJson h]
  unfold commandAckText
  rw [hsite, hdevice, h.command.literalText_eq, h.status.literalText_eq, h.result.literalText_eq, hrelay]
  simp (disch := decide) only [literalText_eq, plainBytes_append]

theorem gatewayMakeUuid_eq (random : Vector UInt8 16) :
    gatewayMakeUuid random = plainBytes (codes (uuid4 random)) := by
  obtain ⟨hverbatim, hlength⟩ := verbatim_uuid4 random
  have htext : gatewayMakeUuid random = (literalText (uuid4 random)).take 36 := rfl
  rw [htext, hverbatim.literalText_eq,
    List.take_of_length_le (by rw [plainBytes, List.length_map, hlength])]

/-- The time, or `null` where the clock is not synchronized. -/
theorem jsonTime_eq {time : Int} (hmax : time * 1000000 ≤ datetimeMax) :
    jsonTime time = plainBytes (timeJson (gatewayUtcNow time 32)).print := by
  unfold jsonTime
  cases hnow : gatewayUtcNow time 32 with
  | none =>
      unfold timeJson
      rw [Json.print]
      exact literalText_eq (by decide)
  | some now =>
      obtain ⟨hverbatim, hlength⟩ := length_zuluText_le hmax
      rw [← gatewayUtcNow_zulu hmax hnow] at hverbatim hlength
      have hformatted : literalText "\"" ++ literalText now ++ literalText "\"" =
          plainBytes (quoted (codes now)) := by
        rw [hverbatim.literalText_eq, literalText_eq (show ∀ code ∈ codes "\"", code < 128 by decide),
          ← plainBytes_append, ← plainBytes_append]
        rfl
      unfold timeJson
      dsimp only
      have hroom : (plainBytes (quoted (codes now))).length ≤ 31 := by
        unfold plainBytes quoted
        simp only [List.length_map, List.length_append, List.length_cons, List.length_nil]
        omega
      rw [Json.print, hverbatim.print, hformatted, List.take_of_length_le (hroom.trans (by decide)),
        List.take_of_length_le hroom]

theorem length_timeJson_le {time : Int} (hmax : time * 1000000 ≤ datetimeMax) :
    (timeJson (gatewayUtcNow time 32)).print.length ≤ 29 := by
  cases hnow : gatewayUtcNow time 32 with
  | none => decide
  | some now =>
      obtain ⟨hverbatim, hlength⟩ := length_zuluText_le hmax
      rw [← gatewayUtcNow_zulu hmax hnow] at hverbatim hlength
      rw [timeJson, Json.print, hverbatim.length_print]
      omega

theorem decodeUtf8_identifier {bytes : List UInt8} {text : String} (h : identifierPattern (codes text) = true)
    (hbytes : decodeUtf8 bytes = some (codes text)) : bytes = plainBytes (codes text) :=
  (decodeUtf8_iff_ascii ((identifierPattern_iff _).mp h).ascii).mp hbytes

theorem commandAcksSuffix_text :
    decodeUtf8 commandAcksSuffix.bytes = some (codes (TopicKind.text .commandAcks)) := by
  rw [decodeUtf8_iff_ascii (codes_text_ascii _)]
  exact literalText_text .commandAcks

/-- The names in a configuration. -/
structure IiotConfig.Names (config : IiotConfig) (siteId deviceId : String) : Prop where
  site : decodeUtf8 (cText config.siteId) = some (codes siteId)
  device : decodeUtf8 (cText config.deviceId) = some (codes deviceId)
  sitePattern : identifierPattern (codes siteId) = true
  devicePattern : identifierPattern (codes deviceId) = true

/-- What is published is the document, on the topic of the device. -/
theorem publishCommandAck_eq (hnames : config.Names siteId deviceId) (payload : Vector UInt8 768)
    (topic : Vector UInt8 iiotTopicMax) (random : Vector UInt8 16) {time : Int}
    (hmax : time * 1000000 ≤ datetimeMax) (h : AckTexts siteId deviceId (uuid4 random) ack)
    (hcommand : (codes ack.commandId).length ≤ 36) (hstatus : (codes ack.status).length ≤ 9)
    (hresult : (codes ack.resultCode).length ≤ 48) :
    ∃ topicBytes topicText, decodeUtf8 topicBytes = some topicText ∧
      parseTopic topicText = .ok ⟨codes siteId, codes deviceId, .commandAcks⟩ ∧
      publishCommandAck true config payload topic random time ack =
        some (topicBytes, commandAckText config (gatewayMakeUuid random) (jsonTime time) ack) ∧
      commandAckText config (gatewayMakeUuid random) (jsonTime time) ack = plainBytes
        (ackJson siteId deviceId (uuid4 random) (gatewayUtcNow time 32) ack).print ∧
      (commandAckText config (gatewayMakeUuid random) (jsonTime time) ack).length < 768 := by
  have htext := @commandAckText_eq _ _ _ _ (gatewayUtcNow time 32) _ h
    (decodeUtf8_identifier hnames.sitePattern hnames.site)
    (decodeUtf8_identifier hnames.devicePattern hnames.device)
  rw [← gatewayMakeUuid_eq, ← jsonTime_eq hmax] at htext
  have hsite := ((identifierPattern_iff _).mp hnames.sitePattern).length
  have hdevice := ((identifierPattern_iff _).mp hnames.devicePattern).length
  have hmessage := (verbatim_uuid4 random).2
  have htime := length_timeJson_le hmax
  have hlength := @length_ackJson_le _ _ _ (gatewayUtcNow time 32) _ h
  have hfits : (plainBytes (ackJson siteId deviceId (uuid4 random) (gatewayUtcNow time 32) ack).print).length <
      768 := by
    rw [plainBytes, List.length_map]
    omega
  have hmade := sameTopic topic (cString config.siteId) (cString config.deviceId) commandAcksSuffix
  have hvalue : TopicKind.topic .commandAcks (codes siteId) (codes deviceId) = .ok _ :=
    topic_ok_iff.mpr ⟨hnames.sitePattern, hnames.devicePattern, rfl⟩
  obtain ⟨hdecoded, hparsed⟩ := hmade.text _ _ .commandAcks _ hnames.site hnames.device
    commandAcksSuffix_text hvalue
  have haccepted := hmade.accepted.mpr
    ⟨_, _, .commandAcks, _, hnames.site, hnames.device, commandAcksSuffix_text, hvalue⟩
  refine ⟨_, _, hdecoded, hparsed, ?_, htext, htext ▸ hfits⟩
  unfold publishCommandAck gatewayMqttPublish
  rw [htext]
  dsimp only
  rw [cText_printText hfits (Json.plain_print _).bytes_ne_zero, Bool.not_true, if_neg (by decide),
    if_pos haccepted]

end Bytes

/-! ### What the server reads -/

/-- The nesting and the digits that pydantic's JSON reader takes. -/
def pydanticLimits : JsonLimits := ⟨200, 4300⟩

/-- What pydantic documents of what an acknowledgement holds: a JSON text is read to its value, the
text of a UUID is the UUID, and an ISO 8601 text is its time. -/
structure Pydantic.ReadsAcks (pydantic : Pydantic) : Prop where
  lax : pydantic.json.Lax
  parse : ∀ value : Json, value.Restorable pydanticLimits pydanticLimits.nesting →
    pydantic.parse (plainBytes value.print) = some value
  uuid : ∀ text : String, isUuidText text.toList = true →
    pydantic.json.uuid (.string (codes text)) = some text
  datetime : ∀ time : Int, datetimeMin ≤ time → time ≤ datetimeMax →
    pydantic.json.datetime (.string (codes (zuluText time))) = some time

section Decoding

variable {pydantic : Pydantic} {siteId deviceId messageId : String} {ack : CommandAck} {time : Int}

theorem restorable_ackJson (deviceTime : Option String) :
    (ackJson siteId deviceId messageId deviceTime ack).Restorable pydanticLimits
      pydanticLimits.nesting := by
  have hversion : (JsonNumber.ofNat 1).Within pydanticLimits :=
    within_ofNat (show 1 < 10 ^ (0 + 1) by decide) (by decide)
  have htime : (timeJson deviceTime).Restorable pydanticLimits (pydanticLimits.nesting - 1) := by
    cases deviceTime with
    | none => trivial
    | some text => exact isUnicode_codes text
  unfold ackJson
  simp only [Json.Restorable, RestorableMembers, isUnicode_codes, hversion, htime, and_self, and_true]
  decide

theorem requiredField_of_member {α : Type} {name : String} {members : List (Text × Json)} {value : Json}
    (h : findMember (codes name) members = some value) (field : Json → Option α) :
    requiredField name members field = field value := by
  rw [requiredField, h, Option.bind_some]

theorem boundedString_codes (h : pydantic.json.Lax) (text : String) :
    pydantic.json.boundedString (.string (codes text)) = some text :=
  (h.boundedString_iff _ _).mpr rfl

theorem timeField_timeJson (h : pydantic.ReadsAcks) (hmax : time * 1000000 ≤ datetimeMax) :
    timeField pydantic.json (timeJson (gatewayUtcNow time 32)) =
      some ((gatewayUtcNow time 32).map fun _ => time * 1000000) := by
  cases hnow : gatewayUtcNow time 32 with
  | none => rfl
  | some now =>
      have hmin : datetimeMin ≤ time * 1000000 := by
        unfold gatewayUtcNow at hnow
        split_ifs at hnow with hunsynchronized
        unfold datetimeMin
        omega
      unfold timeJson timeField
      dsimp only
      rw [gatewayUtcNow_zulu hmax hnow, h.datetime _ hmin hmax]
      rfl

theorem literalField_text (status : AckStatus) :
    literalField AckStatus.text [.accepted, .completed, .rejected, .expired, .failed]
      (.string (codes status.text)) = some status := by
  cases status <;> rfl

/-- The envelope of an acknowledgement. -/
def ackEnvelope (siteId deviceId messageId : String) (deviceTime : Option Int) (status : AckStatus)
    (ack : CommandAck) : CommandAckEnvelope where
  messageId := messageId
  commandId := ack.commandId
  siteId := siteId
  deviceId := deviceId
  deviceTime := deviceTime
  status := status
  resultCode := ack.resultCode
  detail := none
  relayOn := ack.relayOn

theorem validateCommandAck_ackJson (h : pydantic.ReadsAcks) (hmax : time * 1000000 ≤ datetimeMax)
    (hsite : identifierPattern (codes siteId) = true)
    (hdevice : identifierPattern (codes deviceId) = true)
    (hmessage : isUuidText messageId.toList = true) (hcommand : isUuidText ack.commandId.toList = true)
    {status : AckStatus} (hstatus : ack.status = status.text)
    (hresult : codePattern (codes ack.resultCode) = true) :
    validateCommandAck pydantic.json
        (ackJson siteId deviceId messageId (gatewayUtcNow time 32) ack) =
      some (ackEnvelope siteId deviceId messageId
        ((gatewayUtcNow time 32).map fun _ => time * 1000000) status ack) := by
  have htime := timeField_timeJson h hmax
  generalize gatewayUtcNow time 32 = deviceTime at htime ⊢
  have hversion : pydantic.json.literalOne (.number (.ofNat 1)) = true :=
    (h.lax.literalOne (.ofNat 1) rfl).mpr (by rw [value_ofNat, Nat.cast_one])
  have hidentifier : ∀ {text : String}, identifierPattern (codes text) = true →
      identifierField pydantic.json (.string (codes text)) = some text := by
    intro text htext
    rw [identifierField, boundedString_codes h.lax, Option.filter_some, if_pos htext]
  have hcode : codeField pydantic.json (.string (codes ack.resultCode)) = some ack.resultCode := by
    rw [codeField, boundedString_codes h.lax, Option.filter_some, if_pos hresult]
  unfold validateCommandAck
  refine Option.bind_eq_some_iff.mpr ⟨_, rfl, ?_⟩
  refine Option.bind_eq_some_iff.mpr ⟨(), (requiredField_of_member rfl _).trans (if_pos hversion), ?_⟩
  refine Option.bind_eq_some_iff.mpr
    ⟨_, (requiredField_of_member rfl _).trans (h.uuid _ hmessage), ?_⟩
  refine Option.bind_eq_some_iff.mpr
    ⟨_, (requiredField_of_member rfl _).trans (h.uuid _ hcommand), ?_⟩
  refine Option.bind_eq_some_iff.mpr
    ⟨_, (requiredField_of_member rfl _).trans (hidentifier hsite), ?_⟩
  refine Option.bind_eq_some_iff.mpr
    ⟨_, (requiredField_of_member rfl _).trans (hidentifier hdevice), ?_⟩
  refine Option.bind_eq_some_iff.mpr ⟨_, (requiredField_of_member rfl _).trans htime, ?_⟩
  refine Option.bind_eq_some_iff.mpr
    ⟨status, (requiredField_of_member rfl _).trans (hstatus ▸ literalField_text status), ?_⟩
  refine Option.bind_eq_some_iff.mpr ⟨_, (requiredField_of_member rfl _).trans hcode, ?_⟩
  refine Option.bind_eq_some_iff.mpr ⟨none, rfl, ?_⟩
  exact Option.bind_eq_some_iff.mpr
    ⟨_, (requiredField_of_member rfl _).trans (h.lax.bool_bool ack.relayOn), rfl⟩

theorem decodeCommandAck_ackJson (h : pydantic.ReadsAcks) (hmax : time * 1000000 ≤ datetimeMax)
    (hsite : identifierPattern (codes siteId) = true)
    (hdevice : identifierPattern (codes deviceId) = true)
    (hmessage : isUuidText messageId.toList = true) (hcommand : isUuidText ack.commandId.toList = true)
    {status : AckStatus} (hstatus : ack.status = status.text)
    (hresult : codePattern (codes ack.resultCode) = true) {topic : Text}
    (htopic : parseTopic topic = .ok ⟨codes siteId, codes deviceId, .commandAcks⟩)
    (hsize : (plainBytes
      (ackJson siteId deviceId messageId (gatewayUtcNow time 32) ack).print).length ≤ maxPayloadBytes) :
    decodeCommandAck pydantic topic (plainBytes
        (ackJson siteId deviceId messageId (gatewayUtcNow time 32) ack).print) =
      .ok (ackEnvelope siteId deviceId messageId
        ((gatewayUtcNow time 32).map fun _ => time * 1000000) status ack) := by
  have hvalid := validateCommandAck_ackJson h hmax hsite hdevice hmessage hcommand hstatus hresult
  unfold decodeCommandAck decodeJson
  rw [htopic]
  dsimp only
  rw [if_pos rfl, if_neg (Nat.not_lt.mpr hsize), h.parse _ (restorable_ackJson _), Option.bind_some, hvalid]
  exact if_pos ⟨rfl, rfl⟩

end Decoding

end IiotMonitoring
