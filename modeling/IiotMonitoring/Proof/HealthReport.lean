import IiotMonitoring.Firmware.HealthReport
import IiotMonitoring.Proof.PublishedRecord

/-!
# The document of a health report

The text of a report is a document in the compact form of `json.dumps`. It fits its buffer, and is
published on the topic of the device.
-/

namespace IiotMonitoring

/-! ### The document -/

/-- The integer of `%d`, as a JSON number. -/
def signedNumber (value : Int) : JsonNumber := ⟨value < 0, value.natAbs, none, none⟩

def healthJson (simulation : Bool) (siteId deviceId messageId : String) (deviceTime : Option String)
    (reads : HealthReads) : Json :=
  .object
    [(codes "schema_version", .number (.ofNat 1)),
      (codes "message_id", .string (codes messageId)),
      (codes "site_id", .string (codes siteId)),
      (codes "device_id", .string (codes deviceId)),
      (codes "sequence", .number (.ofNat reads.sequence.toNat)),
      (codes "device_time", timeJson deviceTime),
      (codes "uptime_ms", .number (.ofNat reads.uptimeMs.toNat)),
      (codes "firmware_version", .string (codes (firmwareVersion simulation))),
      (codes "status", .string (codes (if reads.degraded then "degraded" else "online"))),
      (codes "rssi_dbm", .number (signedNumber (gatewayWifiRssiDbm reads.accessPoint))),
      (codes "reset_reason", .string (codes (gatewayResetReason reads.resetReason))),
      (codes "reset_count", .number (.ofNat reads.resetCount.toNat)),
      (codes "queue_depth", .number (.ofNat reads.queue.count)),
      (codes "queue_capacity", .number (.ofNat reads.queue.capacity)),
      (codes "dropped_message_count", .number (.ofNat reads.queue.droppedMessageCount.toNat)),
      (codes "modbus_status", .string (codes reads.modbusStatus.text)),
      (codes "active_faults",
        .array ((setFaults reads.activeFaults).map fun name => .string (codes name)))]

theorem print_signedNumber (value : Int) :
    (signedNumber value).print = (if value < 0 then [45] else []) ++ printNat value.natAbs := by
  unfold signedNumber JsonNumber.print
  simp

theorem value_signedNumber (value : Int) : (signedNumber value).value = value := by
  have habs : (value.natAbs : ℚ) = |(value : ℚ)| := by
    rw [Nat.cast_natAbs, Int.cast_abs]
  unfold signedNumber JsonNumber.value
  dsimp only
  rw [habs]
  by_cases hneg : value < 0
  · have hcast : (value : ℚ) < 0 := by exact_mod_cast hneg
    simp [hneg, abs_of_neg hcast]
  · have hcast : 0 ≤ (value : ℚ) := by exact_mod_cast not_lt.mp hneg
    simp [hneg, abs_of_nonneg hcast]

theorem verbatim_setFaults {flags : UInt32} {name : String} (h : name ∈ setFaults flags) :
    Verbatim (codes name) := by
  have hall : ∀ fault ∈ faultNames, Verbatim (codes fault.name) := by decide
  obtain ⟨fault, hfault, rfl⟩ := List.mem_map.mp h
  exact hall fault (List.mem_of_mem_filter hfault)

theorem printItems_strings {names : List String} (h : ∀ name ∈ names, Verbatim (codes name)) :
    printItems (names.map fun name => .string (codes name)) =
      commaJoin (names.map fun name => quoted (codes name)) := by
  have hmore : ∀ names : List String, (∀ name ∈ names, Verbatim (codes name)) →
      printMoreItems (names.map fun name => .string (codes name)) =
        (names.map fun name => quoted (codes name)).flatMap (44 :: ·) := by
    intro names hnames
    induction names with
    | nil => rfl
    | cons name names ih =>
        have hname := hnames name List.mem_cons_self
        rw [List.map_cons, List.map_cons, List.flatMap_cons, printMoreItems, Json.print, hname.print,
          ih fun name hname => hnames name (.tail _ hname)]
  cases names with
  | nil => rfl
  | cons name names =>
      have hname := h name List.mem_cons_self
      rw [List.map_cons, List.map_cons, commaJoin_cons, printItems, Json.print, hname.print,
        hmore names fun name hname => h name (.tail _ hname)]

theorem print_faults (flags : UInt32) :
    (Json.array ((setFaults flags).map fun name => .string (codes name))).print = faultsText flags := by
  rw [Json.print, printItems_strings fun _ => verbatim_setFaults]
  rfl

/-- The texts in a report need no escape. -/
structure HealthTexts (siteId deviceId messageId : String) : Prop where
  site : Verbatim (codes siteId)
  device : Verbatim (codes deviceId)
  message : Verbatim (codes messageId)

theorem verbatim_resetReason (reason : EspResetReason) :
    Verbatim (codes (gatewayResetReason reason)) ∧ (gatewayResetReason reason).length ≤ 18 := by
  cases reason <;> decide

theorem ModbusStatus.verbatim (status : ModbusStatus) :
    Verbatim (codes status.text) ∧ status.text.length ≤ 9 := by
  cases status with
  | disabled => decide
  | polled status => cases status <;> decide

theorem verbatim_status (degraded : Bool) :
    Verbatim (codes (if degraded then "degraded" else "online")) ∧
      (if degraded then "degraded" else "online").length ≤ 8 := by
  cases degraded <;> decide

/-! ### Texts around values -/

/-- Values, each after its literal. -/
def fieldsText : List String → List Text → Text
  | literal :: literals, value :: values => codes literal ++ value ++ fieldsText literals values
  | _, _ => []

theorem length_fieldsText {literals : List String} {values : List Text}
    (h : literals.length = values.length) :
    (fieldsText literals values).length =
      (literals.map fun literal => (codes literal).length).sum + (values.map List.length).sum := by
  induction literals generalizing values with
  | nil =>
      obtain rfl := List.eq_nil_of_length_eq_zero h.symm
      rfl
  | cons literal literals ih =>
      cases values with
      | nil => cases h
      | cons value values =>
          rw [fieldsText, List.length_append, List.length_append, ih (Nat.succ.inj h), List.map_cons,
            List.map_cons, List.sum_cons, List.sum_cons]
          omega

def healthLiterals : List String :=
  ["\x7b\"schema_version\":1,\"message_id\":\"", "\",\"site_id\":\"", "\",\"device_id\":\"",
    "\",\"sequence\":", ",\"device_time\":", ",\"uptime_ms\":", ",\"firmware_version\":\"",
    "\",\"status\":\"", "\",\"rssi_dbm\":", ",\"reset_reason\":\"", "\",\"reset_count\":",
    ",\"queue_depth\":", ",\"queue_capacity\":", ",\"dropped_message_count\":",
    ",\"modbus_status\":\"", "\",\"active_faults\":", "\x7d"]

section Document

variable {simulation : Bool} {siteId deviceId messageId : String} {deviceTime : Option String}
  {reads : HealthReads}

/-- The values of a report, as they are printed. -/
def healthValues (simulation : Bool) (siteId deviceId messageId : String) (deviceTime : Option String)
    (reads : HealthReads) : List Text :=
  [codes messageId, codes siteId, codes deviceId, printNat reads.sequence.toNat,
    (timeJson deviceTime).print, printNat reads.uptimeMs.toNat, codes (firmwareVersion simulation),
    codes (if reads.degraded then "degraded" else "online"),
    (signedNumber (gatewayWifiRssiDbm reads.accessPoint)).print,
    codes (gatewayResetReason reads.resetReason), printNat reads.resetCount.toNat,
    printNat reads.queue.count, printNat reads.queue.capacity,
    printNat reads.queue.droppedMessageCount.toNat, codes reads.modbusStatus.text,
    faultsText reads.activeFaults, []]

set_option maxRecDepth 2000 in
theorem print_healthJson (h : HealthTexts siteId deviceId messageId) :
    (healthJson simulation siteId deviceId messageId deviceTime reads).print =
      fieldsText healthLiterals
        (healthValues simulation siteId deviceId messageId deviceTime reads) := by
  have hkey : ∀ {key : String}, Verbatim (codes key) → printString (codes key) = quoted (codes key) :=
    fun hkey => hkey.print
  have hone : printNat 1 = [49] := by simp [printNat, decimalDigits]
  have hfaults := print_faults reads.activeFaults
  rw [Json.print] at hfaults
  unfold healthJson healthValues
  simp (disch := decide) only [Json.print, printMembers, printMoreMembers, h.site.print, h.device.print,
    h.message.print, (verbatim_firmwareVersion simulation).1.print, (verbatim_status reads.degraded).1.print,
    (verbatim_resetReason reads.resetReason).1.print, reads.modbusStatus.verbatim.1.print, hkey,
    print_ofNat, hone, hfaults]
  generalize codes siteId = site
  generalize codes deviceId = device
  generalize codes messageId = message
  generalize codes (firmwareVersion simulation) = firmware
  generalize codes (if reads.degraded = true then "degraded" else "online") = status
  generalize codes (gatewayResetReason reads.resetReason) = reason
  generalize codes reads.modbusStatus.text = modbus
  generalize faultsText reads.activeFaults = faults
  generalize (timeJson deviceTime).print = time
  generalize (signedNumber (gatewayWifiRssiDbm reads.accessPoint)).print = rssi
  simp only [healthLiterals, fieldsText, quoted, List.append_assoc, List.cons_append, List.nil_append, List.append_nil]
  rfl

theorem length_signedNumber_le {value : Int} (h : value.natAbs < 1000) :
    (signedNumber value).print.length ≤ 4 := by
  have hdigits := length_number_le (show 1 ≤ 3 by decide) (show value.natAbs < 10 ^ 3 by omega)
  rw [print_signedNumber, List.length_append]
  split_ifs
  · rw [List.length_singleton]
    omega
  · rw [List.length_nil]
    omega

theorem length_rssi_le (accessPoint : Option Int8) :
    (signedNumber (gatewayWifiRssiDbm accessPoint)).print.length ≤ 4 := by
  apply length_signedNumber_le
  unfold gatewayWifiRssiDbm
  cases accessPoint with
  | none => decide
  | some rssi =>
      have hlow := rssi.le_toInt
      have hhigh := rssi.toInt_lt
      dsimp only
      omega

theorem length_word (word : UInt32) : (printNat word.toNat).length ≤ 10 :=
  length_number_le (by decide) (lt_of_lt_of_le word.toNat_lt (by decide))

theorem length_healthJson_le (h : HealthTexts siteId deviceId messageId) (hqueue : reads.queue.WellFormed) :
    (healthJson simulation siteId deviceId messageId deviceTime reads).print.length ≤
      662 + (codes messageId).length + (codes siteId).length + (codes deviceId).length +
        (timeJson deviceTime).print.length := by
  have hcount := hqueue.count_le
  have hcapacity := hqueue.capacity_le
  have hdepth := length_number_le (show 1 ≤ 2 by decide) (show reads.queue.count < 10 ^ 2 by omega)
  have hroom := length_number_le (show 1 ≤ 2 by decide) (show reads.queue.capacity < 10 ^ 2 by omega)
  have hfirmware := (verbatim_firmwareVersion simulation).2
  have hstatus := (verbatim_status reads.degraded).2
  have hreason := (verbatim_resetReason reads.resetReason).2
  have hmodbus := reads.modbusStatus.verbatim.2
  have hrssi := length_rssi_le reads.accessPoint
  have hfaults := length_faults reads.activeFaults
  have hsequence := length_counter reads.sequence
  have huptime := length_counter reads.uptimeMs
  have hresets := length_word reads.resetCount
  have hdropped := length_word reads.queue.droppedMessageCount
  have hliterals : (healthLiterals.map fun literal => (codes literal).length).sum ≤ 360 := by decide
  rw [print_healthJson h, length_fieldsText (by rfl)]
  rw [← length_codes] at hfirmware hstatus hreason hmodbus
  simp only [healthValues, List.map_cons, List.map_nil, List.sum_cons, List.sum_nil, List.length_nil]
  linarith

end Document

/-! ### The bytes -/

/-- The loop of `append_fault_names` where there is room for every name. -/
theorem appendFaultName_eq {capacity : Nat} {flags : UInt32} {values : List FaultName} {first : Bool}
    {output : List UInt8} (hplain : ∀ value ∈ values, Plain (codes value.name))
    (hroom : output.length + (values.map fun value => (codes value.name).length + 3).sum + 2 ≤ capacity) :
    appendFaultName capacity flags values first output =
      output ++ plainBytes (joinedNames first
        ((values.filter fun value => flags &&& value.flag ≠ 0).map (·.name))) ++ literalText "]" := by
  induction values generalizing first output with
  | nil =>
      have hempty : joinedNames first [] = [] := by cases first <;> rfl
      rw [List.map_nil, List.sum_nil] at hroom
      rw [List.filter_nil, List.map_nil, hempty]
      unfold appendFaultName closeFaultNames
      rw [if_pos (by omega)]
      simp [plainBytes]
  | cons value values ih =>
      have hname := hplain value List.mem_cons_self
      have hrest := fun value' hvalue' => hplain value' (.tail _ hvalue')
      rw [List.map_cons, List.sum_cons] at hroom
      unfold appendFaultName
      by_cases hset : flags &&& value.flag = 0
      · rw [if_pos hset, List.filter_cons_of_neg (by simpa using hset)]
        exact ih hrest (by omega)
      · have hcomma : literalText (if first then "" else ",") =
            plainBytes (codes (if first then "" else ",")) := by
          apply literalText_plain
          cases first <;> decide
        have hcommaLength : (codes (if first then "" else ",")).length ≤ 1 := by cases first <;> decide
        have hquote : (codes "\"").length = 1 := by decide
        rw [if_neg hset, List.filter_cons_of_pos (by simpa using hset), List.map_cons, joinedNames_cons,
          hcomma, literalText_plain hname, literalText_plain (show Plain (codes "\"") by decide),
          ← plainBytes_append, ← plainBytes_append, ← plainBytes_append]
        generalize hpiece : codes (if first then "" else ",") ++ codes "\"" ++ codes value.name ++
          codes "\"" = piece
        have hlength : piece.length ≤ (codes value.name).length + 3 := by
          rw [← hpiece]
          simp only [List.length_append]
          omega
        dsimp only
        rw [length_plainBytes, if_neg (by omega), ih hrest
          (by rw [List.length_append, length_plainBytes]; omega), plainBytes_append,
          List.append_assoc output]

theorem appendFaultNames_eq (flags : UInt32) :
    appendFaultNames 320 flags = plainBytes (faultsText flags) := by
  have htext : plainBytes (faultsText flags) =
      literalText "[" ++ plainBytes (joinedNames true (setFaults flags)) ++ literalText "]" := by
    rw [literalText_plain (by decide), literalText_plain (by decide), ← plainBytes_append,
      ← plainBytes_append]
    rfl
  rw [htext]
  apply appendFaultName_eq
  · decide
  · rw [literalText_plain (by decide), length_plainBytes]
    decide

theorem length_gatewayUtcNow_le {time : Int} {now : String} (h : gatewayUtcNow time 32 = some now) :
    (codes now).length ≤ 26 := by
  obtain ⟨utc, hutc, htext⟩ := gatewayUtcNow_eq_some h
  have hyear : (Nat.toDigits 10 utc.date.year).length ≤ 10 := by
    unfold gmtime at hutc
    rw [Option.ite_none_right_eq_some, Option.some_inj] at hutc
    obtain ⟨hrange, rfl⟩ := hutc
    rw [Nat.length_toDigits_le_iff (by decide) (by decide)]
    dsimp only
    omega
  rw [codes, List.length_map, htext, strftimeUtc, List.length_append, List.length_append, length_timeText,
    List.length_singleton]
  omega

/-- The time, in any year, or `null`. -/
theorem jsonTime_text (time : Int) : jsonTime time = plainBytes (timeJson (gatewayUtcNow time 32)).print := by
  unfold jsonTime
  cases hnow : gatewayUtcNow time 32 with
  | none =>
      unfold timeJson
      rw [Json.print]
      exact literalText_eq (by decide)
  | some now =>
      have hverbatim := verbatim_gatewayUtcNow hnow
      have hlength := length_gatewayUtcNow_le hnow
      have hformatted : literalText "\"" ++ literalText now ++ literalText "\"" =
          plainBytes (quoted (codes now)) := by
        rw [hverbatim.literalText_eq, literalText_eq (show ∀ code ∈ codes "\"", code < 128 by decide),
          ← plainBytes_append, ← plainBytes_append]
        rfl
      have hroom : (plainBytes (quoted (codes now))).length ≤ 31 := by
        unfold quoted
        rw [length_plainBytes, List.length_append, List.length_cons, List.length_singleton]
        omega
      unfold timeJson
      dsimp only
      rw [Json.print, hverbatim.print, hformatted, List.take_of_length_le (hroom.trans (by decide)),
        List.take_of_length_le hroom]

theorem length_timeJson (time : Int) : (timeJson (gatewayUtcNow time 32)).print.length ≤ 28 := by
  cases hnow : gatewayUtcNow time 32 with
  | none => decide
  | some now =>
      have hlength := length_gatewayUtcNow_le hnow
      rw [timeJson, Json.print, (verbatim_gatewayUtcNow hnow).length_print]
      omega

section Bytes

variable {simulation : Bool} {config : IiotConfig} {siteId deviceId : String} {reads : HealthReads}

theorem healthTexts (hnames : config.Names siteId deviceId) (random : Vector UInt8 16) :
    HealthTexts siteId deviceId (uuid4 random) where
  site := ((identifierPattern_iff _).mp hnames.sitePattern).verbatim
  device := ((identifierPattern_iff _).mp hnames.devicePattern).verbatim
  message := (verbatim_uuid4 random).1

/-- The document that `snprintf` formats. -/
def healthDocument (simulation : Bool) (siteId deviceId : String) (reads : HealthReads) : Text :=
  (healthJson simulation siteId deviceId (uuid4 reads.random) (gatewayUtcNow reads.time 32) reads).print

theorem healthText_eq (hnames : config.Names siteId deviceId) :
    healthText simulation config reads = plainBytes (healthDocument simulation siteId deviceId reads) := by
  have hstatus : literalText (if reads.degraded = true then "degraded" else "online") =
      plainBytes (codes (if reads.degraded then "degraded" else "online")) :=
    (verbatim_status reads.degraded).1.literalText_eq
  have hrssi : printSigned (gatewayWifiRssiDbm reads.accessPoint) =
      plainBytes (signedNumber (gatewayWifiRssiDbm reads.accessPoint)).print := by
    rw [print_signedNumber]
    rfl
  unfold healthDocument
  rw [print_healthJson (healthTexts hnames reads.random)]
  unfold healthText
  rw [gatewayMakeUuid_eq, decodeUtf8_identifier hnames.sitePattern hnames.site,
    decodeUtf8_identifier hnames.devicePattern hnames.device, jsonTime_text, hstatus, hrssi,
    (verbatim_firmwareVersion simulation).1.literalText_eq,
    (verbatim_resetReason reads.resetReason).1.literalText_eq, reads.modbusStatus.verbatim.1.literalText_eq,
    appendFaultNames_eq]
  simp (disch := decide) only [literalText_eq, printUnsigned, healthLiterals, healthValues, fieldsText,
    plainBytes_append, List.append_assoc, List.append_nil]

theorem healthDocument_fits (hnames : config.Names siteId deviceId) (hqueue : reads.queue.WellFormed) :
    (plainBytes (healthDocument simulation siteId deviceId reads)).length < 1280 := by
  have hsite := ((identifierPattern_iff _).mp hnames.sitePattern).length
  have hdevice := ((identifierPattern_iff _).mp hnames.devicePattern).length
  have hmessage := (verbatim_uuid4 reads.random).2
  have htime := length_timeJson reads.time
  have hlength := @length_healthJson_le simulation _ _ _ (gatewayUtcNow reads.time 32) _
    (healthTexts hnames reads.random) hqueue
  rw [length_plainBytes, healthDocument]
  linarith

theorem healthSuffix_text : decodeUtf8 healthSuffix.bytes = some (codes (TopicKind.text .health)) := by
  rw [decodeUtf8_iff_ascii (codes_text_ascii _)]
  exact literalText_text .health

/-- The whole document is published, on the topic of the device. -/
theorem publishHealth_eq (hnames : config.Names siteId deviceId) (hqueue : reads.queue.WellFormed)
    (payload : Vector UInt8 1280) (topic : Vector UInt8 iiotTopicMax) :
    ∃ topicBytes topicText, decodeUtf8 topicBytes = some topicText ∧
      parseTopic topicText = .ok ⟨codes siteId, codes deviceId, .health⟩ ∧
      publishHealth simulation true config payload topic reads =
        some (topicBytes, plainBytes (healthDocument simulation siteId deviceId reads)) := by
  have hmade := sameTopic topic (cString config.siteId) (cString config.deviceId) healthSuffix
  have hvalue : TopicKind.topic .health (codes siteId) (codes deviceId) = .ok _ :=
    topic_ok_iff.mpr ⟨hnames.sitePattern, hnames.devicePattern, rfl⟩
  obtain ⟨hdecoded, hparsed⟩ := hmade.text _ _ .health _ hnames.site hnames.device healthSuffix_text hvalue
  have haccepted := hmade.accepted.mpr
    ⟨_, _, .health, _, hnames.site, hnames.device, healthSuffix_text, hvalue⟩
  refine ⟨_, _, hdecoded, hparsed, ?_⟩
  unfold publishHealth gatewayMqttPublish
  rw [healthText_eq hnames]
  dsimp only
  rw [cText_printText (healthDocument_fits hnames hqueue) (Json.plain_print _).bytes_ne_zero, Bool.not_true,
    if_neg (by decide), if_pos haccepted]

end Bytes

end IiotMonitoring
