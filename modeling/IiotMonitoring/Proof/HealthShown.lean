import IiotMonitoring.Proof.CommandExchange
import IiotMonitoring.Proof.HealthReport
import IiotMonitoring.Proof.MessageOutcomes
import IiotMonitoring.Proof.TelemetryDelivery

/-!
# Health reports at the server

The server decodes the published report of a pass of `health_task` and stores its readings in the row of
the device, except for a reading that its model or a column does not hold.
-/

namespace IiotMonitoring

/-! ### What is decoded -/

/-- What pydantic documents of a report: a JSON text is read to its value, and a string is itself. -/
structure Pydantic.ReadsReports (pydantic : Pydantic) : Prop where
  documents : pydantic.json.ReadsDocuments
  parse : ∀ value : Json, value.Restorable pydanticLimits pydanticLimits.nesting →
    pydantic.parse (plainBytes value.print) = some value
  string : ∀ text : String, pydantic.json.string (.string (codes text)) = some text

/-- The strength of the signal is one that the model takes. -/
def HealthReads.SignalReadable (reads : HealthReads) : Prop :=
  -127 ≤ gatewayWifiRssiDbm reads.accessPoint ∧ gatewayWifiRssiDbm reads.accessPoint ≤ 0

instance (reads : HealthReads) : Decidable reads.SignalReadable :=
  inferInstanceAs (Decidable (_ ∧ _))

def HealthReads.reported (reads : HealthReads) : ReportedStatus :=
  if reads.degraded then .degraded else .online

/-- The envelope of a report. -/
def healthEnvelope (simulation : Bool) (siteId deviceId : String) (reads : HealthReads)
    (deviceTime : Option Int) : HealthEnvelope where
  messageId := uuid4 reads.random
  siteId := siteId
  deviceId := deviceId
  sequence := reads.sequence.toNat
  deviceTime := deviceTime
  uptimeMs := reads.uptimeMs.toNat
  firmwareVersion := firmwareVersion simulation
  status := reads.reported
  rssiDbm := some (gatewayWifiRssiDbm reads.accessPoint)
  resetReason := gatewayResetReason reads.resetReason
  resetCount := reads.resetCount.toNat
  queueDepth := reads.queue.count
  queueCapacity := reads.queue.capacity
  droppedMessageCount := reads.queue.droppedMessageCount.toNat
  modbusStatus := reads.modbusStatus.text
  activeFaults := setFaults reads.activeFaults

section Decoding

variable {scalars : PydanticScalars} {simulation : Bool} {siteId deviceId : String} {reads : HealthReads}

theorem bind_of_some {α β : Type} {value : Option α} {result : α} (h : value = some result)
    (rest : α → Option β) : value.bind rest = rest result := by
  rw [h, Option.bind_some]

theorem literalField_reported (reads : HealthReads) :
    literalField ReportedStatus.text [.online, .degraded, .offline]
        (.string (codes (if reads.degraded then "degraded" else "online"))) = some reads.reported := by
  unfold HealthReads.reported
  cases reads.degraded <;> rfl

theorem literalField_modbus (status : ModbusStatus) :
    literalField id modbusStatuses (.string (codes status.text)) = some status.text := by
  cases status with
  | disabled => rfl
  | polled status => cases status <;> rfl

theorem rssiField_eq (h : scalars.Lax) (reads : HealthReads) :
    optionalIntField scalars (-127) 0 (.number (signedNumber (gatewayWifiRssiDbm reads.accessPoint))) =
      if reads.SignalReadable then some (some (gatewayWifiRssiDbm reads.accessPoint)) else none := by
  have hint := h.int_number (signedNumber (gatewayWifiRssiDbm reads.accessPoint)) rfl
  rw [value_signedNumber, Rat.num_intCast] at hint
  unfold optionalIntField
  dsimp only
  rw [hint, Option.filter_some]
  by_cases hsignal : reads.SignalReadable
  · rw [if_pos hsignal]
    exact congrArg (Option.map some) (if_pos (decide_eq_true hsignal))
  · rw [if_neg hsignal]
    exact congrArg (Option.map some) (if_neg (by simpa [HealthReads.SignalReadable] using hsignal))

theorem textsField_setFaults (hstring : ∀ text : String, scalars.string (.string (codes text)) = some text)
    (flags : UInt32) :
    textsField scalars 32 (.array ((setFaults flags).map fun name => .string (codes name))) =
      some (setFaults flags) := by
  have hnames : ∀ names : List String,
      (names.map fun name => Json.string (codes name)).mapM scalars.string = some names := by
    intro names
    induction names with
    | nil => rfl
    | cons name names ih =>
        rw [List.map_cons, List.mapM_cons, hstring, ih]
        rfl
  have hlength : ((setFaults flags).map fun name => Json.string (codes name)).length ≤ 32 := by
    rw [List.length_map, setFaults, List.length_map]
    calc (faultNames.filter fun fault => flags &&& fault.flag ≠ 0).length
        ≤ faultNames.length := List.length_filter_le _ _
      _ ≤ 32 := by decide
  exact (if_pos hlength).trans (hnames _)

/-- A report is valid where its time is read and its signal is in range. -/
theorem validateHealth_healthJson (h : scalars.ReadsDocuments)
    (hstring : ∀ text : String, scalars.string (.string (codes text)) = some text)
    (hsite : identifierPattern (codes siteId) = true)
    (hdevice : identifierPattern (codes deviceId) = true) (hqueue : reads.queue.WellFormed)
    (deviceTime : Option String) :
    validateHealth scalars
        (healthJson simulation siteId deviceId (uuid4 reads.random) deviceTime reads) =
      (timeField scalars (timeJson deviceTime)).bind fun time =>
        if reads.SignalReadable then some (healthEnvelope simulation siteId deviceId reads time)
        else none := by
  have hversion : scalars.literalOne (.number (.ofNat 1)) = true :=
    (h.lax.literalOne (.ofNat 1) rfl).mpr (by rw [value_ofNat, Nat.cast_one])
  have hnatural : ∀ {low : Nat} (number : Nat), low ≤ number →
      natField scalars low (.number (.ofNat number)) = some number := fun _ hlow =>
    natField_ofNat h.lax hlow
  have htext : ∀ {text : String}, text.length ≤ 48 →
      textField scalars 48 (.string (codes text)) = some text := fun hlength =>
    textField_codes h.lax hlength
  unfold validateHealth
  refine (bind_of_some rfl _).trans ?_
  refine (bind_of_some ((requiredField_of_member rfl _).trans (if_pos hversion)) _).trans ?_
  refine (bind_of_some ((requiredField_of_member rfl _).trans (h.uuid _ (isUuidText_uuid4 _))) _).trans ?_
  refine (bind_of_some ((requiredField_of_member rfl _).trans (identifierField_codes h.lax hsite)) _).trans ?_
  refine (bind_of_some ((requiredField_of_member rfl _).trans
    (identifierField_codes h.lax hdevice)) _).trans ?_
  refine (bind_of_some ((requiredField_of_member rfl _).trans (hnatural _ (Nat.zero_le _))) _).trans ?_
  refine (congrArg (Option.bind · _) (requiredField_of_member rfl _)).trans ?_
  apply congrArg (Option.bind _)
  funext time
  refine (bind_of_some ((requiredField_of_member rfl _).trans (hnatural _ (Nat.zero_le _))) _).trans ?_
  refine (bind_of_some ((requiredField_of_member rfl _).trans
    (htext (verbatim_firmwareVersion simulation).2)) _).trans ?_
  refine (bind_of_some ((requiredField_of_member rfl _).trans (literalField_reported reads)) _).trans ?_
  refine (congrArg (Option.bind · _)
    ((requiredField_of_member rfl _).trans (rssiField_eq h.lax reads))).trans ?_
  by_cases hsignal : reads.SignalReadable
  · rw [if_pos hsignal, if_pos hsignal]
    refine (bind_of_some rfl _).trans ?_
    refine (bind_of_some ((requiredField_of_member rfl _).trans
      (htext ((verbatim_resetReason reads.resetReason).2.trans (by decide)))) _).trans ?_
    refine (bind_of_some ((requiredField_of_member rfl _).trans (hnatural _ (Nat.zero_le _))) _).trans ?_
    refine (bind_of_some ((requiredField_of_member rfl _).trans (hnatural _ (Nat.zero_le _))) _).trans ?_
    refine (bind_of_some ((requiredField_of_member rfl _).trans (hnatural _ hqueue.capacity_pos)) _).trans ?_
    refine (bind_of_some ((requiredField_of_member rfl _).trans (hnatural _ (Nat.zero_le _))) _).trans ?_
    refine (bind_of_some ((requiredField_of_member rfl _).trans
      (literalField_modbus reads.modbusStatus)) _).trans ?_
    exact bind_of_some ((requiredField_of_member rfl _).trans
      (textsField_setFaults hstring reads.activeFaults)) _
  · rw [if_neg hsignal, if_neg hsignal]
    rfl

end Decoding

/-! ### The document is restored -/

theorem restorable_strings {limits : JsonLimits} {nesting : Nat} (names : List String) :
    RestorableItems limits nesting (names.map fun name => .string (codes name)) := by
  induction names with
  | nil => trivial
  | cons name names ih => exact ⟨isUnicode_codes name, ih⟩

theorem within_signedNumber {limits : JsonLimits} {value : Int} (hvalue : value.natAbs < 1000)
    (hlimits : 3 ≤ limits.digits) : (signedNumber value).Within limits := by
  intro _
  have hlength := length_number_le (show 1 ≤ 3 by decide) (show value.natAbs < 10 ^ 3 by omega)
  rw [length_printNat] at hlength
  exact hlength.trans hlimits

theorem natAbs_rssi_lt (accessPoint : Option Int8) : (gatewayWifiRssiDbm accessPoint).natAbs < 1000 := by
  unfold gatewayWifiRssiDbm
  cases accessPoint with
  | none => decide
  | some rssi =>
      have hlow := rssi.le_toInt
      have hhigh := rssi.toInt_lt
      dsimp only
      omega

theorem restorable_healthJson {simulation : Bool} {siteId deviceId messageId : String} {reads : HealthReads}
    (hqueue : reads.queue.WellFormed) (deviceTime : Option String) :
    (healthJson simulation siteId deviceId messageId deviceTime reads).Restorable pydanticLimits
      pydanticLimits.nesting := by
  have hcount := hqueue.count_le
  have hcapacity := hqueue.capacity_le
  have hnatural : ∀ {number : Nat}, number < 2 ^ 64 → (JsonNumber.ofNat number).Within pydanticLimits :=
    fun hnumber => within_ofNat (lt_of_lt_of_le hnumber (show 2 ^ 64 ≤ 10 ^ (19 + 1) by decide)) (by decide)
  have htime : (timeJson deviceTime).Restorable pydanticLimits (pydanticLimits.nesting - 1) := by
    cases deviceTime with
    | none => trivial
    | some text => exact isUnicode_codes text
  have hfaults : (Json.array ((setFaults reads.activeFaults).map fun name => .string (codes name))).Restorable
      pydanticLimits (pydanticLimits.nesting - 1) := ⟨by decide, restorable_strings _⟩
  have hversion : (Json.number (.ofNat 1)).Restorable pydanticLimits (pydanticLimits.nesting - 1) :=
    hnatural (by decide)
  have hsequence : (Json.number (.ofNat reads.sequence.toNat)).Restorable pydanticLimits
      (pydanticLimits.nesting - 1) := hnatural reads.sequence.toNat_lt
  have huptime : (Json.number (.ofNat reads.uptimeMs.toNat)).Restorable pydanticLimits
      (pydanticLimits.nesting - 1) := hnatural reads.uptimeMs.toNat_lt
  have hresets : (Json.number (.ofNat reads.resetCount.toNat)).Restorable pydanticLimits
      (pydanticLimits.nesting - 1) := hnatural (lt_trans reads.resetCount.toNat_lt (by decide))
  have hdropped : (Json.number (.ofNat reads.queue.droppedMessageCount.toNat)).Restorable pydanticLimits
      (pydanticLimits.nesting - 1) :=
    hnatural (lt_trans reads.queue.droppedMessageCount.toNat_lt (by decide))
  have hdepth : (Json.number (.ofNat reads.queue.count)).Restorable pydanticLimits
      (pydanticLimits.nesting - 1) := hnatural (by omega)
  have hroom : (Json.number (.ofNat reads.queue.capacity)).Restorable pydanticLimits
      (pydanticLimits.nesting - 1) := hnatural (by omega)
  have hrssi : (Json.number (signedNumber (gatewayWifiRssiDbm reads.accessPoint))).Restorable pydanticLimits
      (pydanticLimits.nesting - 1) := within_signedNumber (natAbs_rssi_lt _) (by decide)
  have htext : ∀ text : String, (Json.string (codes text)).Restorable pydanticLimits
      (pydanticLimits.nesting - 1) := isUnicode_codes
  unfold healthJson
  rw [Json.Restorable]
  refine ⟨by decide, ?_⟩
  simp only [RestorableMembers, isUnicode_codes, hversion, htime, hfaults, hsequence, huptime, hresets,
    hdropped, hdepth, hroom, hrssi, htext, and_self]

/-! ### What is stored -/

/-- The counters fit their columns. -/
def HealthReads.CountersFit (reads : HealthReads) : Prop :=
  reads.resetCount.toNat < 2 ^ 31 ∧ reads.queue.droppedMessageCount.toNat < 2 ^ 31

instance (reads : HealthReads) : Decidable reads.CountersFit := inferInstanceAs (Decidable (_ ∧ _))

/-- The row shows the readings. -/
structure Device.Shows (device : Device) (simulation : Bool) (reads : HealthReads) (now : Int) : Prop where
  firmwareVersion : device.firmwareVersion = some (IiotMonitoring.firmwareVersion simulation)
  reportedStatus : device.reportedStatus = reads.reported
  lastSeenAt : device.lastSeenAt = some now
  rssiDbm : device.rssiDbm = some (gatewayWifiRssiDbm reads.accessPoint)
  resetReason : device.resetReason = some (gatewayResetReason reads.resetReason)
  resetCount : device.resetCount = reads.resetCount.toNat
  queueDepth : device.queueDepth = reads.queue.count
  queueCapacity : device.queueCapacity = reads.queue.capacity
  droppedMessageCount : device.droppedMessageCount = reads.queue.droppedMessageCount.toNat
  modbusStatus : device.modbusStatus = reads.modbusStatus.text
  activeFaults : device.activeFaults = setFaults reads.activeFaults

theorem shows_touch (simulation : Bool) (siteId deviceId : String) (reads : HealthReads)
    (deviceTime : Option Int) (now : Int) (device : Device) :
    ((healthEnvelope simulation siteId deviceId reads deviceTime).touch now device).Shows simulation reads
      now := by
  constructor <;> rfl

section Storing

variable {storesText : String → Bool} {simulation : Bool} {siteId deviceId : String} {reads : HealthReads}

/-- The database takes a report: its message is new, and its device is new or of the same site. -/
structure DataTables.Awaits (tables : DataTables) (siteId deviceId messageId : String) : Prop where
  message : tables.findHealth messageId = none
  site : ∀ device, tables.db.devices deviceId = some device → device.siteId = siteId

theorem exists_device {tables : DataTables} {messageId : String}
    (h : tables.Awaits siteId deviceId messageId) (envelope : HealthEnvelope)
    (hsite : envelope.siteId = siteId) :
    ∃ device, envelope.device (tables.db.devices deviceId) = some device := by
  cases hstored : tables.db.devices deviceId with
  | none => exact ⟨_, rfl⟩
  | some device => exact ⟨device, if_pos ((h.site device hstored).trans hsite.symm)⟩

theorem length_liveEvent_le (hdevice : identifierPattern (codes deviceId) = true)
    (hqueue : reads.queue.WellFormed) (deviceTime : Option Int) :
    (healthEnvelope simulation siteId deviceId reads deviceTime).liveEvent.print.length ≤ 7000 := by
  have hpattern := (identifierPattern_iff _).mp hdevice
  have hlength := hpattern.length
  have hcount := hqueue.count_le
  have hcapacity := hqueue.capacity_le
  have hdepth := length_number_le (show 1 ≤ 2 by decide) (show reads.queue.count < 10 ^ 2 by omega)
  have hmodbus := reads.modbusStatus.verbatim
  have hfaults := length_faults reads.activeFaults
  have hfaultsText := print_faults reads.activeFaults
  have hstatus : (printString (codes reads.reported.text)).length ≤ 10 := by
    unfold HealthReads.reported
    cases reads.degraded <;> decide
  have hkeys : ∀ key ∈ ["type", "health", "device_id", "status", "queue_depth", "modbus_status",
      "active_faults"], (printString (codes key)).length ≤ 15 := by decide
  rw [← length_codes] at hmodbus
  rw [Json.print] at hfaultsText
  simp only [List.forall_mem_cons] at hkeys
  unfold HealthEnvelope.liveEvent healthEnvelope
  simp only [Json.print, printMembers, printMoreMembers, List.length_append, List.length_cons,
    List.length_nil, print_ofNat, hpattern.verbatim.length_print, hmodbus.1.length_print, hfaultsText]
  linarith [hmodbus.2]

theorem fits_touch_iff (hstores : ∀ text, Verbatim (codes text) → storesText text = true)
    (hqueue : reads.queue.WellFormed) (deviceTime : Option Int) (now : Int) (device : Device) :
    ((healthEnvelope simulation siteId deviceId reads deviceTime).touch now device).fits storesText = true ↔
      reads.CountersFit := by
  have hcount := hqueue.count_le
  have hcapacity := hqueue.capacity_le
  have hfirmware := hstores _ (verbatim_firmwareVersion simulation).1
  have hreason := hstores _ (verbatim_resetReason reads.resetReason).1
  unfold Device.fits HealthEnvelope.touch healthEnvelope HealthReads.CountersFit fitsInteger
  simp only [Option.all_some, hfirmware, hreason, Bool.and_eq_true, decide_eq_true_eq, true_and]
  omega

/-- What becomes of a decoded report. -/
theorem persistHealth_report (hstores : ∀ text, Verbatim (codes text) → storesText text = true)
    (hdevice : identifierPattern (codes deviceId) = true) (hqueue : reads.queue.WellFormed)
    {tables : DataTables} (htables : tables.Awaits siteId deviceId (uuid4 reads.random))
    (deviceTime : Option Int) (now : Int) :
    (reads.CountersFit →
      ∃ device, persistHealth storesText tables
          (healthEnvelope simulation siteId deviceId reads deviceTime) now =
        (.ok ⟨.inserted, uuid4 reads.random⟩,
          tables.writeHealth (healthEnvelope simulation siteId deviceId reads deviceTime)
            ((healthEnvelope simulation siteId deviceId reads deviceTime).touch now device))) ∧
      (¬ reads.CountersFit →
        persistHealth storesText tables (healthEnvelope simulation siteId deviceId reads deviceTime) now =
          (.error .dataError, tables)) := by
  have hlength := @length_liveEvent_le simulation siteId _ _ hdevice hqueue deviceTime
  have hfits := @fits_touch_iff _ simulation siteId deviceId _ hstores hqueue deviceTime now
  have hmessage : tables.findHealth
      (healthEnvelope simulation siteId deviceId reads deviceTime).messageId = none := htables.message
  generalize henvelope : healthEnvelope simulation siteId deviceId reads deviceTime = envelope at *
  have hidentity : envelope.siteId = siteId ∧ envelope.deviceId = deviceId ∧
      envelope.messageId = uuid4 reads.random := by
    rw [← henvelope]
    exact ⟨rfl, rfl, rfl⟩
  obtain ⟨device, hstored⟩ := exists_device htables envelope hidentity.1
  unfold persistHealth
  rw [hmessage, if_neg (by decide), hidentity.2.1, hstored, hidentity.2.2]
  dsimp only
  rw [if_neg (Nat.not_lt.mpr hlength)]
  constructor
  · intro hcounters
    exact ⟨device, if_pos ((hfits device).mpr hcounters)⟩
  · intro hcounters
    exact if_neg (mt (hfits device).mp hcounters)

end Storing

/-! ### The whole way -/

section Delivery

variable {limits : JsonLimits} {pydantic : Pydantic} {format : FloatFormat} {storesText : String → Bool}
  {simulation : Bool} {config : IiotConfig} {siteId deviceId : String} {reads : HealthReads}

/-- The report is published, and the server stores it and shows it in the row of the device. -/
def ReportShown (limits : JsonLimits) (pydantic : Pydantic) (format : FloatFormat)
    (storesText : String → Bool) (simulation : Bool) (config : IiotConfig) (deviceId : String)
    (payload : Vector UInt8 1280) (topic : Vector UInt8 iiotTopicMax) (reads : HealthReads)
    (clock : MessageClock) (tables : ServerTables) : Prop :=
  ∃ topicBytes topicText document after device,
    publishHealth simulation true config payload topic reads = some (topicBytes, document) ∧
      decodeUtf8 topicBytes = some topicText ∧
      handleMessage limits pydantic format storesText clock tables topicText document =
        (.ok .inserted, after) ∧
      after.db.devices deviceId = some device ∧ device.Shows simulation reads clock.now

/-- What the decoder makes of a published report. -/
theorem decodeHealth_report (hpydantic : pydantic.ReadsReports) (hnames : config.Names siteId deviceId)
    (hqueue : reads.queue.WellFormed) {topic : Text}
    (htopic : parseTopic topic = .ok ⟨codes siteId, codes deviceId, .health⟩)
    (decoded : Except MessageError HealthEnvelope) :
    decodeHealth pydantic topic (plainBytes (healthDocument simulation siteId deviceId reads)) = decoded ↔
      (∃ time, timeField pydantic.json (timeJson (gatewayUtcNow reads.time 32)) = some time ∧
          reads.SignalReadable ∧ decoded = .ok (healthEnvelope simulation siteId deviceId reads time)) ∨
        ¬ ((∃ time, timeField pydantic.json (timeJson (gatewayUtcNow reads.time 32)) = some time) ∧
          reads.SignalReadable) ∧ decoded = .error .validation := by
  have hsize : ¬ maxPayloadBytes < (plainBytes (healthDocument simulation siteId deviceId reads)).length :=
    Nat.not_lt.mpr ((healthDocument_fits hnames hqueue).le.trans (by decide))
  have hvalid := @validateHealth_healthJson pydantic.json simulation siteId deviceId reads
    hpydantic.documents hpydantic.string hnames.sitePattern hnames.devicePattern hqueue
    (gatewayUtcNow reads.time 32)
  have hparse : pydantic.parse (plainBytes (healthDocument simulation siteId deviceId reads)) =
      some (healthJson simulation siteId deviceId (uuid4 reads.random) (gatewayUtcNow reads.time 32)
        reads) := hpydantic.parse _ (restorable_healthJson hqueue _)
  unfold decodeHealth decodeJson
  rw [htopic]
  dsimp only
  rw [if_pos rfl, if_neg hsize, hparse, Option.bind_some, hvalid]
  cases timeField pydantic.json (timeJson (gatewayUtcNow reads.time 32)) with
  | none => simp [eq_comm]
  | some time =>
      rw [Option.bind_some]
      by_cases hsignal : reads.SignalReadable
      · have haccepted : ParsedTopic.accept ⟨codes siteId, codes deviceId, .health⟩ siteId deviceId
            (healthEnvelope simulation siteId deviceId reads time) =
              .ok (healthEnvelope simulation siteId deviceId reads time) := if_pos ⟨rfl, rfl⟩
        rw [if_pos hsignal]
        simp only [hsignal, Option.some_inj, exists_eq_left', exists_eq', true_and, and_self, not_true,
          false_and, or_false]
        rw [eq_comm (a := decoded), ← haccepted]
        rfl
      · rw [if_neg hsignal]
        simp [hsignal, eq_comm]

/-- **From the gateway's readings to the server's row.** The report of a pass of `health_task` is stored
and shown as it was read if and only if the signal is between -127 and 0 dBm, the clock shows a year that
the server can read, and the reset and drop counters fit in 31 bits. -/
theorem report_shown_iff (hpydantic : pydantic.ReadsReports)
    (hstores : ∀ text, Verbatim (codes text) → storesText text = true)
    (hnames : config.Names siteId deviceId) (hqueue : reads.queue.WellFormed) {tables : ServerTables}
    (htables : tables.toDataTables.Awaits siteId deviceId (uuid4 reads.random))
    (payload : Vector UInt8 1280) (topic : Vector UInt8 iiotTopicMax) (clock : MessageClock) :
    ReportShown limits pydantic format storesText simulation config deviceId payload topic reads clock
        tables ↔
      reads.SignalReadable ∧ ClockReadable reads.time ∧ reads.CountersFit := by
  obtain ⟨topicBytes, topicText, htopicText, htopic, hpublished⟩ :=
    @publishHealth_eq simulation _ _ _ _ hnames hqueue payload topic
  have hdecode := @decodeHealth_report pydantic simulation _ _ _ _ hpydantic hnames hqueue _ htopic
  generalize plainBytes (healthDocument simulation siteId deviceId reads) = document at *
  rw [← timeField_readable_iff hpydantic.documents]
  have hrefused : ∀ error, decodeHealth pydantic topicText document = .error error →
      handleMessage limits pydantic format storesText clock tables topicText document =
        tables.refuse (pydantic.errorCount document) error := by
    intro error herror
    unfold handleMessage
    rw [htopic]
    dsimp only
    rw [herror]
  have haccepted : ∀ envelope, decodeHealth pydantic topicText document = .ok envelope →
      handleMessage limits pydantic format storesText clock tables topicText document =
        tables.finish (persistHealth storesText tables.toDataTables envelope clock.now) := by
    intro envelope henvelope
    unfold handleMessage
    rw [htopic]
    dsimp only
    rw [henvelope]
  constructor
  · rintro ⟨topicBytes', topicText', document', after, device, hpublished', htopicText', hresult, -, -⟩
    rw [hpublished] at hpublished'
    obtain ⟨rfl, rfl⟩ := Prod.ext_iff.mp (Option.some.inj hpublished')
    rw [htopicText] at htopicText'
    obtain rfl := Option.some.inj htopicText'
    obtain ⟨time, htime, hsignal, hdecoded⟩ | ⟨-, hdecoded⟩ := (hdecode _).mp rfl
    · refine ⟨hsignal, ⟨time, htime⟩, ?_⟩
      by_contra hcounters
      have hpersist := (@persistHealth_report _ simulation _ _ _ hstores hnames.devicePattern hqueue _
        htables time clock.now).2 hcounters
      rw [haccepted _ hdecoded, hpersist] at hresult
      cases hresult
    · rw [hrefused _ hdecoded] at hresult
      cases hresult
  · rintro ⟨hsignal, ⟨time, htime⟩, hcounters⟩
    have hdecoded := (hdecode _).mpr (.inl ⟨time, htime, hsignal, rfl⟩)
    obtain ⟨device, hpersist⟩ := (@persistHealth_report _ simulation _ _ _ hstores hnames.devicePattern
      hqueue _ htables time clock.now).1 hcounters
    have hhandled := haccepted _ hdecoded
    rw [hpersist] at hhandled
    exact ⟨topicBytes, topicText, document, _, _, hpublished, htopicText, hhandled,
      Function.update_self .., shows_touch ..⟩

end Delivery

/-! ### A report -/

def reportPydantic : Pydantic :=
  ⟨documentScalars, documentScalars, fun bytes => (jsonLoads pydanticLimits bytes).toOption, fun _ => 1⟩

theorem readsReports_reportPydantic : reportPydantic.ReadsReports where
  documents := readsDocuments_documentScalars
  parse value hvalue := by
    unfold reportPydantic
    dsimp only
    rw [jsonLoads_restorable hvalue]
    rfl
  string text := by
    have hcodes : (codes text).map Char.ofNat = text.toList := by
      rw [codes, List.map_map]
      exact (List.map_congr_left fun character _ => Char.ofNat_toNat character).trans (List.map_id _)
    have hstring : reportPydantic.json.string (.string (codes text)) =
        some (String.ofList ((codes text).map Char.ofNat)) := rfl
    rw [hstring, hcodes, String.ofList_toList]

/-- A restart by the task watchdog, with a lost sensor and a full queue. -/
def faultyReads : HealthReads where
  activeFaults := 0x22
  random := Vector.replicate 16 0
  queue := { iiotOfflineQueueInit 32 with count := 32, droppedMessageCount := 5 }
  modbusChecked := .polled .timeout
  modbusStatus := .polled .timeout
  sequence := 4097
  time := 0
  uptimeMs := 61000
  accessPoint := some (-71)
  resetReason := .taskWatchdog
  resetCount := 12

theorem faultyReads_shown :
    ReportShown ⟨1000, 4300⟩ reportPydantic silentFormat (fun _ => true) true iiotConfigDefaults "motor-01"
      (zeroArray 1280) (zeroArray iiotTopicMax) faultyReads ⟨1798761600000000, 0, 0, 0⟩
      ⟨⟨⟨[], fun _ => none, fun _ => none, []⟩, [], ⟨fun _ => none, [], []⟩⟩, []⟩ := by
  apply (report_shown_iff readsReports_reportPydantic (fun _ _ => rfl) demo_names
    ⟨by decide, by decide, by decide, by decide⟩ ⟨rfl, fun _ hdevice => by cases hdevice⟩ (zeroArray 1280)
    (zeroArray iiotTopicMax) _).mpr
  exact ⟨by decide, (fun _ hnow => by cases hnow), by decide⟩

end IiotMonitoring
