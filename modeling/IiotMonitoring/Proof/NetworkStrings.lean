import IiotMonitoring.Firmware.Network
import IiotMonitoring.Proof.Provisioning
import IiotMonitoring.Proof.Topics

/-!
# The settings the network gets

Which of the strings of a configuration reach the network in full. All buffers are large enough but
those of the SSID and the password, whose terminator takes a byte that the settings may use.
-/

namespace IiotMonitoring

/-! ### Stored configurations -/

section Console

variable (strtof : List UInt8 → ParsedNumber CFloat)

/-- A configuration after assignments of fields, which need not be accepted. -/
def assigned (initial : IiotConfig) (assignments : List (CString × CString)) : IiotConfig :=
  assignments.foldl
    (fun config assignment => (applyField strtof config assignment.1.bytes assignment.2.bytes).2)
    initial

/-- A configuration that `COMMIT` puts into the flash after assignments of fields. -/
def CommitStores (initial stored : IiotConfig) : Prop :=
  ∃ assignments old,
    let outcome := (handleLine strtof (assigned strtof initial assignments)
      (literalText "COMMIT")).run (configDevice .ok .ok keepOld) (.holding old)
    outcome.1.reply = .saved ∧ outcome.2 = .holding (.blob (configLayout.encode stored))

/-- Only valid configurations are stored. -/
theorem CommitStores.valid {initial stored : IiotConfig} (h : CommitStores strtof initial stored) :
    iiotConfigValidate stored = true := by
  obtain ⟨assignments, old, hsaved, hflash⟩ := h
  have hstep := run_handleLine strtof (assigned strtof initial assignments) (literalText "COMMIT") old
    .ok .ok
  generalize (handleLine strtof (assigned strtof initial assignments) (literalText "COMMIT")).run
    (configDevice .ok .ok keepOld) (.holding old) = outcome at hstep hsaved hflash
  cases hstep with
  | answered config' reply hconfig hother => exact absurd hsaved hother
  | aborted => cases hsaved
  | accepted field value assignment hread hvalue => cases hsaved
  | saved hline hprovisioned hvalid =>
      have himage := StoredBlob.blob.inj (congrArg ConfigFlash.stored hflash)
      have hstored := congrArg configLayout.decode himage
      rw [configLayout.decode_encode, configLayout.decode_encode] at hstored
      rwa [← hstored]

end Console

/-! ### What the network gets -/

/-- Every string of the configuration is used in full. -/
structure UsesInFull (config : IiotConfig) (strings : NetworkStrings) : Prop where
  ssid : cText strings.ssid = cText config.wifiSsid
  password : cText strings.password = cText config.wifiPassword
  commandTopic : cText strings.commandTopic =
    topicText (cString config.siteId) (cString config.deviceId) commandsSuffix
  availabilityTopic : cText strings.availabilityTopic =
    topicText (cString config.siteId) (cString config.deviceId) availabilitySuffix
  brokerUri : cText strings.brokerUri = brokerUriText config
  availabilityLwt : cText strings.availabilityLwt = availabilityLwtText config
  availabilityOnline : cText strings.availabilityOnline = availabilityOnlineText config

section Buffers

variable {config : IiotConfig}

theorem identifierIsValid_cString (array : Vector UInt8 64) :
    (cString array).identifierIsValid = identifierIsValid array := by
  have hlength : min (cText array).length (iiotIdMax + 1) = (cText array).length :=
    Nat.min_eq_left (length_cText_le array)
  unfold CString.identifierIsValid identifierIsValid cString
  dsimp only
  rw [hlength, List.take_length]

theorem length_identifier {array : Vector UInt8 64} (h : identifierIsValid array = true) :
    (cText array).length ≤ 63 := by
  rw [identifierIsValid, decide_eq_true_iff] at h
  exact h.2.1

/-- A URI of the longest host and port fits its buffer. -/
theorem cText_brokerUri (hvalid : iiotConfigValidate config = true) :
    cText (printText (zeroArray 176) (brokerUriText config)) = brokerUriText config := by
  obtain ⟨-, -, -, ⟨-, hhost, -⟩, -⟩ := (iiotConfigValidate_iff config).mp hvalid
  have hport : (printUnsigned config.mqttPort.toNat).length ≤ 5 := by
    have hlt := config.mqttPort.toNat_lt
    apply length_printUnsigned_le
    · omega
    · omega
  have hscheme : (literalText "mqtt://").length = 7 := by decide +kernel
  have hcolon : (literalText ":").length = 1 := by decide +kernel
  apply cText_printText
  · simp only [brokerUriText, List.length_append, hscheme, hcolon]
    omega
  · have hzero : ∀ byte ∈ literalText "mqtt://" ++ literalText ":", byte ≠ 0 := by decide +kernel
    intro byte hbyte
    simp only [brokerUriText, List.mem_append] at hbyte
    rcases hbyte with ((hbyte | hbyte) | hbyte) | hbyte
    · exact hzero byte (List.mem_append_left _ hbyte)
    · exact ne_zero_of_mem_cText hbyte
    · exact hzero byte (List.mem_append_right _ hbyte)
    · exact mem_printUnsigned_ne_zero hbyte

/-- A payload with the longest identifiers fits its buffer. -/
theorem cText_availability (hvalid : iiotConfigValidate config = true) {status reason : String}
    (hlength : (literalText status ++ literalText reason).length ≤ 17)
    (htext : ∀ byte ∈ literalText status ++ literalText reason, byte ≠ 0) :
    cText (printText (zeroArray 256) (availabilityText config status reason)) =
      availabilityText config status reason := by
  obtain ⟨-, -, ⟨hsite, hdevice⟩, -⟩ := (iiotConfigValidate_iff config).mp hvalid
  have hsiteLength := length_identifier hsite
  have hdeviceLength := length_identifier hdevice
  have hfixed : (literalText "\x7b\"schema_version\":1,\"site_id\":\"" ++
      literalText "\",\"device_id\":\"" ++ literalText "\",\"status\":\"" ++
      literalText "\",\"reason\":\"" ++ literalText "\"\x7d").length ≤ 85 := by decide +kernel
  rw [List.length_append] at hlength
  simp only [List.length_append] at hfixed
  apply cText_printText
  · simp only [availabilityText, List.length_append]
    omega
  · have hzero : ∀ byte ∈ literalText "\x7b\"schema_version\":1,\"site_id\":\"" ++
      literalText "\",\"device_id\":\"" ++ literalText "\",\"status\":\"" ++
      literalText "\",\"reason\":\"" ++ literalText "\"\x7d", byte ≠ 0 := by decide +kernel
    simp only [List.mem_append] at hzero htext
    intro byte hbyte
    simp only [availabilityText, List.mem_append] at hbyte
    rcases hbyte with (((((((hbyte | hbyte) | hbyte) | hbyte) | hbyte) | hbyte) | hbyte) | hbyte) | hbyte
    · exact hzero byte (by simp [hbyte])
    · exact ne_zero_of_mem_cText hbyte
    · exact hzero byte (by simp [hbyte])
    · exact ne_zero_of_mem_cText hbyte
    · exact hzero byte (by simp [hbyte])
    · exact htext byte (.inl hbyte)
    · exact hzero byte (by simp [hbyte])
    · exact htext byte (.inr hbyte)
    · exact hzero byte (by simp [hbyte])

/-- The array of a made topic holds it. -/
theorem iiotMakeTopic_identifiers (output : Vector UInt8 iiotTopicMax) {suffix : CString}
    (hsite : identifierIsValid config.siteId = true)
    (hdevice : identifierIsValid config.deviceId = true)
    (hsuffix : (knownSuffixes.any fun known => suffix.bytes = literalText known) = true) :
    ∃ array, iiotMakeTopic output (cString config.siteId) (cString config.deviceId) suffix =
        (true, array) ∧
      cText array = topicText (cString config.siteId) (cString config.deviceId) suffix := by
  rw [← identifierIsValid_cString] at hsite hdevice
  refine ⟨_, iiotMakeTopic_eq output hsite hdevice hsuffix, ?_⟩
  exact cText_printText (length_topicText hsite hdevice hsuffix) (topicText_terminated _ _ suffix)

/-- The network starts with every string of a valid configuration, but for what the SSID and the
password lose. -/
theorem gatewayNetworkStart_valid (hvalid : iiotConfigValidate config = true)
    (availabilityTopic : Vector UInt8 iiotTopicMax) :
    ∃ strings, gatewayNetworkStart availabilityTopic config = some strings ∧
      cText strings.ssid = (cText config.wifiSsid).take 31 ∧
      cText strings.password = (cText config.wifiPassword).take 63 ∧
      (UsesInFull config strings ↔ cText strings.ssid = cText config.wifiSsid ∧
        cText strings.password = cText config.wifiPassword) := by
  obtain ⟨-, -, ⟨hsite, hdevice⟩, -⟩ := (iiotConfigValidate_iff config).mp hvalid
  obtain ⟨commandTopic, hcommand, hcommandText⟩ := @iiotMakeTopic_identifiers config
    (zeroArray iiotTopicMax) commandsSuffix hsite hdevice (by decide +kernel)
  obtain ⟨available, havailability, havailabilityText⟩ := @iiotMakeTopic_identifiers config
    availabilityTopic availabilitySuffix hsite hdevice (by decide +kernel)
  have hnonzero : ∀ {size : Nat} (array : Vector UInt8 size), ∀ byte ∈ cText array, byte ≠ 0 :=
    fun _ _ => ne_zero_of_mem_cText
  unfold gatewayNetworkStart
  dsimp only
  rw [hcommand, havailability]
  refine ⟨_, rfl, ?_, ?_, ?_⟩
  · exact cText_printText_take (by decide) (hnonzero _)
  · exact cText_printText_take (by decide) (hnonzero _)
  · constructor
    · exact fun h => ⟨h.ssid, h.password⟩
    · rintro ⟨hssid, hpassword⟩
      exact ⟨hssid, hpassword, hcommandText, havailabilityText, cText_brokerUri hvalid,
        cText_availability hvalid (by decide +kernel) (by decide +kernel),
        cText_availability hvalid (by decide +kernel) (by decide +kernel)⟩

end Buffers

/-- **What reaches the network.** A stored configuration is used in full if and only if its SSID and its
password leave room for a terminator in the driver's arrays. -/
theorem networkStart_inFull_iff (strtof : List UInt8 → ParsedNumber CFloat)
    {initial stored : IiotConfig} (hstored : CommitStores strtof initial stored)
    (availabilityTopic : Vector UInt8 iiotTopicMax) :
    (∃ strings, gatewayNetworkStart availabilityTopic stored = some strings ∧
        UsesInFull stored strings) ↔
      (cText stored.wifiSsid).length ≤ 31 ∧ (cText stored.wifiPassword).length ≤ 63 := by
  obtain ⟨strings, hstart, hssid, hpassword, hfull⟩ := gatewayNetworkStart_valid
    (hstored.valid strtof) availabilityTopic
  rw [hstart]
  constructor
  · rintro ⟨started, hsame, huses⟩
    cases hsame
    constructor
    · exact (List.take_eq_self_iff _).mp (hssid.symm.trans huses.ssid)
    · exact (List.take_eq_self_iff _).mp (hpassword.symm.trans huses.password)
  · rintro ⟨hssidFits, hpasswordFits⟩
    refine ⟨strings, rfl, hfull.mpr ⟨?_, ?_⟩⟩
    · rw [hssid, List.take_of_length_le hssidFits]
    · rw [hpassword, List.take_of_length_le hpasswordFits]

/-! ### An SSID of 32 bytes -/

/-- A `strtof` that reads nothing. -/
def readsNothing (text : List UInt8) : ParsedNumber CFloat := ⟨⟨0⟩, text, false⟩

/-- The defaults with a network to join. -/
def joining (ssid : CString) : IiotConfig :=
  { iiotConfigDefaults with wifiSsid := storeText iiotConfigDefaults.wifiSsid ssid.bytes }

theorem assigned_ssid {ssid : CString} (hpositive : ssid.bytes.length ≠ 0)
    (hfits : ssid.bytes.length < 33) :
    assigned readsNothing iiotConfigDefaults
        [(⟨literalText "wifi_ssid", by decide +kernel⟩, ssid)] = joining ssid := by
  have hcopied : copyValue iiotConfigDefaults.wifiSsid ssid.bytes =
      (true, storeText iiotConfigDefaults.wifiSsid ssid.bytes) :=
    if_neg (by omega)
  unfold assigned
  rw [List.foldl_cons, List.foldl_nil]
  unfold applyField
  dsimp only
  rw [if_neg (by decide +kernel), if_neg (by decide +kernel), if_pos rfl, hcopied]
  rfl

/-- The SSID is not checked. -/
theorem settingsValid_ssid {config : IiotConfig} (h : config.SettingsValid) (array : Vector UInt8 33) :
    { config with wifiSsid := array }.SettingsValid := h

/-- A `COMMIT` stores it, where the SSID is a name that the setting can hold. -/
theorem commitStores_joining {ssid : CString} (hpositive : ssid.bytes.length ≠ 0)
    (hfits : ssid.bytes.length < 33)
    (hprovisioned : gatewayIsProvisioned (iiotConfigFinalize (joining ssid)) = true) :
    CommitStores readsNothing iiotConfigDefaults (savedConfig (joining ssid)) := by
  have hsettings : (joining ssid).SettingsValid :=
    settingsValid_ssid ((iiotConfigValidate_iff iiotConfigDefaults).mp validate_defaults_gateway).2.2 _
  have hrun := run_handleLine_commit readsNothing hprovisioned
    ((iiotConfigValidate_finalize_iff _).mpr hsettings) .absent .ok .ok
  refine ⟨[(⟨literalText "wifi_ssid", by decide +kernel⟩, ssid)], .absent, ?_⟩
  rw [assigned_ssid hpositive hfits, hrun, if_pos ⟨rfl, rfl⟩]
  exact ⟨rfl, rfl⟩

def shortSsid : CString := ⟨literalText "lab", by decide +kernel⟩

def longSsid : CString := ⟨List.replicate 32 97, by decide +kernel⟩

theorem shortSsid_stored :
    CommitStores readsNothing iiotConfigDefaults (savedConfig (joining shortSsid)) :=
  commitStores_joining (by decide +kernel) (by decide +kernel) (by decide +kernel)

theorem longSsid_stored :
    CommitStores readsNothing iiotConfigDefaults (savedConfig (joining longSsid)) :=
  commitStores_joining (by decide +kernel) (by decide +kernel) (by decide +kernel)

theorem networkStart_inFull_iff_short :
    (∃ strings, gatewayNetworkStart (zeroArray iiotTopicMax) (savedConfig (joining shortSsid)) =
        some strings ∧ UsesInFull (savedConfig (joining shortSsid)) strings) ↔
      (cText (savedConfig (joining shortSsid)).wifiSsid).length ≤ 31 ∧
        (cText (savedConfig (joining shortSsid)).wifiPassword).length ≤ 63 :=
  networkStart_inFull_iff readsNothing shortSsid_stored (zeroArray iiotTopicMax)

/-- Of an SSID of 32 bytes the driver gets 31. -/
theorem longSsid_not_inFull :
    CommitStores readsNothing iiotConfigDefaults (savedConfig (joining longSsid)) ∧
      ¬ ∃ strings, gatewayNetworkStart (zeroArray iiotTopicMax) (savedConfig (joining longSsid)) =
        some strings ∧ UsesInFull (savedConfig (joining longSsid)) strings := by
  refine ⟨longSsid_stored, ?_⟩
  rintro ⟨started, hsame, huses⟩
  obtain ⟨strings, hstart, hssid, -⟩ := gatewayNetworkStart_valid
    (longSsid_stored.valid readsNothing) (zeroArray iiotTopicMax)
  rw [hstart] at hsame
  cases hsame
  have hconfigured : cText (savedConfig (joining longSsid)).wifiSsid = longSsid.bytes :=
    cText_storeText (by decide) longSsid.terminated
  have hused := huses.ssid
  rw [hssid, hconfigured] at hused
  exact absurd hused (by decide)

end IiotMonitoring
