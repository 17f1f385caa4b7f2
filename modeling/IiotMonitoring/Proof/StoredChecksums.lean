import IiotMonitoring.Lib.ShiftRegister
import IiotMonitoring.Firmware.GatewayConfig
import IiotMonitoring.Proof.OfflineStored

/-!
# Corrupted structures in flash

`iiot_crc32` is a shift register of thirty-two bits whose polynomial has its highest bit. The stored
structures carry it over all their bytes before it, so a change within thirty-two consecutive bits is
noticed wherever it lies, across the checksum's boundary too. Only the bytes the compiler leaves after
a checksum are not covered.
-/

namespace IiotMonitoring

open ShiftRegister

/-! ### The register of `iiot_crc32` -/

def crc32Poly : BitVec 32 := 0xedb88320

theorem crc32Bit_toBitVec (crc : UInt32) :
    (crc32Bit crc).toBitVec = shiftOut crc32Poly crc.toBitVec := by
  have hlow : (crc &&& 1).toBitVec = BitVec.setWidth 32 (BitVec.ofBool (crc.toBitVec.getLsbD 0)) :=
    BitVec.and_one_eq_setWidth_ofBool_getLsbD
  have hmask : (0 - (crc &&& 1)).toBitVec =
      0#32 - BitVec.setWidth 32 (BitVec.ofBool (crc.toBitVec.getLsbD 0)) := by
    rw [UInt32.toBitVec_sub, hlow]
    rfl
  unfold crc32Bit shiftOut
  simp only [UInt32.toBitVec_xor, UInt32.toBitVec_and, hmask]
  cases crc.toBitVec.getLsbD 0 with
  | false => simp
  | true => simp [crc32Poly]

theorem crc32Byte_toBitVec (crc : UInt32) (byte : UInt8) :
    (crc32Byte crc byte).toBitVec = feedByte crc32Poly crc.toBitVec byte := by
  have hbits : ∀ count (value : UInt32),
      ((List.range count).foldl (fun value _ => crc32Bit value) value).toBitVec =
        (shiftOut crc32Poly)^[count] value.toBitVec := by
    intro count
    induction count with
    | zero => exact fun value => rfl
    | succ count ih =>
        intro value
        rw [List.range_succ, List.foldl_append, List.foldl_cons, List.foldl_nil,
          Function.iterate_succ_apply', crc32Bit_toBitVec, ih]
  rw [crc32Byte, hbits, feedByte, UInt32.toBitVec_xor, UInt8.toBitVec_toUInt32]

theorem iiotCrc32_toBitVec (data : List UInt8) :
    (iiotCrc32 data).toBitVec =
      checksum crc32Poly (BitVec.allOnes 32) (BitVec.allOnes 32) (streamBits data) := by
  have hfold : ∀ crc : UInt32, (data.foldl crc32Byte crc).toBitVec =
      data.foldl (feedByte crc32Poly) crc.toBitVec := by
    induction data with
    | nil => exact fun crc => rfl
    | cons byte data ih =>
        intro crc
        rw [List.foldl_cons, List.foldl_cons, ih, crc32Byte_toBitVec]
  rw [iiotCrc32, UInt32.toBitVec_not, hfold, foldl_feedByte crc32Poly (by decide), checksum,
    ← BitVec.xor_allOnes]
  rfl

/-! ### Data and checksum -/

theorem streamBits_word {check : List UInt8} (hlength : check.length = 4) :
    streamBits check = bitsOf 32 (Layout.u32.decode check).toBitVec := by
  calc streamBits check
      = streamBits (Layout.natBytes 4 (Layout.u32.decode check).toNat) :=
        congrArg streamBits (Layout.exact_u32 check hlength).symm
    _ = bitsOf 32 (Layout.u32.decode check).toBitVec := by
        rw [streamBits_natBytes]
        exact List.map_congr_left fun index _ => BitVec.testBit_toNat _

/-- The word read from corrupted bytes. -/
theorem decode_corrupt {check flips : List UInt8} (hcheck : check.length = 4)
    (hflips : flips.length = 4) :
    (Layout.u32.decode (corrupt check flips)).toBitVec =
      (Layout.u32.decode check).toBitVec ^^^ (Layout.u32.decode flips).toBitVec := by
  apply bitsOf_injective
  rw [← streamBits_word (by rw [length_corrupt (hflips.trans hcheck.symm), hcheck]),
    streamBits_corrupt (hflips.trans hcheck.symm), streamBits_word hcheck, streamBits_word hflips,
    bitsOf_xor]

/-- **Bursts in data and checksum.** Data and a checksum that agree no longer agree after an error
within thirty-two consecutive bits. -/
theorem crc32_notices {data check noise : List UInt8} (hcheck : check.length = 4)
    (hagree : Layout.u32.decode check = iiotCrc32 data)
    (hlength : noise.length = data.length + 4) (hnoise : BurstError 32 noise) :
    Layout.u32.decode ((corrupt (data ++ check) noise).drop data.length) ≠
      iiotCrc32 ((corrupt (data ++ check) noise).take data.length) := by
  obtain ⟨body, flips, rfl, hbody⟩ : ∃ body flips, noise = body ++ flips ∧
      body.length = data.length :=
    ⟨noise.take data.length, noise.drop data.length, (List.take_append_drop ..).symm, by simp [hlength]⟩
  have hflips : flips.length = 4 := by
    rw [List.length_append, hbody] at hlength
    omega
  have hcorrupt : (corrupt data body).length = data.length := length_corrupt hbody
  rw [corrupt_append hbody.symm, List.drop_left' hcorrupt, List.take_left' hcorrupt]
  intro hstill
  rw [← UInt32.toBitVec_inj, decode_corrupt hcheck hflips, hagree, iiotCrc32_toBitVec,
    iiotCrc32_toBitVec, streamBits_corrupt hbody] at hstill
  have hclear := feed_of_agree crc32Poly (BitVec.allOnes 32) (BitVec.allOnes 32)
    (by rw [length_streamBits, length_streamBits, hbody]) hstill.symm
  rw [← streamBits_word hflips, ← streamBits_append] at hclear
  exact feed_burst_ne_zero (by decide) hnoise.1 hnoise.2 hclear

/-- An image that ends in its own checksum, after `covered` bytes. -/
def SealedImage (covered : Nat) (image : List UInt8) : Prop :=
  Layout.u32.decode (image.drop covered) = iiotCrc32 (image.take covered)

theorem crc32_notices_image {covered : Nat} {image noise : List UInt8}
    (hlength : image.length = covered + 4) (hsealed : SealedImage covered image)
    (hnoise : noise.length = covered + 4) (hburst : BurstError 32 noise) :
    ¬ SealedImage covered (corrupt image noise) := by
  have hdata : (image.take covered).length = covered := by
    rw [List.length_take, hlength]
    omega
  have hcheck : (image.drop covered).length = 4 := by
    rw [List.length_drop, hlength]
    omega
  have hnotices := crc32_notices hcheck hsealed (by rw [hdata, hnoise]) hburst
  rwa [hdata, List.take_append_drop] at hnotices

/-! ### The configuration -/

theorem exact_thresholdsLayout : thresholdsLayout.Exact :=
  have hfloat : floatLayout.Exact := Layout.Exact.via _ Layout.exact_u32 fun _ => rfl
  Layout.Exact.via _ (hfloat.pair (hfloat.pair hfloat)) fun _ => rfl

theorem exact_configHeaderLayout : configHeaderLayout.Exact :=
  Layout.exact_u32.pair (Layout.exact_u16.pair (Layout.exact_u16.pair (Layout.exact_u32.pair
    ((Layout.exact_bytes 64).pair ((Layout.exact_bytes 64).pair ((Layout.exact_bytes 33).pair
    ((Layout.exact_bytes 65).pair ((Layout.exact_bytes 128).pair (Layout.exact_u16.pair
    (Layout.exact_u16.pair (Layout.exact_u16.pair (Layout.exact_u8.pair (Layout.exact_u8.pair
    ((Layout.exact_bytes 2).pair (exact_thresholdsLayout.pair (exact_thresholdsLayout.pair
    exact_thresholdsLayout))))))))))))))))

theorem exact_configLayout : configLayout.Exact :=
  Layout.Exact.via _ (exact_configHeaderLayout.pair Layout.exact_u32) fun _ => rfl

/-- The checksum test of a configuration is that of its image. -/
theorem checksum_decode_iff {image : List UInt8} (hlength : image.length = configLayout.size) :
    (configLayout.decode image).checksum = iiotConfigChecksum (configLayout.decode image) ↔
      SealedImage configHeaderLayout.size image := by
  rw [iiotConfigChecksum, exact_configLayout image hlength]
  rfl

theorem iiotConfigChecksum_finalize (config : IiotConfig) :
    (iiotConfigFinalize config).checksum = iiotConfigChecksum (iiotConfigFinalize config) := by
  simp only [iiotConfigFinalize, iiotConfigChecksum_eq, IiotConfig.header]

theorem validate_eq_false_of_checksum {config : IiotConfig}
    (hchecksum : config.checksum ≠ iiotConfigChecksum config) : iiotConfigValidate config = false := by
  unfold iiotConfigValidate iiotConfigError
  rw [if_pos hchecksum]
  split <;> rfl

/-- A corrupted configuration is not valid. -/
theorem validate_corrupt {config : IiotConfig} {noise : List UInt8}
    (hlength : noise.length = configLayout.size) (hnoise : BurstError 32 noise) :
    iiotConfigValidate
      (configLayout.decode (corrupt (configLayout.encode (iiotConfigFinalize config)) noise)) =
        false := by
  have himage : (configLayout.encode (iiotConfigFinalize config)).length = configLayout.size :=
    configLayout.length_encode _
  have hsealed : SealedImage configHeaderLayout.size
      (configLayout.encode (iiotConfigFinalize config)) := by
    rw [← checksum_decode_iff himage, configLayout.decode_encode]
    exact iiotConfigChecksum_finalize config
  apply validate_eq_false_of_checksum
  rw [ne_eq, checksum_decode_iff (by rw [length_corrupt (hlength.trans himage.symm), himage])]
  exact crc32_notices_image himage hsealed hlength hnoise

/-! ### Valid configurations -/

theorem check_passes_iff {refused : Prop} [Decidable refused] {code rest : String}
    (hcode : code ≠ "OK") :
    (if refused then code else rest) = "OK" ↔ ¬ refused ∧ rest = "OK" := by
  by_cases h : refused
  · simp [h, hcode]
  · simp [h]

/-- The settings pass their checks. -/
def IiotConfig.SettingsValid (config : IiotConfig) : Prop :=
  (identifierIsValid config.siteId = true ∧ identifierIsValid config.deviceId = true) ∧
    ((cText config.mqttHost).length ≠ 0 ∧ (cText config.mqttHost).length < 128 ∧
      config.mqttPort ≠ 0) ∧
    (10 ≤ config.sampleIntervalMs ∧ config.sampleIntervalMs ≤ 1000 ∧
      config.sampleIntervalMs ≤ config.telemetryIntervalMs ∧ config.telemetryIntervalMs ≤ 60000 ∧
      config.telemetryIntervalMs % config.sampleIntervalMs = 0) ∧
    (config.offlineCapacity ≠ 0 ∧ config.offlineCapacity.toNat ≤ iiotOfflineCapacityMax) ∧
    thresholdsAreValid config.temperature (-80) 200 = true ∧
    thresholdsAreValid config.vibration 0 2000 = true ∧
    thresholdsAreValid config.current 0 10 = true

theorem iiotConfigValidate_iff (config : IiotConfig) :
    iiotConfigValidate config = true ↔
      (config.magic = iiotConfigMagic ∧ config.schemaVersion = iiotConfigSchemaVersion ∧
        config.structSize = UInt16.ofNat configLayout.size) ∧
      config.checksum = iiotConfigChecksum config ∧ config.SettingsValid := by
  rw [iiotConfigValidate, decide_eq_true_iff, iiotConfigError, check_passes_iff (by decide),
    check_passes_iff (by decide), check_passes_iff (by decide), check_passes_iff (by decide),
    check_passes_iff (by decide), check_passes_iff (by decide), check_passes_iff (by decide)]
  simp only [IiotConfig.SettingsValid, not_or, Bool.or_eq_true, Bool.not_eq_true', Bool.not_eq_false,
    ne_eq, not_not, not_le, not_lt, UInt16.not_lt, ge_iff_le, gt_iff_lt, and_true, and_assoc]

/-- A configuration that was just finalized is checked for its settings alone. -/
theorem iiotConfigValidate_finalize_iff (config : IiotConfig) :
    iiotConfigValidate (iiotConfigFinalize config) = true ↔ config.SettingsValid := by
  rw [iiotConfigValidate_iff, and_iff_right ⟨rfl, rfl, rfl⟩,
    and_iff_right (iiotConfigChecksum_finalize config)]
  exact Iff.rfl

theorem validate_defaults_gateway : iiotConfigValidate iiotConfigDefaults = true := by
  have htext : ∀ {size : Nat} (array : Vector UInt8 size) (text : String),
      (literalText text).length < size → (∀ byte ∈ literalText text, byte ≠ 0) →
      cText (printText array (literalText text)) = literalText text :=
    fun _ _ => cText_printText
  rw [iiotConfigDefaults, iiotConfigValidate_finalize_iff]
  simp only [IiotConfig.SettingsValid, identifierIsValid]
  rw [htext _ "workshop-demo" (by decide +kernel) (by decide +kernel),
    htext _ "motor-01" (by decide +kernel) (by decide +kernel),
    htext _ "192.168.4.2" (by decide +kernel) (by decide +kernel)]
  decide +kernel

/-! ### The queue's metadata and journal -/

theorem readQueueMetadata_unsealed {image : List UInt8}
    (hbroken : ¬ SealedImage queueMetadataHeaderLayout.size image) :
    readQueueMetadata (.ok image) = none :=
  if_pos (.inr (.inr (.inl hbroken)))

theorem readQueueMetadata_corrupt {image noise : List UInt8}
    (himage : image.length = queueMetadataLayout.size)
    (hsealed : SealedImage queueMetadataHeaderLayout.size image)
    (hlength : noise.length = queueMetadataLayout.size) (hnoise : BurstError 32 noise) :
    readQueueMetadata (.ok (corrupt image noise)) = none :=
  readQueueMetadata_unsealed (crc32_notices_image himage hsealed hlength hnoise)

/-- The bytes of `pending_enqueue_t` up to and with its checksum. -/
def pendingEnqueueCovered : Nat := pendingEnqueueHeaderLayout.size + 4

/-- A journal entry's checksum test does not read the bytes after the checksum. -/
theorem pendingEnqueue_checksum (image : List UInt8) :
    (pendingEnqueueLayout.decode image).checksum =
      Layout.u32.decode ((image.take pendingEnqueueCovered).drop pendingEnqueueHeaderLayout.size) := by
  rw [List.drop_take, pendingEnqueueCovered, Nat.add_sub_cancel_left]
  rfl

theorem readPendingEnqueue_unsealed {image : List UInt8}
    (hbroken : ¬ SealedImage pendingEnqueueHeaderLayout.size (image.take pendingEnqueueCovered)) :
    readPendingEnqueue (.ok image) = none := by
  refine if_pos (.inr (.inr ?_))
  rw [pendingEnqueue_checksum]
  rwa [SealedImage, List.take_take,
    Nat.min_eq_left (show pendingEnqueueHeaderLayout.size ≤ pendingEnqueueCovered from
      Nat.le_add_right _ 4)] at hbroken

theorem readPendingEnqueue_corrupt {image noise : List UInt8}
    (himage : image.length = pendingEnqueueLayout.size)
    (hsealed : SealedImage pendingEnqueueHeaderLayout.size (image.take pendingEnqueueCovered))
    (hlength : noise.length = pendingEnqueueLayout.size) (hnoise : IsBurst 32 (streamBits noise))
    (hcovered : true ∈ streamBits (noise.take pendingEnqueueCovered)) :
    readPendingEnqueue (.ok (corrupt image noise)) = none := by
  have hbound : pendingEnqueueCovered ≤ pendingEnqueueLayout.size := Nat.le_add_right _ 4
  have htake : (corrupt image noise).take pendingEnqueueCovered =
      corrupt (image.take pendingEnqueueCovered) (noise.take pendingEnqueueCovered) :=
    List.take_zipWith
  have hbroken := crc32_notices_image
    (by rw [List.length_take, himage, Nat.min_eq_left hbound]; rfl) hsealed
    (by rw [List.length_take, hlength, Nat.min_eq_left hbound]; rfl)
    ⟨by rw [streamBits_take]; exact hnoise.take _, hcovered⟩
  rw [← htake] at hbroken
  exact readPendingEnqueue_unsealed hbroken

/-! ### What is stored is sealed -/

theorem sealedImage_metadata {state : OfflineState} (hstate : state.queue.WellFormed) :
    SealedImage queueMetadataHeaderLayout.size (queueMetadataLayout.encode state.metadata) := by
  by_contra hbroken
  have hread := readQueueMetadata_metadata hstate
  rw [readQueueMetadata_unsealed hbroken] at hread
  cases hread

theorem sealedImage_pendingOf (generation : UInt32) (telemetry : IiotTelemetry) :
    SealedImage pendingEnqueueHeaderLayout.size
      ((pendingEnqueueLayout.encode (pendingOf generation telemetry)).take pendingEnqueueCovered) := by
  by_contra hbroken
  have hread := readPendingEnqueue_pendingOf generation telemetry
  rw [readPendingEnqueue_unsealed hbroken] at hread
  cases hread

/-! ### Every stored structure -/

/-- **Corrupted structures are refused.** An error within thirty-two consecutive bits is noticed in data
followed by its checksum, in a finalized configuration, in stored queue metadata and, where it reaches
the bytes up to the checksum's end, in a stored journal entry. -/
theorem corrupted_structures_refused :
    (∀ data check noise : List UInt8, check.length = 4 →
        Layout.u32.decode check = iiotCrc32 data → noise.length = data.length + 4 →
        BurstError 32 noise →
          Layout.u32.decode ((corrupt (data ++ check) noise).drop data.length) ≠
            iiotCrc32 ((corrupt (data ++ check) noise).take data.length)) ∧
      (∀ config noise, noise.length = configLayout.size → BurstError 32 noise →
        iiotConfigValidate
          (configLayout.decode (corrupt (configLayout.encode (iiotConfigFinalize config)) noise)) =
            false) ∧
      (∀ image noise : List UInt8, image.length = queueMetadataLayout.size →
        SealedImage queueMetadataHeaderLayout.size image →
        noise.length = queueMetadataLayout.size → BurstError 32 noise →
          readQueueMetadata (.ok (corrupt image noise)) = none) ∧
      ∀ image noise : List UInt8, image.length = pendingEnqueueLayout.size →
        SealedImage pendingEnqueueHeaderLayout.size (image.take pendingEnqueueCovered) →
        noise.length = pendingEnqueueLayout.size → BurstError 32 noise →
        true ∈ streamBits (noise.take pendingEnqueueCovered) →
          readPendingEnqueue (.ok (corrupt image noise)) = none :=
  ⟨fun _ _ _ => crc32_notices, fun _ _ => validate_corrupt, fun _ _ => readQueueMetadata_corrupt,
    fun _ _ himage hsealed hlength hnoise => readPendingEnqueue_corrupt himage hsealed hlength hnoise.1⟩

/-- The lowest bit of the checksum is flipped in the stored defaults, and the first bit in the metadata
of an empty ring and in the journal entry of a cleared record. -/
theorem corrupted_structures_refused_stored :
    (iiotConfigValidate iiotConfigDefaults = true ∧
      iiotConfigValidate (configLayout.decode (corrupt (configLayout.encode iiotConfigDefaults)
        (List.replicate 412 0 ++ [1, 0, 0, 0]))) = false) ∧
    (readQueueMetadata (.ok (queueMetadataLayout.encode (freshState 32).metadata)) =
        some (freshState 32).metadata ∧
      readQueueMetadata (.ok (corrupt (queueMetadataLayout.encode (freshState 32).metadata)
        (1 :: List.replicate 19 0))) = none) ∧
    readPendingEnqueue (.ok (pendingEnqueueLayout.encode (pendingOf 0 telemetryLayout.zero))) =
        some (pendingOf 0 telemetryLayout.zero) ∧
      readPendingEnqueue (.ok (corrupt
        (pendingEnqueueLayout.encode (pendingOf 0 telemetryLayout.zero))
        (1 :: List.replicate 335 0))) = none := by
  obtain ⟨-, hconfig, hmetadata, hjournal⟩ := corrupted_structures_refused
  have hfresh := (wellFormed_freshState (by decide : 0 < 32) (by decide)).1
  refine ⟨⟨validate_defaults_gateway, hconfig _ _ ?_ ?_⟩,
    ⟨readQueueMetadata_metadata hfresh,
      hmetadata _ _ (Layout.length_encode _ _) (sealedImage_metadata hfresh) rfl ?_⟩,
    readPendingEnqueue_pendingOf _ _,
      hjournal _ _ (Layout.length_encode _ _) (sealedImage_pendingOf _ _) ?_ ?_ ?_⟩
  · rw [List.length_append, List.length_replicate]
    rfl
  · exact ⟨⟨8 * 412, [true], 31, by decide +kernel, by decide⟩, by decide +kernel⟩
  · exact ⟨⟨0, [true], 159, by decide +kernel, by decide⟩, by decide +kernel⟩
  · rw [size_pendingEnqueueLayout, List.length_cons, List.length_replicate]
  · exact ⟨⟨0, [true], 2687, by decide +kernel, by decide⟩, by decide +kernel⟩
  · decide +kernel

/-- An error in the last of the bytes the compiler leaves after a journal entry's checksum. -/
def paddingError : List UInt8 := List.replicate 335 0 ++ [1]

theorem burst_paddingError : BurstError 32 paddingError :=
  ⟨⟨8 * 335, [true], 7, by decide +kernel, by decide⟩, by decide +kernel⟩

theorem corrupt_zeros (bytes : List UInt8) : corrupt bytes (List.replicate bytes.length 0) = bytes := by
  induction bytes with
  | nil => rfl
  | cons byte bytes ih =>
      rw [List.length_cons, List.replicate_succ, corrupt, List.zipWith_cons_cons, UInt8.xor_zero]
      exact congrArg _ ih

/-- A journal entry is read from the bytes up to its checksum's end. -/
theorem readPendingEnqueue_congr {left right : List UInt8} (hlength : left.length = right.length)
    (hcovered : left.take pendingEnqueueCovered = right.take pendingEnqueueCovered) :
    readPendingEnqueue (.ok left) = readPendingEnqueue (.ok right) := by
  have hheader : left.take pendingEnqueueHeaderLayout.size =
      right.take pendingEnqueueHeaderLayout.size := by
    have htake := congrArg (List.take pendingEnqueueHeaderLayout.size) hcovered
    rwa [List.take_take, List.take_take, Nat.min_eq_left
      (show pendingEnqueueHeaderLayout.size ≤ pendingEnqueueCovered from Nat.le_add_right _ 4)]
      at htake
  have hdecode : pendingEnqueueLayout.decode left = pendingEnqueueLayout.decode right := by
    have hfields : ∀ image, pendingEnqueueLayout.decode image =
        { magic := (pendingEnqueueHeaderLayout.decode
            (image.take pendingEnqueueHeaderLayout.size)).1
          previousGeneration := (pendingEnqueueHeaderLayout.decode
            (image.take pendingEnqueueHeaderLayout.size)).2.1
          telemetry := (pendingEnqueueHeaderLayout.decode
            (image.take pendingEnqueueHeaderLayout.size)).2.2
          checksum := (pendingEnqueueLayout.decode image).checksum } := fun _ => rfl
    rw [hfields left, hfields right, pendingEnqueue_checksum, pendingEnqueue_checksum, hheader,
      hcovered]
  simp only [readPendingEnqueue, hdecode, hheader, hlength]

/-- The journal entry of a cleared record, with an error after its checksum, is still accepted. -/
theorem journal_padding_unchecked :
    paddingError.length = pendingEnqueueLayout.size ∧ BurstError 32 paddingError ∧
      readPendingEnqueue (.ok (corrupt
        (pendingEnqueueLayout.encode (pendingOf 0 telemetryLayout.zero)) paddingError)) =
          some (pendingOf 0 telemetryLayout.zero) := by
  have hlength : paddingError.length = pendingEnqueueLayout.size := by
    rw [size_pendingEnqueueLayout, paddingError, List.length_append, List.length_replicate]
    rfl
  refine ⟨hlength, burst_paddingError, ?_⟩
  have himage := pendingEnqueueLayout.length_encode (pendingOf 0 telemetryLayout.zero)
  rw [← readPendingEnqueue_pendingOf]
  apply readPendingEnqueue_congr (length_corrupt (hlength.trans himage.symm))
  have hzeros : paddingError.take pendingEnqueueCovered = List.replicate pendingEnqueueCovered 0 := by
    decide +kernel
  have hcovered : ((pendingEnqueueLayout.encode (pendingOf 0 telemetryLayout.zero)).take
      pendingEnqueueCovered).length = pendingEnqueueCovered := by
    rw [List.length_take, himage]
    exact Nat.min_eq_left (Nat.le_add_right _ 4)
  calc (corrupt (pendingEnqueueLayout.encode (pendingOf 0 telemetryLayout.zero))
          paddingError).take pendingEnqueueCovered
      = corrupt ((pendingEnqueueLayout.encode (pendingOf 0 telemetryLayout.zero)).take
          pendingEnqueueCovered) (paddingError.take pendingEnqueueCovered) := List.take_zipWith
    _ = (pendingEnqueueLayout.encode (pendingOf 0 telemetryLayout.zero)).take
          pendingEnqueueCovered := by
        rw [hzeros]
        conv => lhs; arg 2; rw [← hcovered]
        exact corrupt_zeros _

end IiotMonitoring
