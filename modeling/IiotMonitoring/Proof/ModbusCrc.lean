import IiotMonitoring.Lib.ShiftRegister
import IiotMonitoring.Proof.ModbusRequests

/-!
# Corrupted Modbus frames

`modbus_crc16` is a shift register of sixteen bits whose polynomial has its highest bit and an odd
number of bits. A frame whose error is a short burst, or of an odd number of bits, fails the check and
is not acted on.
-/

namespace IiotMonitoring

open ShiftRegister

/-! ### The register of `modbus_crc16` -/

def crc16Poly : BitVec 16 := 0xa001

theorem crc16Bit_toBitVec (crc : UInt16) :
    (crc16Bit crc).toBitVec = shiftOut crc16Poly crc.toBitVec := by
  have hlow : crc &&& 1 ≠ 0 ↔ crc.toBitVec.getLsbD 0 = true := by
    rw [ne_eq, ← UInt16.toBitVec_inj, UInt16.toBitVec_and, UInt16.toBitVec_ofNat,
      BitVec.and_one_eq_setWidth_ofBool_getLsbD]
    cases crc.toBitVec.getLsbD 0 <;> simp
  unfold crc16Bit shiftOut
  by_cases hone : crc &&& 1 ≠ 0
  · rw [if_pos hone, if_pos (hlow.mp hone)]
    simp [crc16Poly]
  · rw [if_neg hone, if_neg (mt hlow.mpr hone)]
    simp

theorem crc16Byte_toBitVec (crc : UInt16) (byte : UInt8) :
    (crc16Byte crc byte).toBitVec = feedByte crc16Poly crc.toBitVec byte := by
  have hbits : ∀ count (value : UInt16),
      ((List.range count).foldl (fun value _ => crc16Bit value) value).toBitVec =
        (shiftOut crc16Poly)^[count] value.toBitVec := by
    intro count
    induction count with
    | zero => exact fun value => rfl
    | succ count ih =>
        intro value
        rw [List.range_succ, List.foldl_append, List.foldl_cons, List.foldl_nil,
          Function.iterate_succ_apply', crc16Bit_toBitVec, ih]
  rw [crc16Byte, hbits, feedByte, UInt16.toBitVec_xor, UInt8.toBitVec_toUInt16]

theorem modbusCrc16_toBitVec (data : List UInt8) :
    (modbusCrc16 data).toBitVec = checksum crc16Poly 0xffff 0 (streamBits data) := by
  have hfold : ∀ crc : UInt16, (data.foldl crc16Byte crc).toBitVec =
      data.foldl (feedByte crc16Poly) crc.toBitVec := by
    induction data with
    | nil => exact fun crc => rfl
    | cons byte data ih =>
        intro crc
        rw [List.foldl_cons, List.foldl_cons, ih, crc16Byte_toBitVec]
  rw [modbusCrc16, hfold, foldl_feedByte crc16Poly (by decide), checksum, UInt16.toBitVec_ofNat]
  exact BitVec.xor_zero.symm

/-! ### The check of a frame -/

/-- The test `modbus_node_handle_request` makes of a frame's last two bytes. -/
def crcHolds (frame : List UInt8) : Bool :=
  modbusCrc16 (frame.take (frame.length - 2)) =
    joinWord (frame.getD (frame.length - 1) 0) (frame.getD (frame.length - 2) 0)

theorem crcHolds_append (message : List UInt8) (low high : UInt8) :
    crcHolds (message ++ [low, high]) = true ↔ modbusCrc16 message = joinWord high low := by
  simp [crcHolds]

theorem joinWord_xor (high low high' low' : UInt8) :
    joinWord (high ^^^ high') (low ^^^ low') = joinWord high low ^^^ joinWord high' low' := by
  rw [← UInt16.toBitVec_inj]
  apply BitVec.eq_of_getLsbD_eq
  intro index hindex
  simp only [joinWord, UInt16.toBitVec_or, UInt16.toBitVec_xor, UInt16.toBitVec_shiftLeft,
    UInt8.toBitVec_toUInt16, UInt8.toBitVec_xor]
  by_cases hlow : index < 8
  · simp [hlow]
  · have hpast : ∀ byte : UInt8, byte.toBitVec.getLsbD index = false :=
      fun byte => BitVec.getLsbD_of_ge _ _ (by omega)
    simp [hlow, hindex, hpast]

theorem streamBits_joinWord (high low : UInt8) :
    streamBits [low, high] = bitsOf 16 (joinWord high low).toBitVec := by
  have hlow := low.toNat_lt
  have hbytes : [low, high] = Layout.natBytes 2 (joinWord high low).toNat := by
    have hhigh := high.toNat_lt
    rw [joinWord_toNat, Layout.natBytes, Layout.natBytes, Layout.natBytes]
    congr
    · apply UInt8.toNat.inj
      rw [UInt8.toNat_ofNat']
      omega
    · apply UInt8.toNat.inj
      rw [UInt8.toNat_ofNat']
      omega
  rw [hbytes, streamBits_natBytes]
  exact List.map_congr_left fun index _ => BitVec.testBit_toNat _

/-! ### Errors on the line -/

/-- An error that the register of `modbus_crc16` notices: not empty and within sixteen consecutive
bits, or of an odd number of bits. -/
def NoticedError (noise : List UInt8) : Prop :=
  BurstError 16 noise ∨ Odd ((streamBits noise).count true)

theorem feed_crc16_ne_zero {noise : List UInt8} (hnoise : NoticedError noise) :
    feed crc16Poly 0#16 (streamBits noise) ≠ 0#16 := by
  cases hnoise with
  | inl hburst => exact feed_burst_ne_zero (by decide) hburst.1 hburst.2
  | inr hodd => exact feed_odd_ne_zero (by decide) hodd

/-- A frame with such an error fails the check. -/
theorem crcHolds_corrupt {message noise : List UInt8} (hlength : noise.length = message.length + 2)
    (hnoise : NoticedError noise) : crcHolds (corrupt (appendCrc message) noise) = false := by
  by_contra hholds
  rw [Bool.not_eq_false] at hholds
  obtain ⟨body, flips, rfl, hbody⟩ : ∃ body flips, noise = body ++ flips ∧
      body.length = message.length :=
    ⟨noise.take message.length, noise.drop message.length, (List.take_append_drop ..).symm, by simp [hlength]⟩
  obtain ⟨low, high, rfl⟩ : ∃ low high, flips = [low, high] := by
    rw [List.length_append, hbody, Nat.add_left_cancel_iff] at hlength
    exact List.length_eq_two.mp hlength
  rw [appendCrc, corrupt_append hbody.symm] at hholds
  have hagree := (crcHolds_append _ _ _).mp hholds
  rw [joinWord_xor, joinWord_split, ← UInt16.toBitVec_inj, UInt16.toBitVec_xor,
    modbusCrc16_toBitVec, modbusCrc16_toBitVec, streamBits_corrupt hbody] at hagree
  have hclear := feed_of_agree crc16Poly 0xffff 0
    (by rw [length_streamBits, length_streamBits, hbody]) hagree
  rw [← streamBits_joinWord, ← streamBits_append] at hclear
  exact feed_crc16_ne_zero hnoise hclear

/-- A frame that fails the check is counted and nothing else. -/
theorem handle_of_crcHolds_eq_false {node : ModbusNode} {request : List UInt8}
    (hlength : request.length = 8) (hfails : crcHolds request = false) (capacity : Nat)
    (persistOk : Bool) :
    modbusNodeHandleRequest node request capacity persistOk =
      noResponse { node with crcErrorCount := node.crcErrorCount + 1 } := by
  obtain ⟨address, function, a, b, c, d, low, high, rfl⟩ := eight_of_length hlength
  have hne : modbusCrc16 [address, function, a, b, c, d] ≠ joinWord high low := by
    intro hagree
    have hholds := (crcHolds_append [address, function, a, b, c, d] low high).mpr hagree
    exact Bool.false_ne_true (hfails.symm.trans hholds)
  exact if_pos hne

/-- **Corrupted frames.** A message of any length sent with its checksum and received with such an
error fails the check, and a request received so is not answered, persists nothing and changes nothing
but the count of such frames. -/
theorem modbus_ignores_corrupted_frames {message noise : List UInt8}
    (hlength : noise.length = message.length + 2) (hnoise : NoticedError noise) :
    crcHolds (corrupt (appendCrc message) noise) = false ∧
      ∀ node capacity persistOk, message.length = 6 →
        modbusNodeHandleRequest node (corrupt (appendCrc message) noise) capacity persistOk =
          noResponse { node with crcErrorCount := node.crcErrorCount + 1 } := by
  have hfails := crcHolds_corrupt hlength hnoise
  refine ⟨hfails, ?_⟩
  intro node capacity persistOk hrequest
  apply handle_of_crcHolds_eq_false _ hfails
  rw [length_corrupt (by rw [length_appendCrc, hlength]), length_appendCrc, hrequest]

/-- One flipped bit of the request for registers 0 to 7. -/
theorem modbus_ignores_corrupted_frames_flip :
    NoticedError [0, 0, 0, 0x10, 0, 0, 0, 0] ∧
      crcHolds (corrupt (appendCrc [0x01, 0x03, 0x00, 0x00, 0x00, 0x08])
        [0, 0, 0, 0x10, 0, 0, 0, 0]) = false := by
  have hnoise : NoticedError [0, 0, 0, 0x10, 0, 0, 0, 0] := .inr (by decide)
  exact ⟨hnoise, (modbus_ignores_corrupted_frames (by decide) hnoise).1⟩

end IiotMonitoring
