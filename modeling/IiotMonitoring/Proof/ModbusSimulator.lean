import IiotMonitoring.Simulator.DeterministicNode
import IiotMonitoring.Firmware.ModbusFlash
import IiotMonitoring.Proof.ModbusConfig

/-!
# The simulator reads as the firmware does

A simulated node and a firmware node that show the same registers answer every read alike and go on
showing the same registers. A measurement that drops the latched fault bit is where they part.
-/

namespace IiotMonitoring

/-! ### Checksums -/

theorem pythonCrc16Bit_eq (crc : UInt16) : pythonCrc16Bit crc.toNat = (crc16Bit crc).toNat := by
  have hbit : crc.toNat &&& 1 = (crc &&& 1).toNat := by
    rw [UInt16.toNat_and]
    rfl
  have hshift : (crc >>> 1).toNat = crc.toNat >>> 1 := by
    rw [UInt16.toNat_shiftRight]
    rfl
  rw [pythonCrc16Bit, crc16Bit, hbit]
  by_cases hodd : crc &&& 1 = 0
  · rw [hodd, if_neg (by decide), if_neg (by decide), hshift]
  · have hnat : (crc &&& 1).toNat ≠ 0 := fun hzero => hodd (UInt16.toNat.inj hzero)
    rw [if_pos hnat, if_pos hodd, UInt16.toNat_xor, hshift]
    rfl

theorem pythonCrc16Byte_eq (crc : UInt16) (value : UInt8) :
    pythonCrc16Byte crc.toNat value = (crc16Byte crc value).toNat := by
  have hbits : ∀ (turns : List Nat) (crc : UInt16),
      turns.foldl (fun crc _ => pythonCrc16Bit crc) crc.toNat =
        (turns.foldl (fun value _ => crc16Bit value) crc).toNat := by
    intro turns
    induction turns with
    | nil => exact fun _ => rfl
    | cons turn turns ih =>
        intro crc
        rw [List.foldl_cons, List.foldl_cons, pythonCrc16Bit_eq]
        exact ih _
  rw [pythonCrc16Byte, crc16Byte, ← hbits, UInt16.toNat_xor]
  rfl

theorem pythonCrc16_eq (data : List UInt8) : pythonCrc16 data = (modbusCrc16 data).toNat := by
  have hfold : ∀ crc : UInt16, data.foldl pythonCrc16Byte crc.toNat =
      (data.foldl crc16Byte crc).toNat := by
    induction data with
    | nil => exact fun _ => rfl
    | cons value data ih =>
        intro crc
        rw [List.foldl_cons, List.foldl_cons, pythonCrc16Byte_eq]
        exact ih _
  exact hfold 0xffff

theorem toUInt8_high (word : UInt16) : UInt8.ofNat (word.toNat / 256) = (word >>> 8).toUInt8 := by
  apply UInt8.toNat.inj
  have hword := word.toNat_lt
  rw [toNat_high, UInt8.toNat_ofNat']
  exact Nat.mod_eq_of_lt (by omega)

theorem withCrc_eq (payload : List UInt8) : withCrc payload = .ok (appendCrc payload) := by
  have hlittle : ∀ word : UInt16,
      Layout.natBytes 2 word.toNat = [word.toUInt8, (word >>> 8).toUInt8] := by
    intro word
    rw [Layout.natBytes, Layout.natBytes, Layout.natBytes, toUInt8_high]
    rfl
  rw [withCrc, toLittleWord, pythonCrc16_eq, if_pos (UInt16.toNat_lt _), hlittle]
  rfl

/-! ### Conversions in range -/

theorem toBigWord_eq (word : UInt16) : toBigWord word.toNat = .ok (wordBytes word) := by
  have hword := word.toNat_lt
  rw [toBigWord, if_pos ⟨Int.natCast_nonneg _, by omega⟩, Int.toNat_natCast, toUInt8_high]
  rfl

theorem bytesOf_cons (byte : UInt8) {values : List Int} {bytes : List UInt8}
    (h : bytesOf values = .ok bytes) : bytesOf (byte.toNat :: values) = .ok (byte :: bytes) := by
  have hbyte := byte.toNat_lt
  rw [bytesOf, List.mapM_cons, if_pos ⟨Int.natCast_nonneg _, by omega⟩]
  rw [bytesOf] at h
  rw [h, Int.toNat_natCast, UInt8.ofNat_toNat]
  rfl

theorem mapM_toBigWord (words : List UInt16) :
    (words.map fun word => ((word.toNat : Nat) : Int)).mapM toBigWord =
      .ok (words.map wordBytes) := by
  induction words with
  | nil => rfl
  | cons word words ih =>
      rw [List.map_cons, List.mapM_cons, toBigWord_eq, ih]
      rfl

theorem fromBig_pair (high low : UInt8) : fromBig [high, low] = (joinWord high low).toNat := by
  rw [joinWord_toNat]
  simp [fromBig, Int.mul_comm]

theorem or_high_bit (function : UInt8) :
    ((((function.toNat : Int).toNat ||| 0x80 : Nat) : Int)) = ((function ||| 0x80).toNat : Nat) := by
  rw [Int.toNat_natCast, UInt8.toNat_or]
  rfl

/-! ### The registers of both nodes -/

/-- Both nodes show the same registers. -/
def SameRegisters (simulated : DeterministicNode) (node : ModbusNode) : Prop :=
  simulated.current = (registers node).toList.map fun word => ((word.toNat : Nat) : Int)

instance (simulated : DeterministicNode) (node : ModbusNode) :
    Decidable (SameRegisters simulated node) :=
  inferInstanceAs (Decidable (_ = _))

/-- Register by register. -/
structure SameFields (simulated : DeterministicNode) (node : ModbusNode) : Prop where
  address : simulated.nodeAddress = node.config.nodeAddress.toNat
  status : simulated.sensorStatus = node.sensorStatus.toNat
  faults : simulated.faultFlags = node.faultFlags.toNat
  temperature : lowWord simulated.temperatureCentiC = node.temperatureCentiC.toUInt16.toNat
  adc : simulated.adcRaw = node.adcRaw.toNat
  uptimeHigh : lowWord (simulated.uptimeMs >>> (16 : Nat)) = (node.uptimeMs >>> 16).toUInt16.toNat
  uptimeLow : lowWord simulated.uptimeMs = node.uptimeMs.toUInt16.toNat
  resetHigh : lowWord (simulated.resetCount >>> (16 : Nat)) =
    (node.resetCount >>> 16).toUInt16.toNat
  resetLow : lowWord simulated.resetCount = node.resetCount.toUInt16.toNat
  crcErrors : lowWord simulated.crcErrorCount = node.crcErrorCount.toUInt16.toNat
  exceptions : lowWord simulated.exceptionCount = node.exceptionCount.toUInt16.toNat
  generationHigh : lowWord (simulated.configGeneration >>> (16 : Nat)) =
    (node.config.generation >>> 16).toUInt16.toNat
  generationLow : lowWord simulated.configGeneration = node.config.generation.toUInt16.toNat
  offset : lowWord simulated.calibrationOffsetCentiC =
    node.config.calibrationOffsetCentiC.toUInt16.toNat
  gain : simulated.calibrationGainQ15 = node.config.calibrationGainQ15.toNat

theorem sameRegisters_iff {simulated : DeterministicNode} {node : ModbusNode} :
    SameRegisters simulated node ↔ SameFields simulated node := by
  rw [SameRegisters, DeterministicNode.current, registers]
  simp only [Vector.toList, List.map_cons, List.map_nil, List.cons.injEq]
  constructor
  · rintro ⟨-, -, haddress, -, hstatus, hfaults, htemperature, hadc, huptime, huptime', hreset, hreset',
      hcrc, hexception, hgeneration, hgeneration', hoffset, hgain, -⟩
    exact ⟨haddress, hstatus, hfaults, htemperature, hadc, huptime, huptime', hreset, hreset', hcrc,
      hexception, hgeneration, hgeneration', hoffset, hgain⟩
  · intro h
    exact ⟨rfl, rfl, h.address, rfl, h.status, h.faults, h.temperature, h.adc, h.uptimeHigh,
      h.uptimeLow, h.resetHigh, h.resetLow, h.crcErrors, h.exceptions, h.generationHigh,
      h.generationLow, h.offset, h.gain, trivial⟩

/-- A counter that both nodes increase keeps showing the same word. -/
theorem lowWord_succ {count : Int} {counter : UInt32}
    (h : lowWord count = counter.toUInt16.toNat) :
    lowWord (count + 1) = (counter + 1).toUInt16.toNat := by
  rw [lowWord, UInt32.toNat_toUInt16] at h ⊢
  rw [UInt32.toNat_add, UInt32.toNat_one]
  omega

/-- The simulated node is in its normal scenario and shows the firmware's registers. -/
structure Interchangeable (simulated : DeterministicNode) (node : ModbusNode) : Prop where
  scenario : simulated.scenario = .normal
  fields : SameFields simulated node

/-! ### One request -/

/-- Both gave the same bytes, or none, and leave interchangeable nodes. -/
structure SameAnswer (answer : Except ByteError (Option (List UInt8)) × DeterministicNode)
    (handled : ModbusHandled) : Prop where
  bytes : answer.1 = .ok handled.response
  nodes : Interchangeable answer.2 handled.node

section Requests

variable {simulated : DeterministicNode} {node : ModbusNode}

/-- The response that `handle` returns in the normal scenario. -/
def answered (response : Except ByteError (List UInt8) × DeterministicNode) :
    Except ByteError (Option (List UInt8)) × DeterministicNode :=
  (response.1.map some, response.2)

theorem Interchangeable.exception (h : Interchangeable simulated node) (function code : UInt8)
    {capacity : Nat} (hcapacity : 5 ≤ capacity) :
    SameAnswer (answered (simulated.exception function.toNat code.toNat))
      (exceptionResponse node node.config.nodeAddress function code capacity) := by
  rw [exceptionResponse, if_neg (by omega)]
  refine ⟨?_, h.scenario, { h.fields with exceptions := lowWord_succ h.fields.exceptions }⟩
  have hpayload : bytesOf [simulated.nodeAddress,
      ((function.toNat : Int).toNat ||| 0x80 : Nat), code.toNat] =
        .ok [node.config.nodeAddress, function ||| 0x80, code] := by
    rw [h.fields.address, or_high_bit]
    exact bytesOf_cons _ (bytesOf_cons _ (bytesOf_cons _ rfl))
  dsimp only [answered, DeterministicNode.exception]
  rw [hpayload]
  change (withCrc _).map some = _
  rw [withCrc_eq]
  rfl

theorem Interchangeable.read (h : Interchangeable simulated node) {first quantity : UInt16}
    (hpositive : 1 ≤ quantity.toNat) (hinside : first.toNat + quantity.toNat ≤ 18) :
    SameAnswer (answered (simulated.readResponse 0x03 first.toNat quantity.toNat))
      (readRegisters node node.config.nodeAddress 0x03 first quantity modbusNodeMaxResponse) := by
  have hfits : ¬ modbusNodeMaxResponse < 5 + quantity.toNat * 2 := by
    unfold modbusNodeMaxResponse
    omega
  rw [readRegisters_inside node hpositive hinside, if_neg hfits]
  have hregisters : simulated.registers =
      (simulated.current, { simulated with staleRegisters := none }) :=
    if_neg (by rw [h.scenario]; decide)
  have hvalues : (simulated.current.drop first.toNat).take quantity.toNat =
      (((registers node).toList.drop first.toNat).take quantity.toNat).map
        fun word => ((word.toNat : Nat) : Int) := by
    rw [sameRegisters_iff.mpr h.fields, List.map_take, List.map_drop]
  have hlength := length_read_registers node hinside
  generalize ((registers node).toList.drop first.toNat).take quantity.toNat = words at hvalues hlength ⊢
  have hdata : (words.map wordBytes).flatten = words.flatMap wordBytes := rfl
  have hsize : (((words.flatMap wordBytes).length : Nat) : Int) = (quantity * 2).toUInt8.toNat := by
    rw [length_flatMap_wordBytes, hlength, toUInt8_double, UInt8.toNat_ofNat']
    omega
  have hheader : bytesOf [simulated.nodeAddress, 0x03, (((words.flatMap wordBytes).length : Nat) : Int)] =
      .ok [node.config.nodeAddress, 0x03, (quantity * 2).toUInt8] := by
    rw [h.fields.address, hsize]
    exact bytesOf_cons _ (bytesOf_cons 0x03 (bytesOf_cons _ rfl))
  refine ⟨?_, ?_⟩
  · dsimp only [answered, DeterministicNode.readResponse]
    rw [hregisters]
    dsimp only
    rw [Int.toNat_natCast, Int.toNat_natCast, hvalues, mapM_toBigWord]
    change Except.map some (do
      let header ← bytesOf [simulated.nodeAddress, 0x03, (((words.map wordBytes).flatten.length : Nat) : Int)]
      withCrc (header ++ (words.map wordBytes).flatten)) = _
    rw [hdata, hheader]
    change (withCrc _).map some = _
    rw [withCrc_eq]
    rfl
  · dsimp only [answered, DeterministicNode.readResponse]
    rw [hregisters]
    exact ⟨h.scenario, { h.fields with }⟩

/-- The request that a frame for the node carries is answered alike, unless it is a write. -/
theorem Interchangeable.respond (h : Interchangeable simulated node)
    (address firstHigh firstLow quantityHigh quantityLow crcLow crcHigh : UInt8) {function : UInt8}
    (hfunction : function ≠ 0x06) (persistOk : Bool) :
    let first := joinWord firstHigh firstLow
    let quantity := joinWord quantityHigh quantityLow
    let frame := [address, function, firstHigh, firstLow, quantityHigh, quantityLow, crcLow, crcHigh]
    SameAnswer (answered (simulated.respond frame))
      (if function = 0x03 then
        readRegisters node node.config.nodeAddress function first quantity modbusNodeMaxResponse
      else if function = 0x06 then
        writeRegister node frame node.config.nodeAddress function first quantity
          modbusNodeMaxResponse persistOk
      else
        exceptionResponse node node.config.nodeAddress function 0x01 modbusNodeMaxResponse) := by
  intro first quantity frame
  have hcapacity : 5 ≤ modbusNodeMaxResponse := by decide
  have hreachable : simulated.scenario ≠ .illegalAddress := by
    rw [h.scenario]
    decide
  rw [DeterministicNode.respond, if_neg hreachable]
  by_cases hread : function = 0x03
  · subst hread
    have hfirst : fromBig ((frame.take 4).drop 2) = first.toNat := fromBig_pair _ _
    have hquantity : fromBig ((frame.take 6).drop 4) = quantity.toNat := fromBig_pair _ _
    have hcount : registerCount = 18 := rfl
    have hthree : (((frame.getD 1 0).toNat : Nat) : Int) = 0x03 := rfl
    dsimp only
    rw [if_pos hthree, if_pos rfl, hfirst, hquantity, hthree, hcount]
    by_cases hvalue : (quantity.toNat : Int) < 1 ∨ (quantity.toNat : Int) > 18
    · rw [if_pos hvalue, readRegisters_value node (by omega)]
      exact h.exception 0x03 0x03 hcapacity
    rw [if_neg hvalue]
    by_cases haddress : (first.toNat : Int) ≥ 18 ∨ (first.toNat : Int) + quantity.toNat > 18
    · rw [if_pos haddress, readRegisters_address node (by omega) (by omega) (by omega)]
      exact h.exception 0x03 0x02 hcapacity
    · rw [if_neg haddress]
      exact h.read (by omega) (by omega)
  · have hother : ¬ (((frame.getD 1 0).toNat : Nat) : Int) = 0x03 := by
      intro hthree
      have hnat : function.toNat = 3 := by exact_mod_cast hthree
      exact hread (UInt8.toNat.inj hnat)
    dsimp only
    rw [if_neg hother, if_neg hread, if_neg hfunction]
    exact h.exception function 0x01 hcapacity

/-- The check of the simulated node is the check of the firmware. -/
theorem crc_bad_iff (address function a b c d crcLow crcHigh : UInt8) :
    ([address, function, a, b, c, d, crcLow, crcHigh].length ≠ 8 ∨
      pythonCrc16 ([address, function, a, b, c, d, crcLow, crcHigh].take
        ([address, function, a, b, c, d, crcLow, crcHigh].length - 2)) ≠
      Layout.bytesNat ([address, function, a, b, c, d, crcLow, crcHigh].drop
        ([address, function, a, b, c, d, crcLow, crcHigh].length - 2))) ↔
    modbusCrc16 [address, function, a, b, c, d] ≠ joinWord crcHigh crcLow := by
  have hread : Layout.bytesNat [crcLow, crcHigh] = (joinWord crcHigh crcLow).toNat := by
    rw [joinWord_toNat]
    simp only [Layout.bytesNat]
    omega
  have hcheck : pythonCrc16 [address, function, a, b, c, d] = Layout.bytesNat [crcLow, crcHigh] ↔
      modbusCrc16 [address, function, a, b, c, d] = joinWord crcHigh crcLow := by
    rw [pythonCrc16_eq, hread]
    exact UInt16.toNat_inj
  constructor
  · rintro (hlength | hpython)
    · exact absurd rfl hlength
    · exact fun hcrc => hpython (hcheck.mpr hcrc)
  · exact fun hcrc => .inr fun hpython => hcrc (hcheck.mp hpython)

/-- A frame that is not a write is answered alike. -/
theorem Interchangeable.handle (h : Interchangeable simulated node) {frame : List UInt8}
    (hlength : frame.length = 8) (hfunction : frame[1]? ≠ some 0x06) (persistOk : Bool) :
    SameAnswer (simulated.handle frame)
      (modbusNodeHandleRequest node frame modbusNodeMaxResponse persistOk) := by
  obtain ⟨address, function, firstHigh, firstLow, quantityHigh, quantityLow, crcLow, crcHigh, rfl⟩ :=
    eight_of_length hlength
  have hwrite : function ≠ 0x06 := fun hsix => hfunction (congrArg some hsix)
  have hsounds : simulated.scenario ≠ .timeout := by
    rw [h.scenario]
    decide
  rw [DeterministicNode.handle, if_neg hsounds]
  dsimp only [modbusNodeHandleRequest]
  by_cases hcrc : modbusCrc16 [address, function, firstHigh, firstLow, quantityHigh, quantityLow] =
      joinWord crcHigh crcLow
  · rw [if_neg (mt (crc_bad_iff ..).mp (not_not.mpr hcrc)), if_neg (not_not.mpr hcrc)]
    by_cases haddress : address = node.config.nodeAddress
    · subst haddress
      have hsame : ¬ ((([node.config.nodeAddress, function, firstHigh, firstLow, quantityHigh,
          quantityLow, crcLow, crcHigh].getD 0 0).toNat : Nat) : Int) ≠ simulated.nodeAddress :=
        not_not.mpr h.fields.address.symm
      have hresponse := h.respond node.config.nodeAddress firstHigh firstLow quantityHigh quantityLow
        crcLow crcHigh hwrite persistOk
      rw [if_neg hsame, if_neg (not_not.mpr rfl)]
      dsimp only at hresponse ⊢
      generalize simulated.respond [node.config.nodeAddress, function, firstHigh, firstLow,
        quantityHigh, quantityLow, crcLow, crcHigh] = response at hresponse ⊢
      have hscenario : response.2.scenario ≠ .badCrc := by
        have hnormal : response.2.scenario = .normal := hresponse.nodes.scenario
        rw [hnormal]
        decide
      rw [if_neg hscenario]
      exact hresponse
    · have hother : ((([address, function, firstHigh, firstLow, quantityHigh, quantityLow, crcLow,
          crcHigh].getD 0 0).toNat : Nat) : Int) ≠ simulated.nodeAddress := by
        rw [h.fields.address]
        intro hsame
        have hnat : address.toNat = node.config.nodeAddress.toNat := by exact_mod_cast hsame
        exact haddress (UInt8.toNat.inj hnat)
      rw [if_pos hother, if_pos haddress]
      exact ⟨rfl, h⟩
  · rw [if_pos ((crc_bad_iff ..).mpr hcrc), if_pos hcrc]
    exact ⟨rfl, h.scenario, { h.fields with crcErrors := lowWord_succ h.fields.crcErrors }⟩

end Requests

/-! ### One measurement -/

theorem or_absorbs (kept flags : UInt16) : (kept ||| flags) &&& kept = kept := by
  apply UInt16.toNat.inj
  apply Nat.eq_of_testBit_eq
  intro bit
  rw [UInt16.toNat_and, UInt16.toNat_or, Nat.testBit_and, Nat.testBit_or]
  cases kept.toNat.testBit bit <;> simp

theorem and_absorbs (kept flags : UInt16) : (flags &&& kept) ||| flags = flags := by
  apply UInt16.toNat.inj
  apply Nat.eq_of_testBit_eq
  intro bit
  rw [UInt16.toNat_or, UInt16.toNat_and, Nat.testBit_or, Nat.testBit_and]
  cases flags.toNat.testBit bit <;> simp

/-- The bit that the firmware keeps changes nothing exactly where the update does not drop it. -/
theorem latched_or (latched flags : UInt16) :
    (latched &&& 1) ||| flags = flags ↔ latched &&& 1 = 0 ∨ flags &&& 1 = 1 := by
  have hbit : latched &&& 1 = 0 ∨ latched &&& 1 = 1 := by
    have hmod := Nat.mod_two_eq_zero_or_one latched.toNat
    rw [← Nat.and_one_is_mod] at hmod
    exact hmod.imp (fun hzero => UInt16.toNat.inj hzero) (fun hone => UInt16.toNat.inj hone)
  constructor
  · intro h
    apply hbit.imp_right
    intro hone
    calc flags &&& 1 = ((1 : UInt16) ||| flags) &&& 1 := by rw [← hone, h]
      _ = 1 := or_absorbs 1 flags
  · rintro (hzero | hone)
    · rw [hzero, UInt16.zero_or]
    · rcases hbit with hzero | hlatched
      · rw [hzero, UInt16.zero_or]
      · calc (latched &&& 1) ||| flags = (flags &&& 1) ||| flags := by rw [hlatched, hone]
          _ = flags := and_absorbs 1 flags

theorem lowWord_natCast (value : UInt32) : lowWord value.toNat = value.toUInt16.toNat := by
  rw [lowWord, UInt32.toNat_toUInt16]
  omega

theorem lowWord_high (value : UInt32) :
    lowWord ((value.toNat : Int) >>> (16 : Nat)) = (value >>> 16).toUInt16.toNat := by
  have hshift : (value >>> 16).toNat = value.toNat >>> 16 := by
    rw [UInt32.toNat_shiftRight]
    rfl
  calc lowWord ((value.toNat : Int) >>> (16 : Nat)) = lowWord ((value >>> 16).toNat : Nat) := by
        rw [hshift, Int.natCast_shiftRight]
    _ = (value >>> 16).toUInt16.toNat := lowWord_natCast _

theorem lowWord_toInt (value : Int16) : lowWord value.toInt = value.toUInt16.toNat := by
  rw [lowWord, toNat_toUInt16_signed, Int.toNat_of_nonneg (by omega)]

/-- A measurement that does not drop the kept fault is shown alike. -/
theorem Interchangeable.measure {simulated : DeterministicNode} {node : ModbusNode}
    (h : Interchangeable simulated node) (adcRaw : UInt16) (temperatureCentiC : Int16)
    (sensorStatus : ModbusSensorStatus) {faultFlags : UInt16} (uptimeMs resetCount : UInt32)
    (hkept : node.faultFlags &&& 1 = 0 ∨ faultFlags &&& 1 = 1) :
    Interchangeable
      (simulated.measure adcRaw.toNat temperatureCentiC.toInt sensorStatus.code.toNat
        faultFlags.toNat uptimeMs.toNat resetCount.toNat)
      (modbusNodeSetMeasurement node adcRaw temperatureCentiC sensorStatus faultFlags uptimeMs
        resetCount) where
  scenario := h.scenario
  fields :=
    { h.fields with
      status := rfl
      faults := by
        have hflags := (latched_or node.faultFlags faultFlags).mpr hkept
        exact (congrArg (fun flags : UInt16 => ((flags.toNat : Nat) : Int)) hflags).symm
      temperature := lowWord_toInt temperatureCentiC
      adc := rfl
      uptimeHigh := lowWord_high uptimeMs
      uptimeLow := lowWord_natCast uptimeMs
      resetHigh := lowWord_high resetCount
      resetLow := lowWord_natCast resetCount }

/-! ### Runs -/

structure NodePair where
  simulated : DeterministicNode
  node : ModbusNode

/-- One event for both nodes. -/
def pairStep (pair : NodePair) : ModbusEvent → NodePair
  | .request frame responseCapacity persistOk =>
      { simulated := (pair.simulated.handle frame).2
        node := (modbusNodeHandleRequest pair.node frame responseCapacity persistOk).node }
  | .measurement adcRaw temperatureCentiC sensorStatus faultFlags uptimeMs resetCount =>
      { simulated := pair.simulated.measure adcRaw.toNat temperatureCentiC.toInt
          sensorStatus.code.toNat faultFlags.toNat uptimeMs.toNat resetCount.toNat
        node := modbusNodeSetMeasurement pair.node adcRaw temperatureCentiC sensorStatus faultFlags
          uptimeMs resetCount }

/-- Both nodes give the same bytes or the same silence. -/
def SameBytes (pair : NodePair) : ModbusEvent → Prop
  | .request frame responseCapacity persistOk =>
      (pair.simulated.handle frame).1 =
        .ok (modbusNodeHandleRequest pair.node frame responseCapacity persistOk).response
  | .measurement .. => True

/-- An 8-byte frame that is not a write, answered into the firmware's buffer, or a measurement. -/
def ReadEvent : ModbusEvent → Prop
  | .request frame responseCapacity _ =>
      frame.length = 8 ∧ frame[1]? ≠ some 0x06 ∧ responseCapacity = modbusNodeMaxResponse
  | .measurement .. => True

/-- A measurement carries on the configuration fault that the node shows. -/
def KeepsConfigFault (pair : NodePair) : ModbusEvent → Prop
  | .request .. => True
  | .measurement _ _ _ faultFlags _ _ => pair.node.faultFlags &&& 1 = 0 ∨ faultFlags &&& 1 = 1

/-- A step of a run of reads: what `KeepsConfigFault` asks of a measurement, and that a frame is no
write. -/
def ReadStep (pair : NodePair) (event : ModbusEvent) : Prop :=
  ReadEvent event ∧ KeepsConfigFault pair event

theorem interchangeable_step {pair : NodePair} {event : ModbusEvent}
    (h : Interchangeable pair.simulated pair.node) (hread : ReadStep pair event) :
    SameBytes pair event ∧
      Interchangeable (pairStep pair event).simulated (pairStep pair event).node := by
  obtain ⟨hread, hkept⟩ := hread
  cases event with
  | request frame responseCapacity persistOk =>
      obtain ⟨hlength, hfunction, rfl⟩ := hread
      have hsame := h.handle hlength hfunction persistOk
      exact ⟨hsame.bytes, hsame.nodes⟩
  | measurement adcRaw temperatureCentiC sensorStatus faultFlags uptimeMs resetCount =>
      exact ⟨trivial, h.measure adcRaw temperatureCentiC sensorStatus uptimeMs resetCount hkept⟩

/-- **The simulator reads as the firmware does.** From nodes that show the same registers, frames
that are no writes and measurements that keep the configuration fault give the same answers and
leave the same registers. -/
theorem simulator_interchangeable {simulated : DeterministicNode} {node : ModbusNode}
    (hscenario : simulated.scenario = .normal) (hregisters : SameRegisters simulated node)
    {events : List ModbusEvent} (hreads : StepsMeet pairStep ReadStep ⟨simulated, node⟩ events) :
    StepsMeet pairStep SameBytes ⟨simulated, node⟩ events ∧
      StatesMeet pairStep (fun pair => SameRegisters pair.simulated pair.node)
        ⟨simulated, node⟩ events := by
  have hstart : Interchangeable simulated node := ⟨hscenario, sameRegisters_iff.mp hregisters⟩
  have hstep : ∀ pair event, Interchangeable pair.simulated pair.node → ReadStep pair event →
      Interchangeable (pairStep pair event).simulated (pairStep pair event).node :=
    fun _ _ h hread => (interchangeable_step h hread).2
  have hstates := statesMeet_of_guarded hstep hstart hreads
  constructor
  · apply stepsMeet_of_guarded hstep _ hstart hreads
    exact fun _ _ h hread => (interchangeable_step h hread).1
  · apply hstates.mono
    exact fun _ h => sameRegisters_iff.mpr h.fields

/-- The simulated node beside a firmware node that has just fallen back to its defaults. -/
def fallenBack : NodePair where
  simulated :=
    { DeterministicNode.default with
      temperatureCentiC := 0
      adcRaw := 0
      faultFlags := 1
      uptimeMs := 0
      resetCount := 0
      configGeneration := modbusNodeConfigDefaults.generation.toNat }
  node := modbusNodeInit none true

/-- A read of the fault flags, a measurement that carries the fault on, and a read of them all. -/
def faultReads : List ModbusEvent :=
  [.request (requestFrame 1 0x03 5 1) modbusNodeMaxResponse true,
    .measurement 2048 (-125) .ok 1 70000 3,
    .request (requestFrame 1 0x03 0 18) modbusNodeMaxResponse true]

theorem simulator_interchangeable_fallenBack :
    StepsMeet pairStep SameBytes fallenBack faultReads ∧
      StatesMeet pairStep (fun pair => SameRegisters pair.simulated pair.node)
        fallenBack faultReads := by
  apply simulator_interchangeable rfl
  · decide
  · have hread : ∀ first quantity, ReadEvent (.request (requestFrame 1 0x03 first quantity)
        modbusNodeMaxResponse true) := by
      intro first quantity
      refine ⟨length_requestFrame .., ?_, rfl⟩
      have hfunction : (requestFrame 1 0x03 first quantity)[1]? = some 0x03 := rfl
      rw [hfunction]
      decide
    exact ⟨⟨hread 5 1, trivial⟩, ⟨trivial, .inr (by decide)⟩, ⟨hread 0 18, trivial⟩, trivial⟩

/-- A measurement without the fault: the firmware goes on showing it, the simulator does not. -/
theorem fault_cleared_in_simulator :
    ¬ ∀ (simulated : DeterministicNode) (node : ModbusNode) (events : List ModbusEvent),
      simulated.scenario = .normal → modbusNodeConfigValidate node.config = true →
      SameRegisters simulated node → (∀ event ∈ events, ReadEvent event) →
      StepsMeet pairStep SameBytes ⟨simulated, node⟩ events ∧
        StatesMeet pairStep (fun pair => SameRegisters pair.simulated pair.node)
          ⟨simulated, node⟩ events := by
  intro hclaim
  have hstates := (hclaim fallenBack.simulated fallenBack.node [.measurement 2048 4250 .ok 0 120000 3]
    rfl (by decide +kernel) (by decide +kernel) (fun event hevent => by
      rw [List.mem_singleton.mp hevent]
      trivial)).2
  have hdiffer : ¬ SameRegisters
      (pairStep fallenBack (.measurement 2048 4250 .ok 0 120000 3)).simulated
      (pairStep fallenBack (.measurement 2048 4250 .ok 0 120000 3)).node := by
    decide
  exact hdiffer hstates.2

end IiotMonitoring
