import IiotMonitoring.Firmware.ModbusNode
import Mathlib.Data.List.Range
import Mathlib.Tactic.IntervalCases

/-!
# The register map the node serves

The documented map in numbers: what every register holds, what may be written, and which reply is
due to a request. The handler is compared with it frame by frame.
-/

namespace IiotMonitoring

/-! ### The documented map -/

/-- The number a register shows to a master that reads it. -/
def registerValue (node : ModbusNode) : Nat → Nat
  | 0 => 0x0100
  | 1 => 0x4949
  | 2 => node.config.nodeAddress.toNat
  | 3 => 0x0001
  | 4 => node.sensorStatus.toNat
  | 5 => node.faultFlags.toNat
  | 6 => (node.temperatureCentiC.toInt % 65536).toNat
  | 7 => node.adcRaw.toNat
  | 8 => node.uptimeMs.toNat / 65536
  | 9 => node.uptimeMs.toNat % 65536
  | 10 => node.resetCount.toNat / 65536
  | 11 => node.resetCount.toNat % 65536
  | 12 => node.crcErrorCount.toNat % 65536
  | 13 => node.exceptionCount.toNat % 65536
  | 14 => node.config.generation.toNat / 65536
  | 15 => node.config.generation.toNat % 65536
  | 16 => (node.config.calibrationOffsetCentiC.toInt % 65536).toNat
  | 17 => node.config.calibrationGainQ15.toNat
  | _ => 0

/-- The number a register word stands for where the register is signed. -/
def signedWord (value : Nat) : Int := if value < 32768 then value else value - 65536

def Writable (address : Nat) : Prop := address = 2 ∨ address = 16 ∨ address = 17

def WriteInRange (address value : Nat) : Prop :=
  (address = 2 ∧ 1 ≤ value ∧ value ≤ 247) ∨
    (address = 16 ∧ -5000 ≤ signedWord value ∧ signedWord value ≤ 5000) ∨
    (address = 17 ∧ 16384 ≤ value ∧ value ≤ 65535)

/-- The frame of a request with two words. -/
def requestFrame (address function : UInt8) (first second : UInt16) : List UInt8 :=
  appendCrc ([address, function] ++ wordBytes first ++ wordBytes second)

/-- The frame is complete, its checksum is right and it is for this node. -/
def Heard (node : ModbusNode) (request : List UInt8) : Prop :=
  request.length = 8 ∧ request = appendCrc (request.take 6) ∧
    request.head? = some node.config.nodeAddress

/-- The exception reply, where it fits, and nothing where it does not. -/
structure Refused (node : ModbusNode) (function exception : UInt8) (capacity : Nat)
    (handled : ModbusHandled) : Prop where
  reply : 5 ≤ capacity → handled.response =
    some (appendCrc [node.config.nodeAddress, function ||| 0x80, exception]) ∧
      handled.node = { node with exceptionCount := node.exceptionCount + 1 }
  unfit : capacity < 5 → handled.response = none ∧ handled.node = node

/-- The request did nothing and is not answered. -/
def Ignored (node : ModbusNode) (handled : ModbusHandled) : Prop :=
  handled.response = none ∧ handled.node = node ∧ handled.persisted = none

/-- The register map as a service: the reply due to every request, and what a write changes. -/
structure ServesRegisterMap (node : ModbusNode) : Prop where
  unheard : ∀ request capacity persistOk, ¬ Heard node request →
    (modbusNodeHandleRequest node request capacity persistOk).response = none ∧
      (modbusNodeHandleRequest node request capacity persistOk).node.config = node.config
  heard : ∀ request, Heard node request →
    ∃ function first second,
      request = requestFrame node.config.nodeAddress function first second
  fits : ∀ request capacity persistOk response,
    (modbusNodeHandleRequest node request capacity persistOk).response = some response →
      response.length ≤ capacity
  read : ∀ first quantity capacity persistOk, 1 ≤ quantity.toNat → quantity.toNat ≤ 18 →
    first.toNat + quantity.toNat ≤ 18 → 5 + 2 * quantity.toNat ≤ capacity →
      ∃ data,
        (modbusNodeHandleRequest node (requestFrame node.config.nodeAddress 0x03 first quantity)
            capacity persistOk).response =
          some (appendCrc ([node.config.nodeAddress, 0x03, UInt8.ofNat (2 * quantity.toNat)] ++
            data)) ∧
        data.length = 2 * quantity.toNat ∧
        (bytesWords data).map UInt16.toNat =
          (List.range quantity.toNat).map fun offset => registerValue node (first.toNat + offset)
  read_unfit : ∀ first quantity capacity persistOk, 1 ≤ quantity.toNat → quantity.toNat ≤ 18 →
    first.toNat + quantity.toNat ≤ 18 → capacity < 5 + 2 * quantity.toNat →
      Ignored node (modbusNodeHandleRequest node
        (requestFrame node.config.nodeAddress 0x03 first quantity) capacity persistOk)
  read_value : ∀ first quantity capacity persistOk,
    quantity.toNat = 0 ∨ 18 < quantity.toNat →
      Refused node 0x03 0x03 capacity (modbusNodeHandleRequest node
        (requestFrame node.config.nodeAddress 0x03 first quantity) capacity persistOk)
  read_address : ∀ first quantity capacity persistOk, 1 ≤ quantity.toNat →
    quantity.toNat ≤ 18 → 18 < first.toNat + quantity.toNat →
      Refused node 0x03 0x02 capacity (modbusNodeHandleRequest node
        (requestFrame node.config.nodeAddress 0x03 first quantity) capacity persistOk)
  write : ∀ address value capacity persistOk, WriteInRange address.toNat value.toNat →
    8 ≤ capacity → (node.persistConfig = true → persistOk = true) →
      (modbusNodeHandleRequest node (requestFrame node.config.nodeAddress 0x06 address value)
          capacity persistOk).response =
        some (requestFrame node.config.nodeAddress 0x06 address value)
  written : ∀ address value capacity persistOk, WriteInRange address.toNat value.toNat →
    8 ≤ capacity → (node.persistConfig = true → persistOk = true) → ∀ node',
      node' = (modbusNodeHandleRequest node
        (requestFrame node.config.nodeAddress 0x06 address value) capacity persistOk).node →
      (∀ readCapacity persistOk', 7 ≤ readCapacity →
        (modbusNodeHandleRequest node' (requestFrame node'.config.nodeAddress 0x03 address 1)
            readCapacity persistOk').response =
          some (appendCrc ([node'.config.nodeAddress, 0x03, 2] ++ wordBytes value))) ∧
      node'.config.generation = node.config.generation + 1 ∧
      ∀ register, register ≠ address.toNat → register ≠ 14 → register ≠ 15 →
        registerValue node' register = registerValue node register
  write_unfit : ∀ address value capacity persistOk, WriteInRange address.toNat value.toNat →
    capacity < 8 →
      Ignored node (modbusNodeHandleRequest node
        (requestFrame node.config.nodeAddress 0x06 address value) capacity persistOk)
  write_failed : ∀ address value capacity, WriteInRange address.toNat value.toNat →
    8 ≤ capacity → node.persistConfig = true →
      Refused node 0x06 0x04 capacity (modbusNodeHandleRequest node
        (requestFrame node.config.nodeAddress 0x06 address value) capacity false)
  write_address : ∀ address value capacity persistOk, ¬ Writable address.toNat →
    Refused node 0x06 0x02 capacity (modbusNodeHandleRequest node
      (requestFrame node.config.nodeAddress 0x06 address value) capacity persistOk)
  write_value : ∀ address value capacity persistOk, Writable address.toNat →
    ¬ WriteInRange address.toNat value.toNat →
      Refused node 0x06 0x03 capacity (modbusNodeHandleRequest node
        (requestFrame node.config.nodeAddress 0x06 address value) capacity persistOk)
  other : ∀ function first second capacity persistOk, function ≠ 0x03 → function ≠ 0x06 →
    Refused node function 0x01 capacity (modbusNodeHandleRequest node
      (requestFrame node.config.nodeAddress function first second) capacity persistOk)

/-! ### Frames -/

theorem requestFrame_bytes (address function : UInt8) (first second : UInt16) :
    requestFrame address function first second =
      appendCrc [address, function, (first >>> 8).toUInt8, first.toUInt8, (second >>> 8).toUInt8,
        second.toUInt8] := by
  simp [requestFrame, wordBytes]

@[simp]
theorem length_appendCrc (frame : List UInt8) : (appendCrc frame).length = frame.length + 2 := by
  simp [appendCrc]

theorem length_requestFrame (address function : UInt8) (first second : UInt16) :
    (requestFrame address function first second).length = 8 := by
  simp [requestFrame_bytes]

/-- A request with six bytes of content is one for two words. -/
theorem appendCrc_eq_requestFrame (address function a b c d : UInt8) :
    appendCrc [address, function, a, b, c, d] =
      requestFrame address function (joinWord a b) (joinWord c d) := by
  simp [requestFrame_bytes]

theorem eight_of_length {request : List UInt8} (hlength : request.length = 8) :
    ∃ address function a b c d e f, request = [address, function, a, b, c, d, e, f] := by
  rcases request with _ | ⟨a, _ | ⟨b, _ | ⟨c, _ | ⟨d, _ | ⟨e, _ | ⟨f, _ | ⟨g, _ | ⟨h, rest⟩⟩⟩⟩⟩⟩⟩⟩ <;>
    simp at hlength
  exact ⟨a, b, c, d, e, f, g, h, by rw [hlength]⟩

theorem heard_iff {node : ModbusNode} {request : List UInt8} :
    Heard node request ↔ ∃ function first second,
      request = requestFrame node.config.nodeAddress function first second := by
  constructor
  · rintro ⟨hlength, hcrc, haddress⟩
    obtain ⟨address, function, a, b, c, d, e, f, rfl⟩ := eight_of_length hlength
    obtain rfl : address = node.config.nodeAddress := by simpa using haddress
    refine ⟨function, joinWord a b, joinWord c d, ?_⟩
    rw [← appendCrc_eq_requestFrame]
    exact hcrc
  · rintro ⟨function, first, second, rfl⟩
    refine ⟨length_requestFrame _ _ _ _, ?_, ?_⟩
    · rw [requestFrame_bytes]
      simp [appendCrc]
    · simp [requestFrame_bytes, appendCrc]

/-! ### The handler on each kind of frame -/

section Handler

variable (node : ModbusNode) (capacity : Nat) (persistOk : Bool)

theorem handle_requestFrame (function : UInt8) (first second : UInt16) :
    modbusNodeHandleRequest node (requestFrame node.config.nodeAddress function first second)
        capacity persistOk =
      if function = 0x03 then
        readRegisters node node.config.nodeAddress function first second capacity
      else if function = 0x06 then
        writeRegister node (requestFrame node.config.nodeAddress function first second)
          node.config.nodeAddress function first second capacity persistOk
      else
        exceptionResponse node node.config.nodeAddress function 0x01 capacity := by
  rw [requestFrame_bytes]
  simp [appendCrc, modbusNodeHandleRequest]

theorem handle_unheard (request : List UInt8) (hrequest : ¬ Heard node request) :
    ∃ node', modbusNodeHandleRequest node request capacity persistOk = noResponse node' ∧
      node'.config = node.config ∧ node'.persistConfig = node.persistConfig := by
  by_cases hlength : request.length = 8
  · obtain ⟨address, function, a, b, c, d, e, f, rfl⟩ := eight_of_length hlength
    by_cases hcrc : modbusCrc16 [address, function, a, b, c, d] = joinWord f e
    · have haddress : address ≠ node.config.nodeAddress := by
        intro haddress
        refine hrequest (heard_iff.mpr ⟨function, joinWord a b, joinWord c d, ?_⟩)
        rw [← haddress, ← appendCrc_eq_requestFrame]
        simp [appendCrc, hcrc]
      exact ⟨node, by simp [modbusNodeHandleRequest, hcrc, haddress], rfl, rfl⟩
    · exact ⟨{ node with crcErrorCount := node.crcErrorCount + 1 },
        by simp [modbusNodeHandleRequest, hcrc], rfl, rfl⟩
  · refine ⟨node, ?_, rfl, rfl⟩
    unfold modbusNodeHandleRequest
    split
    · exact absurd rfl hlength
    · rfl

theorem refused_exceptionResponse (function exception : UInt8) :
    Refused node function exception capacity
      (exceptionResponse node node.config.nodeAddress function exception capacity) where
  reply hcapacity := by simp [exceptionResponse, Nat.not_lt.mpr hcapacity]
  unfit hcapacity := by simp [exceptionResponse, hcapacity, noResponse]

end Handler

/-! ### Registers -/

theorem toNat_toUInt16_signed (value : Int16) :
    value.toUInt16.toNat = (value.toInt % 65536).toNat := by
  have hvalue := BitVec.toInt_eq_toNat_cond value.toBitVec
  have hlt := value.toUInt16.toNat_lt
  have hnat : value.toBitVec.toNat = value.toUInt16.toNat := rfl
  have hint : value.toInt = value.toBitVec.toInt := rfl
  rw [hint, hvalue]
  split <;> omega

theorem toNat_high_word (value : UInt32) : value.toNat >>> 16 % 65536 = value.toNat / 65536 := by
  have hvalue := value.toNat_lt
  rw [Nat.shiftRight_eq_div_pow]
  omega

theorem toNat_registers (node : ModbusNode) :
    (registers node).toList.map UInt16.toNat = (List.range 18).map (registerValue node) := by
  simp [registers, Vector.toList, List.range_succ, registerValue, toNat_toUInt16_signed,
    toNat_high_word]

/-- The words a read returns are the registers it names. -/
theorem toNat_read_registers (node : ModbusNode) {first quantity : Nat}
    (hinside : first + quantity ≤ 18) :
    (((registers node).toList.drop first).take quantity).map UInt16.toNat =
      (List.range quantity).map fun offset => registerValue node (first + offset) := by
  rw [List.map_take, List.map_drop, toNat_registers, ← List.map_drop, ← List.map_take]
  have hrange : ((List.range 18).drop first).take quantity =
      (List.range quantity).map (first + ·) := by
    rw [List.range_eq_range', List.drop_range', List.take_range'_of_length_ge (by omega),
      List.range_eq_range', List.map_add_range']
    simp
  rw [hrange, List.map_map]
  rfl

/-! ### Reads -/

section Reads

variable (node : ModbusNode) {first quantity : UInt16} {capacity : Nat}

theorem readRegisters_value (hquantity : quantity.toNat = 0 ∨ 18 < quantity.toNat) :
    readRegisters node node.config.nodeAddress 0x03 first quantity capacity =
      exceptionResponse node node.config.nodeAddress 0x03 0x03 capacity := by
  have hvalue : quantity = 0 ∨ quantity.toNat > modbusNodeRegisterCount :=
    hquantity.imp (fun h => UInt16.toNat.inj h) id
  simp only [readRegisters, hvalue, if_true]

theorem readRegisters_inside_value (hpositive : 1 ≤ quantity.toNat)
    (hquantity : quantity.toNat ≤ 18) :
    ¬ (quantity = 0 ∨ quantity.toNat > modbusNodeRegisterCount) := by
  rintro (rfl | hlarge)
  · simp at hpositive
  · exact absurd hlarge (Nat.not_lt.mpr hquantity)

theorem readRegisters_address (hpositive : 1 ≤ quantity.toNat) (hquantity : quantity.toNat ≤ 18)
    (houtside : 18 < first.toNat + quantity.toNat) :
    readRegisters node node.config.nodeAddress 0x03 first quantity capacity =
      exceptionResponse node node.config.nodeAddress 0x03 0x02 capacity := by
  have haddress : first.toNat ≥ modbusNodeRegisterCount ∨
      first.toNat + quantity.toNat > modbusNodeRegisterCount := .inr houtside
  simp only [readRegisters, readRegisters_inside_value hpositive hquantity, haddress, if_true,
    if_false]

/-- A read inside the map is answered with the registers it names, where the answer fits. -/
theorem readRegisters_inside (hpositive : 1 ≤ quantity.toNat)
    (hinside : first.toNat + quantity.toNat ≤ 18) :
    readRegisters node node.config.nodeAddress 0x03 first quantity capacity =
      if capacity < 5 + quantity.toNat * 2 then
        noResponse node
      else
        { node
          response := some (appendCrc ([node.config.nodeAddress, 0x03, (quantity * 2).toUInt8] ++
            (((registers node).toList.drop first.toNat).take quantity.toNat).flatMap wordBytes))
          persisted := none } := by
  have haddress : ¬ (first.toNat ≥ modbusNodeRegisterCount ∨
      first.toNat + quantity.toNat > modbusNodeRegisterCount) := by
    unfold modbusNodeRegisterCount
    omega
  simp only [readRegisters, readRegisters_inside_value hpositive (by omega), haddress, if_false]

theorem toUInt8_double : (quantity * 2).toUInt8 = UInt8.ofNat (2 * quantity.toNat) := by
  apply UInt8.toNat.inj
  simp
  omega

theorem length_read_registers (hinside : first.toNat + quantity.toNat ≤ 18) :
    (((registers node).toList.drop first.toNat).take quantity.toNat).length = quantity.toNat := by
  rw [List.length_take, List.length_drop, Vector.length_toList]
  unfold modbusNodeRegisterCount
  omega

end Reads

/-! ### Writes -/

section Writes

variable (node : ModbusNode) (request : List UInt8) {address value : UInt16} {capacity : Nat}
  (persistOk : Bool)

theorem writable_iff :
    Writable address.toNat ↔ ¬ (address ≠ 2 ∧ address ≠ 16 ∧ address ≠ 17) := by
  have heq : ∀ number : UInt16, address.toNat = number.toNat ↔ address = number := fun number =>
    ⟨fun h => UInt16.toNat.inj h, fun h => by rw [h]⟩
  have h2 := heq 2
  have h16 := heq 16
  have h17 := heq 17
  simp only [UInt16.reduceToNat] at h2 h16 h17
  simp only [Writable, h2, h16, h17]
  tauto

theorem toInt_toInt16 : value.toInt16.toInt = signedWord value.toNat := by
  have hvalue := BitVec.toInt_eq_toNat_cond value.toBitVec
  have hnat : value.toBitVec.toNat = value.toNat := rfl
  have hint : value.toInt16.toInt = value.toBitVec.toInt := rfl
  rw [hint, hvalue, signedWord, hnat]
  split <;> split <;> omega

theorem signed_range_iff :
    (value.toInt16 ≥ -5000 ∧ value.toInt16 ≤ 5000) ↔
      -5000 ≤ signedWord value.toNat ∧ signedWord value.toNat ≤ 5000 := by
  rw [ge_iff_le, Int16.le_iff_toInt_le, Int16.le_iff_toInt_le, toInt_toInt16]
  rfl

theorem writeValueIsValid_iff (hwritable : Writable address.toNat) :
    writeValueIsValid address value = true ↔ WriteInRange address.toNat value.toNat := by
  have hvalue := value.toNat_lt
  rcases hwritable with h | h | h
  · obtain rfl : address = 2 := UInt16.toNat.inj h
    simp [writeValueIsValid, WriteInRange, UInt16.le_iff_toNat_le]
  · obtain rfl : address = 16 := UInt16.toNat.inj h
    simp [writeValueIsValid, WriteInRange, ← signed_range_iff]
  · obtain rfl : address = 17 := UInt16.toNat.inj h
    simp [writeValueIsValid, WriteInRange, UInt16.le_iff_toNat_le]
    omega

theorem WriteInRange.writable {address value : Nat} (h : WriteInRange address value) :
    Writable address := by
  rcases h with ⟨h, -⟩ | ⟨h, -⟩ | ⟨h, -⟩
  · exact .inl h
  · exact .inr (.inl h)
  · exact .inr (.inr h)

theorem Writable.lt {address : Nat} (h : Writable address) : address < 18 := by
  unfold Writable at h
  omega

theorem writeRegister_address (haddress : ¬ Writable address.toNat) :
    writeRegister node request node.config.nodeAddress 0x06 address value capacity persistOk =
      exceptionResponse node node.config.nodeAddress 0x06 0x02 capacity := by
  rw [writable_iff, not_not] at haddress
  simp only [writeRegister, haddress, ne_eq, not_false_eq_true, and_self, if_true]

theorem writeRegister_value (haddress : Writable address.toNat)
    (hvalue : ¬ WriteInRange address.toNat value.toNat) :
    writeRegister node request node.config.nodeAddress 0x06 address value capacity persistOk =
      exceptionResponse node node.config.nodeAddress 0x06 0x03 capacity := by
  have hinvalid : writeValueIsValid address value = false := by
    rwa [← writeValueIsValid_iff haddress, Bool.not_eq_true] at hvalue
  simp only [writeRegister, writable_iff.mp haddress, hinvalid, Bool.not_false, if_true, if_false]

/-- A write in range is not answered where the echo does not fit, and otherwise goes the way
`persist_config` decides. -/
theorem writeRegister_inRange (hrange : WriteInRange address.toNat value.toNat) :
    writeRegister node request node.config.nodeAddress 0x06 address value capacity persistOk =
      if capacity < 8 then
        noResponse node
      else if node.persistConfig ∧ !persistOk then
        { exceptionResponse node node.config.nodeAddress 0x06 0x04 capacity with
          persisted := some (writtenConfig node.config address value, false) }
      else
        { node := { node with config := writtenConfig node.config address value }
          response := some request
          persisted :=
            if node.persistConfig then some (writtenConfig node.config address value, true)
            else none } := by
  have hwritable := hrange.writable
  have hvalid := (writeValueIsValid_iff hwritable).mpr hrange
  simp only [writeRegister, writable_iff.mp hwritable, hvalid, Bool.not_true, Bool.false_eq_true,
    if_false]

/-- A write in range that is persisted is echoed. -/
theorem handle_write {persistOk : Bool} (hrange : WriteInRange address.toNat value.toNat)
    (hcapacity : 8 ≤ capacity) (hpersist : node.persistConfig = true → persistOk = true) :
    modbusNodeHandleRequest node (requestFrame node.config.nodeAddress 0x06 address value) capacity
        persistOk =
      { node := { node with config := writtenConfig node.config address value }
        response := some (requestFrame node.config.nodeAddress 0x06 address value)
        persisted :=
          if node.persistConfig then some (writtenConfig node.config address value, true)
          else none } := by
  have hkept : ¬ (node.persistConfig = true ∧ (!persistOk) = true) := by
    rintro ⟨hcallback, hfailed⟩
    simp [hpersist hcallback] at hfailed
  rw [handle_requestFrame, if_neg (by decide), if_pos rfl, writeRegister_inRange node _ _ hrange,
    if_neg (by omega), if_neg hkept]

@[simp]
theorem writtenConfig_generation (config : ModbusNodeConfig) (address value : UInt16) :
    (writtenConfig config address value).generation = config.generation + 1 := by
  simp only [writtenConfig, modbusNodeConfigFinalize]
  split
  · rfl
  · split <;> rfl

@[simp]
theorem writtenConfig_nodeAddress (config : ModbusNodeConfig) (address value : UInt16) :
    (writtenConfig config address value).nodeAddress =
      if address = 2 then value.toUInt8 else config.nodeAddress := by
  simp only [writtenConfig, modbusNodeConfigFinalize]
  split
  · rfl
  · split <;> rfl

@[simp]
theorem writtenConfig_calibrationOffsetCentiC (config : ModbusNodeConfig)
    (address value : UInt16) :
    (writtenConfig config address value).calibrationOffsetCentiC =
      if address = 16 then value.toInt16 else config.calibrationOffsetCentiC := by
  simp only [writtenConfig, modbusNodeConfigFinalize]
  by_cases h2 : address = 2
  · subst h2
    rfl
  · rw [if_neg h2]
    split <;> rfl

theorem writtenConfig_calibrationGainQ15 (config : ModbusNodeConfig) {address : UInt16}
    (value : UInt16) (haddress : Writable address.toNat) :
    (writtenConfig config address value).calibrationGainQ15 =
      if address = 17 then value else config.calibrationGainQ15 := by
  rcases haddress with h | h | h
  · obtain rfl : address = 2 := UInt16.toNat.inj h
    rfl
  · obtain rfl : address = 16 := UInt16.toNat.inj h
    rfl
  · obtain rfl : address = 17 := UInt16.toNat.inj h
    rfl

/-- The register written shows the value. -/
theorem registerValue_written (hrange : WriteInRange address.toNat value.toNat) :
    registerValue { node with config := writtenConfig node.config address value } address.toNat =
      value.toNat := by
  have hvalue := value.toNat_lt
  rcases hrange with ⟨h, -, hle⟩ | ⟨h, -⟩ | ⟨h, -⟩
  · obtain rfl : address = 2 := UInt16.toNat.inj h
    simp [registerValue]
    omega
  · obtain rfl : address = 16 := UInt16.toNat.inj h
    simp [registerValue, toInt_toInt16, signedWord]
    split <;> omega
  · obtain rfl : address = 17 := UInt16.toNat.inj h
    rfl

/-- Apart from the generation no other register changes. -/
theorem registerValue_written_of_ne (hwritable : Writable address.toNat) {register : Nat}
    (hregister : register ≠ address.toNat) (hhigh : register ≠ 14) (hlow : register ≠ 15) :
    registerValue { node with config := writtenConfig node.config address value } register =
      registerValue node register := by
  have haddress : ∀ number : UInt16, register = number.toNat → address ≠ number := by
    rintro number rfl rfl
    exact hregister rfl
  have h2 := haddress 2
  have h16 := haddress 16
  have h17 := haddress 17
  unfold registerValue
  split <;> simp_all [writtenConfig_calibrationGainQ15]

end Writes

/-! ### The service -/

/-- A read inside the map, by the frame the master gets. -/
theorem read_inside (node : ModbusNode) {first quantity : UInt16} {capacity : Nat}
    (persistOk : Bool) (hpositive : 1 ≤ quantity.toNat)
    (hinside : first.toNat + quantity.toNat ≤ 18) (hfits : 5 + 2 * quantity.toNat ≤ capacity) :
    ∃ words : List UInt16,
      (modbusNodeHandleRequest node (requestFrame node.config.nodeAddress 0x03 first quantity)
          capacity persistOk).response =
        some (appendCrc ([node.config.nodeAddress, 0x03, UInt8.ofNat (2 * quantity.toNat)] ++
          words.flatMap wordBytes)) ∧
      words.length = quantity.toNat ∧
      words.map UInt16.toNat =
        (List.range quantity.toNat).map fun offset => registerValue node (first.toNat + offset) := by
  refine ⟨_, ?_, length_read_registers node hinside, toNat_read_registers node hinside⟩
  rw [handle_requestFrame, if_pos rfl, readRegisters_inside node hpositive hinside,
    if_neg (by omega), toUInt8_double]

/-- One register read is one word. -/
theorem read_one (node : ModbusNode) {register value : UInt16} {capacity : Nat} (persistOk : Bool)
    (hregister : register.toNat < 18) (hvalue : registerValue node register.toNat = value.toNat)
    (hcapacity : 7 ≤ capacity) :
    (modbusNodeHandleRequest node (requestFrame node.config.nodeAddress 0x03 register 1) capacity
        persistOk).response =
      some (appendCrc ([node.config.nodeAddress, 0x03, 2] ++ wordBytes value)) := by
  have hone : (1 : UInt16).toNat = 1 := rfl
  obtain ⟨words, hresponse, -, hwords⟩ := @read_inside node register 1 capacity persistOk
    (by rw [hone]) (by rw [hone]; omega) (by rw [hone]; omega)
  have hword : words = [value] := by
    apply List.map_injective_iff.mpr (fun _ _ => UInt16.toNat.inj)
    rw [hwords, hone]
    simp [hvalue]
  rw [hresponse, hword, hone]
  simp

/-- A request that leaves the configuration as it was, and is not echoed. -/
structure LeavesConfig (node : ModbusNode) (request : List UInt8) (capacity : Nat)
    (handled : ModbusHandled) : Prop where
  config : handled.node.config = node.config
  callback : handled.node.persistConfig = node.persistConfig
  persisted : ∀ config, handled.persisted ≠ some (config, true)
  unechoed : handled.response ≠ some request
  fits : ∀ response, handled.response = some response → response.length ≤ capacity

theorem leavesConfig_noResponse {node node' : ModbusNode} {request : List UInt8} {capacity : Nat}
    (hconfig : node'.config = node.config) (hcallback : node'.persistConfig = node.persistConfig) :
    LeavesConfig node request capacity (noResponse node') where
  config := hconfig
  callback := hcallback
  persisted config h := by cases h
  unechoed h := by cases h
  fits response h := by cases h

/-- A reply of another length than the request is not its echo. -/
theorem leavesConfig_reply {node node' : ModbusNode} {request response : List UInt8}
    {capacity : Nat} (hconfig : node'.config = node.config)
    (hcallback : node'.persistConfig = node.persistConfig)
    (hlength : response.length ≠ request.length) (hfits : response.length ≤ capacity) :
    LeavesConfig node request capacity ⟨node', some response, none⟩ where
  config := hconfig
  callback := hcallback
  persisted config h := by cases h
  unechoed h := hlength (congrArg List.length (Option.some.inj h))
  fits other h := by
    obtain rfl := Option.some.inj h
    exact hfits

theorem leavesConfig_exceptionResponse (node : ModbusNode) {request : List UInt8}
    (hlength : request.length = 8) (address function exception : UInt8) (capacity : Nat) :
    LeavesConfig node request capacity
      (exceptionResponse node address function exception capacity) := by
  by_cases hcapacity : capacity < 5
  · rw [exceptionResponse, if_pos hcapacity]
    exact leavesConfig_noResponse rfl rfl
  · rw [exceptionResponse, if_neg hcapacity]
    apply leavesConfig_reply
    · rfl
    · rfl
    · simp [hlength]
    · simpa using hcapacity

theorem leavesConfig_readRegisters (node : ModbusNode) {request : List UInt8}
    (hlength : request.length = 8) (address : UInt8) (first quantity : UInt16) (capacity : Nat) :
    LeavesConfig node request capacity
      (readRegisters node address 0x03 first quantity capacity) := by
  unfold readRegisters
  split
  · exact leavesConfig_exceptionResponse _ hlength _ _ _ _
  split
  · exact leavesConfig_exceptionResponse _ hlength _ _ _ _
  split
  · exact leavesConfig_noResponse rfl rfl
  next hinside hfits =>
    have hwords := @length_read_registers node first quantity (by
      unfold modbusNodeRegisterCount at hinside
      omega)
    apply leavesConfig_reply rfl rfl <;>
      simp only [length_appendCrc, List.length_append, length_flatMap_wordBytes, hwords,
        List.length_cons, List.length_nil, hlength]
    · omega
    · omega

/-- **What a request can do.** It leaves the configuration and is not echoed, or it is a write in
range, whose echo fits and which was persisted. -/
theorem handle_cases (node : ModbusNode) (request : List UInt8) (capacity : Nat)
    (persistOk : Bool) :
    LeavesConfig node request capacity
        (modbusNodeHandleRequest node request capacity persistOk) ∨
      ∃ address value, WriteInRange address.toNat value.toNat ∧ request.length = 8 ∧
        8 ≤ capacity ∧
        modbusNodeHandleRequest node request capacity persistOk =
          { node := { node with config := writtenConfig node.config address value }
            response := some request
            persisted :=
              if node.persistConfig then some (writtenConfig node.config address value, true)
              else none } := by
  by_cases hheard : Heard node request
  · have hlength := hheard.1
    obtain ⟨function, first, second, rfl⟩ := heard_iff.mp hheard
    rw [handle_requestFrame]
    by_cases hread : function = 0x03
    · subst hread
      rw [if_pos rfl]
      exact .inl (leavesConfig_readRegisters _ hlength _ _ _ _)
    rw [if_neg hread]
    by_cases hwrite : function = 0x06
    · subst hwrite
      rw [if_pos rfl]
      by_cases haddress : Writable first.toNat
      · by_cases hrange : WriteInRange first.toNat second.toNat
        · rw [writeRegister_inRange node _ _ hrange]
          by_cases hcapacity : capacity < 8
          · rw [if_pos hcapacity]
            exact .inl (leavesConfig_noResponse rfl rfl)
          rw [if_neg hcapacity]
          by_cases hfailed : node.persistConfig ∧ !persistOk
          · rw [if_pos hfailed]
            have hleaves := leavesConfig_exceptionResponse node hlength node.config.nodeAddress
              0x06 0x04 capacity
            exact .inl ⟨hleaves.config, hleaves.callback, by simp, hleaves.unechoed, hleaves.fits⟩
          · rw [if_neg hfailed]
            exact .inr ⟨first, second, hrange, hlength, by omega, rfl⟩
        · rw [writeRegister_value node _ _ haddress hrange]
          exact .inl (leavesConfig_exceptionResponse _ hlength _ _ _ _)
      · rw [writeRegister_address node _ _ haddress]
        exact .inl (leavesConfig_exceptionResponse _ hlength _ _ _ _)
    · rw [if_neg hwrite]
      exact .inl (leavesConfig_exceptionResponse _ hlength _ _ _ _)
  · obtain ⟨node', hnode', hconfig⟩ := handle_unheard node capacity persistOk request hheard
    rw [hnode']
    exact .inl (leavesConfig_noResponse hconfig.1 hconfig.2)

/-- **The node implements its register map.** -/
theorem modbus_node_serves (node : ModbusNode) : ServesRegisterMap node where
  unheard request capacity persistOk hheard := by
    obtain ⟨node', hnode', hconfig, -⟩ := handle_unheard node capacity persistOk request hheard
    rw [hnode']
    exact ⟨rfl, hconfig⟩
  heard request hheard := heard_iff.mp hheard
  fits request capacity persistOk response hresponse := by
    rcases handle_cases node request capacity persistOk with hleaves | ⟨_, _, _, hlength, hfits, heq⟩
    · exact hleaves.fits response hresponse
    · rw [heq] at hresponse
      obtain rfl := Option.some.inj hresponse
      omega
  read first quantity capacity persistOk hpositive _ hinside hfits := by
    obtain ⟨words, hresponse, hlength, hwords⟩ := read_inside node persistOk hpositive hinside hfits
    refine ⟨words.flatMap wordBytes, hresponse, ?_, ?_⟩
    · rw [length_flatMap_wordBytes, hlength]
    · rw [bytesWords_flatMap, hwords]
  read_unfit first quantity capacity persistOk hpositive _ hinside hunfit := by
    rw [handle_requestFrame, if_pos rfl, readRegisters_inside node hpositive hinside,
      if_pos (by omega)]
    exact ⟨rfl, rfl, rfl⟩
  read_value first quantity capacity persistOk hquantity := by
    rw [handle_requestFrame, if_pos rfl, readRegisters_value node hquantity]
    exact refused_exceptionResponse node capacity 0x03 0x03
  read_address first quantity capacity persistOk hpositive hquantity houtside := by
    rw [handle_requestFrame, if_pos rfl, readRegisters_address node hpositive hquantity houtside]
    exact refused_exceptionResponse node capacity 0x03 0x02
  write address value capacity persistOk hrange hcapacity hpersist := by
    rw [handle_write node hrange hcapacity hpersist]
  written address value capacity persistOk hrange hcapacity hpersist node' hnode' := by
    rw [handle_write node hrange hcapacity hpersist] at hnode'
    subst hnode'
    refine ⟨fun readCapacity persistOk' hread => ?_, writtenConfig_generation _ _ _,
      fun register => registerValue_written_of_ne node hrange.writable⟩
    exact read_one _ persistOk' (hrange.writable.lt) (registerValue_written node hrange) hread
  write_unfit address value capacity persistOk hrange hcapacity := by
    rw [handle_requestFrame, if_neg (by decide), if_pos rfl, writeRegister_inRange node _ _ hrange,
      if_pos hcapacity]
    exact ⟨rfl, rfl, rfl⟩
  write_failed address value capacity hrange hcapacity hpersist := by
    rw [handle_requestFrame, if_neg (by decide), if_pos rfl, writeRegister_inRange node _ _ hrange,
      if_neg (by omega), if_pos ⟨hpersist, rfl⟩]
    exact ⟨(refused_exceptionResponse node capacity 0x06 0x04).reply,
      (refused_exceptionResponse node capacity 0x06 0x04).unfit⟩
  write_address address value capacity persistOk haddress := by
    rw [handle_requestFrame, if_neg (by decide), if_pos rfl,
      writeRegister_address node _ _ haddress]
    exact refused_exceptionResponse node capacity 0x06 0x02
  write_value address value capacity persistOk haddress hrange := by
    rw [handle_requestFrame, if_neg (by decide), if_pos rfl,
      writeRegister_value node _ _ haddress hrange]
    exact refused_exceptionResponse node capacity 0x06 0x03
  other function first second capacity persistOk hread hwrite := by
    rw [handle_requestFrame, if_neg hread, if_neg hwrite]
    exact refused_exceptionResponse node capacity function 0x01

end IiotMonitoring
