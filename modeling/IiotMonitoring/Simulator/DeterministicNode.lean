import IiotMonitoring.Lib.Layout

/-!
# The simulated Modbus node

`simulator/modbus/protocol.py`: integers are unbounded, and a value that does not fit a byte or a word
raises where it is converted.
-/

namespace IiotMonitoring

/-- `Scenario`. -/
inductive Scenario where
  | normal | timeout | badCrc | illegalAddress | stale
  deriving DecidableEq, Repr

/-- The exceptions of a conversion to bytes. -/
inductive ByteError where
  | valueError | overflowError
  deriving DecidableEq, Repr

/-- `REGISTER_COUNT`. -/
def registerCount : Int := 18

/-! ### Bytes -/

/-- One turn of the inner loop of `crc16`. -/
def pythonCrc16Bit (crc : Nat) : Nat := if crc &&& 1 ≠ 0 then (crc >>> 1) ^^^ 0xa001 else crc >>> 1

def pythonCrc16Byte (crc : Nat) (value : UInt8) : Nat :=
  (List.range 8).foldl (fun crc _ => pythonCrc16Bit crc) (crc ^^^ value.toNat)

/-- `crc16`. -/
def pythonCrc16 (data : List UInt8) : Nat := data.foldl pythonCrc16Byte 0xffff

/-- `bytes` of a list of integers. -/
def bytesOf (values : List Int) : Except ByteError (List UInt8) :=
  values.mapM fun value =>
    if 0 ≤ value ∧ value < 256 then .ok (UInt8.ofNat value.toNat) else .error .valueError

/-- `value.to_bytes(2, "big")`. -/
def toBigWord (value : Int) : Except ByteError (List UInt8) :=
  if 0 ≤ value ∧ value < 65536 then
    .ok [UInt8.ofNat (value.toNat / 256), UInt8.ofNat value.toNat]
  else
    .error .overflowError

/-- `value.to_bytes(2, "little")`. -/
def toLittleWord (value : Nat) : Except ByteError (List UInt8) :=
  if value < 65536 then .ok (Layout.natBytes 2 value) else .error .overflowError

/-- `int.from_bytes(data, "big")`. -/
def fromBig (data : List UInt8) : Int := data.foldl (fun total byte => 256 * total + byte.toNat) 0

/-- `with_crc`. -/
def withCrc (payload : List UInt8) : Except ByteError (List UInt8) := do
  let checksum ← toLittleWord (pythonCrc16 payload)
  return payload ++ checksum

/-- `value & 0xFFFF`. -/
def lowWord (value : Int) : Int := value % 0x10000

/-! ### The node -/

structure DeterministicNode where
  nodeAddress : Int
  scenario : Scenario
  temperatureCentiC : Int
  adcRaw : Int
  sensorStatus : Int
  faultFlags : Int
  uptimeMs : Int
  resetCount : Int
  crcErrorCount : Int
  exceptionCount : Int
  configGeneration : Int
  calibrationOffsetCentiC : Int
  calibrationGainQ15 : Int
  staleRegisters : Option (List Int)
  deriving DecidableEq, Repr

namespace DeterministicNode

/-- The list `current` of `registers`. -/
def current (node : DeterministicNode) : List Int :=
  [0x0100,
    0x4949,
    node.nodeAddress,
    0x0001,
    node.sensorStatus,
    node.faultFlags,
    lowWord node.temperatureCentiC,
    node.adcRaw,
    lowWord (node.uptimeMs >>> (16 : Nat)),
    lowWord node.uptimeMs,
    lowWord (node.resetCount >>> (16 : Nat)),
    lowWord node.resetCount,
    lowWord node.crcErrorCount,
    lowWord node.exceptionCount,
    lowWord (node.configGeneration >>> (16 : Nat)),
    lowWord node.configGeneration,
    lowWord node.calibrationOffsetCentiC,
    node.calibrationGainQ15]

def registers (node : DeterministicNode) : List Int × DeterministicNode :=
  if node.scenario = .stale then
    let stale := node.staleRegisters.getD node.current
    (stale, { node with staleRegisters := some stale })
  else
    (node.current, { node with staleRegisters := none })

/-- `_exception`, with the node it leaves. -/
def exception (node : DeterministicNode) (function code : Int) :
    Except ByteError (List UInt8) × DeterministicNode :=
  let node := { node with exceptionCount := node.exceptionCount + 1 }
  ((do
    let payload ← bytesOf [node.nodeAddress, ((function.toNat ||| 0x80 : Nat) : Int), code]
    withCrc payload), node)

/-- The answer to a read of registers that exist. -/
def readResponse (node : DeterministicNode) (function first quantity : Int) :
    Except ByteError (List UInt8) × DeterministicNode :=
  let (registers, node) := node.registers
  let values := (registers.drop first.toNat).take quantity.toNat
  ((do
    let data ← values.mapM toBigWord
    let header ← bytesOf [node.nodeAddress, function, data.flatten.length]
    withCrc (header ++ data.flatten)), node)

/-- The response of `handle` before the scenario may spoil it. -/
def respond (node : DeterministicNode) (frame : List UInt8) :
    Except ByteError (List UInt8) × DeterministicNode :=
  let function : Int := (frame.getD 1 0).toNat
  if node.scenario = .illegalAddress then
    node.exception function 0x02
  else if function = 0x03 then
    let first := fromBig ((frame.take 4).drop 2)
    let quantity := fromBig ((frame.take 6).drop 4)
    if quantity < 1 ∨ quantity > registerCount then
      node.exception function 0x03
    else if first ≥ registerCount ∨ first + quantity > registerCount then
      node.exception function 0x02
    else
      node.readResponse function first quantity
  else
    node.exception function 0x01

/-- `handle`: the response, or none, or what it raises, and the node it leaves. -/
def handle (node : DeterministicNode) (frame : List UInt8) :
    Except ByteError (Option (List UInt8)) × DeterministicNode :=
  if node.scenario = .timeout then
    (.ok none, node)
  else if frame.length ≠ 8 ∨ pythonCrc16 (frame.take (frame.length - 2)) ≠
      Layout.bytesNat (frame.drop (frame.length - 2)) then
    (.ok none, { node with crcErrorCount := node.crcErrorCount + 1 })
  else if ((frame.getD 0 0).toNat : Int) ≠ node.nodeAddress then
    (.ok none, node)
  else
    let (response, node) := node.respond frame
    if node.scenario = .badCrc then
      (response.map fun bytes => some (bytes.dropLast ++ [bytes.getLastD 0 ^^^ 0x01]), node)
    else
      (response.map some, node)

/-- The assignments to its fields that give the node a measurement. -/
def measure (node : DeterministicNode) (adcRaw temperatureCentiC sensorStatus faultFlags uptimeMs
    resetCount : Int) : DeterministicNode :=
  { node with adcRaw, temperatureCentiC, sensorStatus, faultFlags, uptimeMs, resetCount }

/-- The node with the defaults of its class. -/
def default : DeterministicNode :=
  { nodeAddress := 1
    scenario := .normal
    temperatureCentiC := 4250
    adcRaw := 2048
    sensorStatus := 0
    faultFlags := 0
    uptimeMs := 120000
    resetCount := 3
    crcErrorCount := 0
    exceptionCount := 0
    configGeneration := 1
    calibrationOffsetCentiC := 0
    calibrationGainQ15 := 32768
    staleRegisters := none }

/-- The golden frame of the simulator's tests. -/
example : (default.handle [1, 3, 0, 0, 0, 8, 68, 12]).1 =
    .ok (some [1, 3, 16, 1, 0, 73, 73, 0, 1, 0, 1, 0, 0, 0, 0, 16, 154, 8, 0, 164, 10]) := by
  decide +kernel

end DeterministicNode

end IiotMonitoring
