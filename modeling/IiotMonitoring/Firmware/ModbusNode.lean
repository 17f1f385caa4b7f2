import IiotMonitoring.Lib.Layout
import IiotMonitoring.Lib.Words
import IiotMonitoring.Firmware.OfflineQueue

/-!
# The Modbus node

`modbus_node.c`: the configuration record with its checksum, the register map and the request
handler. The handler returns what it did, so that a run of the node is a function of the requests,
the measurements and what `persist_config` answered.
-/

namespace IiotMonitoring

/-! ### Frames -/

def crc16Bit (crc : UInt16) : UInt16 :=
  if crc &&& 1 ≠ 0 then (crc >>> 1) ^^^ 0xa001 else crc >>> 1

def crc16Byte (crc : UInt16) (byte : UInt8) : UInt16 :=
  (List.range 8).foldl (fun value _ => crc16Bit value) (crc ^^^ byte.toUInt16)

def modbusCrc16 (data : List UInt8) : UInt16 := data.foldl crc16Byte 0xffff

/-- The checksum follows the frame low byte first. -/
def appendCrc (frame : List UInt8) : List UInt8 :=
  frame ++ [(modbusCrc16 frame).toUInt8, (modbusCrc16 frame >>> 8).toUInt8]

/-! ### Configuration -/

/-- `modbus_node_config_t`. -/
structure ModbusNodeConfig where
  magic : UInt32
  schemaVersion : UInt16
  structSize : UInt16
  generation : UInt32
  nodeAddress : UInt8
  reserved : Vector UInt8 3
  calibrationOffsetCentiC : Int16
  calibrationGainQ15 : UInt16
  checksum : UInt32
  deriving DecidableEq, Repr

/-- The fields before `checksum`. No padding stands between them. -/
def modbusConfigHeaderLayout :
    Layout (UInt32 × UInt16 × UInt16 × UInt32 × UInt8 × Vector UInt8 3 × UInt16 × UInt16) :=
  Layout.u32.pair (Layout.u16.pair (Layout.u16.pair (Layout.u32.pair (Layout.u8.pair
    ((Layout.bytes 3).pair (Layout.u16.pair Layout.u16))))))

def modbusConfigLayout : Layout ModbusNodeConfig :=
  (modbusConfigHeaderLayout.pair Layout.u32).via
    (fun config => ((config.magic, config.schemaVersion, config.structSize, config.generation,
      config.nodeAddress, config.reserved, config.calibrationOffsetCentiC.toUInt16,
      config.calibrationGainQ15), config.checksum))
    (fun fields => ⟨fields.1.1, fields.1.2.1, fields.1.2.2.1, fields.1.2.2.2.1, fields.1.2.2.2.2.1,
      fields.1.2.2.2.2.2.1, fields.1.2.2.2.2.2.2.1.toInt16, fields.1.2.2.2.2.2.2.2, fields.2⟩)
    fun _ => rfl

def modbusNodeConfigMagic : UInt32 := 0x4d4f4442

def modbusNodeConfigVersion : UInt16 := 1

def modbusNodeConfigChecksum (config : ModbusNodeConfig) : UInt32 :=
  iiotCrc32 ((modbusConfigLayout.encode config).take modbusConfigHeaderLayout.size)

def modbusNodeConfigFinalize (config : ModbusNodeConfig) : ModbusNodeConfig :=
  let config := { config with
    magic := modbusNodeConfigMagic
    schemaVersion := modbusNodeConfigVersion
    structSize := UInt16.ofNat modbusConfigLayout.size }
  { config with checksum := modbusNodeConfigChecksum config }

def modbusNodeConfigDefaults : ModbusNodeConfig :=
  modbusNodeConfigFinalize
    { modbusConfigLayout.zero with
      magic := modbusNodeConfigMagic
      schemaVersion := modbusNodeConfigVersion
      structSize := UInt16.ofNat modbusConfigLayout.size
      generation := 1
      nodeAddress := 1
      calibrationGainQ15 := 32768 }

/-- `modbus_node_config_validate` on a configuration that is not NULL. -/
def modbusNodeConfigValidate (config : ModbusNodeConfig) : Bool :=
  config.magic = modbusNodeConfigMagic ∧ config.schemaVersion = modbusNodeConfigVersion ∧
    config.structSize = UInt16.ofNat modbusConfigLayout.size ∧ config.nodeAddress ≥ 1 ∧
    config.nodeAddress ≤ 247 ∧ config.calibrationOffsetCentiC ≥ -5000 ∧
    config.calibrationOffsetCentiC ≤ 5000 ∧ config.calibrationGainQ15 ≥ 16384 ∧
    config.checksum = modbusNodeConfigChecksum config

/-! ### The node -/

/-- `modbus_sensor_status_t`. -/
inductive ModbusSensorStatus where
  | ok | stale | outOfRange | adcError
  deriving DecidableEq, Repr

def ModbusSensorStatus.code : ModbusSensorStatus → UInt16
  | .ok => 0
  | .stale => 1
  | .outOfRange => 2
  | .adcError => 3

/-- `modbus_node_t`. Of the callback the node knows whether there is one. -/
structure ModbusNode where
  config : ModbusNodeConfig
  temperatureCentiC : Int16
  adcRaw : UInt16
  sensorStatus : UInt16
  faultFlags : UInt16
  uptimeMs : UInt32
  resetCount : UInt32
  crcErrorCount : UInt32
  exceptionCount : UInt32
  persistConfig : Bool
  deriving DecidableEq, Repr

/-- `config` is `none` where the caller passes NULL. -/
def modbusNodeInit (config : Option ModbusNodeConfig) (persistConfig : Bool) : ModbusNode :=
  let accepted := config.filter modbusNodeConfigValidate
  { config := accepted.getD modbusNodeConfigDefaults
    temperatureCentiC := 0
    adcRaw := 0
    sensorStatus := 0
    faultFlags := if accepted.isSome then 0 else 1
    uptimeMs := 0
    resetCount := 0
    crcErrorCount := 0
    exceptionCount := 0
    persistConfig }

def modbusNodeSetMeasurement (node : ModbusNode) (adcRaw : UInt16) (temperatureCentiC : Int16)
    (sensorStatus : ModbusSensorStatus) (faultFlags : UInt16) (uptimeMs resetCount : UInt32) :
    ModbusNode :=
  { node with
    adcRaw
    temperatureCentiC
    sensorStatus := sensorStatus.code
    faultFlags := (node.faultFlags &&& 1) ||| faultFlags
    uptimeMs
    resetCount }

/-- `MODBUS_NODE_REGISTER_COUNT`. -/
def modbusNodeRegisterCount : Nat := 18

def registers (node : ModbusNode) : Vector UInt16 modbusNodeRegisterCount :=
  #v[0x0100,
    0x4949,
    node.config.nodeAddress.toUInt16,
    0x0001,
    node.sensorStatus,
    node.faultFlags,
    node.temperatureCentiC.toUInt16,
    node.adcRaw,
    (node.uptimeMs >>> 16).toUInt16,
    node.uptimeMs.toUInt16,
    (node.resetCount >>> 16).toUInt16,
    node.resetCount.toUInt16,
    node.crcErrorCount.toUInt16,
    node.exceptionCount.toUInt16,
    (node.config.generation >>> 16).toUInt16,
    node.config.generation.toUInt16,
    node.config.calibrationOffsetCentiC.toUInt16,
    node.config.calibrationGainQ15]

/-! ### Requests -/

/-- What `modbus_node_handle_request` leaves: the node, the response frame unless the result is
`MODBUS_NODE_NO_RESPONSE`, and the configuration passed to `persist_config` with its answer. -/
structure ModbusHandled where
  node : ModbusNode
  response : Option (List UInt8)
  persisted : Option (ModbusNodeConfig × Bool)
  deriving DecidableEq

def noResponse (node : ModbusNode) : ModbusHandled := ⟨node, none, none⟩

def exceptionResponse (node : ModbusNode) (address function exception : UInt8)
    (responseCapacity : Nat) : ModbusHandled :=
  if responseCapacity < 5 then
    noResponse node
  else
    { node := { node with exceptionCount := node.exceptionCount + 1 }
      response := some (appendCrc [address, function ||| 0x80, exception])
      persisted := none }

/-- `first` and `quantity` are the request's two words. -/
def readRegisters (node : ModbusNode) (address function : UInt8) (first quantity : UInt16)
    (responseCapacity : Nat) : ModbusHandled :=
  if quantity = 0 ∨ quantity.toNat > modbusNodeRegisterCount then
    exceptionResponse node address function 0x03 responseCapacity
  else if first.toNat ≥ modbusNodeRegisterCount ∨
      first.toNat + quantity.toNat > modbusNodeRegisterCount then
    exceptionResponse node address function 0x02 responseCapacity
  else if responseCapacity < 5 + quantity.toNat * 2 then
    noResponse node
  else
    let values := ((registers node).toList.drop first.toNat).take quantity.toNat
    { node
      response := some (appendCrc
        ([address, 0x03, (quantity * 2).toUInt8] ++ values.flatMap wordBytes))
      persisted := none }

def writeValueIsValid (address value : UInt16) : Bool :=
  if address = 2 then
    value ≥ 1 ∧ value ≤ 247
  else if address = 16 then
    value.toInt16 ≥ -5000 ∧ value.toInt16 ≤ 5000
  else
    address = 17 ∧ value ≥ 16384

/-- The configuration `write_register` hands to `persist_config`. -/
def writtenConfig (config : ModbusNodeConfig) (address value : UInt16) : ModbusNodeConfig :=
  let config :=
    if address = 2 then
      { config with nodeAddress := value.toUInt8 }
    else if address = 16 then
      { config with calibrationOffsetCentiC := value.toInt16 }
    else
      { config with calibrationGainQ15 := value }
  modbusNodeConfigFinalize { config with generation := config.generation + 1 }

/-- `address` and `value` are the request's two words, `persistOk` is what `persist_config` answers
if it is called. -/
def writeRegister (node : ModbusNode) (request : List UInt8) (nodeAddress function : UInt8)
    (address value : UInt16) (responseCapacity : Nat) (persistOk : Bool) : ModbusHandled :=
  if address ≠ 2 ∧ address ≠ 16 ∧ address ≠ 17 then
    exceptionResponse node nodeAddress function 0x02 responseCapacity
  else if !writeValueIsValid address value then
    exceptionResponse node nodeAddress function 0x03 responseCapacity
  else if responseCapacity < 8 then
    noResponse node
  else
    let config := writtenConfig node.config address value
    if node.persistConfig ∧ !persistOk then
      { exceptionResponse node nodeAddress function 0x04 responseCapacity with
        persisted := some (config, false) }
    else
      { node := { node with config }
        response := some request
        persisted := if node.persistConfig then some (config, true) else none }

def modbusNodeHandleRequest (node : ModbusNode) (request : List UInt8) (responseCapacity : Nat)
    (persistOk : Bool) : ModbusHandled :=
  match request with
  | [address, function, firstHigh, firstLow, secondHigh, secondLow, crcLow, crcHigh] =>
    if modbusCrc16 [address, function, firstHigh, firstLow, secondHigh, secondLow] ≠
        joinWord crcHigh crcLow then
      noResponse { node with crcErrorCount := node.crcErrorCount + 1 }
    else if address ≠ node.config.nodeAddress then
      noResponse node
    else
      let first := joinWord firstHigh firstLow
      let second := joinWord secondHigh secondLow
      if function = 0x03 then
        readRegisters node address function first second responseCapacity
      else if function = 0x06 then
        writeRegister node request address function first second responseCapacity persistOk
      else
        exceptionResponse node address function 0x01 responseCapacity
  -- `request_length` is not 8
  | _ => noResponse node

/-- The golden frame of the register map's documentation. -/
example :
    (modbusNodeHandleRequest
      (modbusNodeSetMeasurement (modbusNodeInit (some modbusNodeConfigDefaults) true) 2048 4250 .ok
        0 120000 3)
      [0x01, 0x03, 0x00, 0x00, 0x00, 0x08, 0x44, 0x0c] 41 true).response =
      some [0x01, 0x03, 0x10, 0x01, 0x00, 0x49, 0x49, 0x00, 0x01, 0x00, 0x01, 0x00, 0x00, 0x00,
        0x00, 0x10, 0x9a, 0x08, 0x00, 0xa4, 0x0a] := by
  decide +kernel

end IiotMonitoring
