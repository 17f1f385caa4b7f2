import IiotMonitoring.Firmware.ModbusNode

/-!
# The flash page of the Modbus node

`persist_config` of the STM32 node's `main.c` on the bytes of its page, and the node with that page from
one request to the next. A flash call that fails has no effect.
-/

namespace IiotMonitoring

/-- `CONFIG_FLASH_PAGE_SIZE`. -/
def configFlashPageSize : Nat := 1024

/-- `MODBUS_NODE_MAX_RESPONSE`, the capacity the node answers with. -/
def modbusNodeMaxResponse : Nat := 41

/-- Which of the HAL's flash calls succeed while a configuration is persisted: the unlock, the erase and
the programming of the half-word at an offset. -/
structure FlashCalls where
  unlock : Bool
  erase : Bool
  program : Nat → Bool

def erasedPage : List UInt8 := List.replicate configFlashPageSize 0xff

/-- `HAL_FLASH_Program` of a half-word, on an erased one. -/
def programHalfword (page : List UInt8) (offset : Nat) (low high : UInt8) : List UInt8 :=
  (page.set offset low).set (offset + 1) high

/-- The loop of `persist_config` from an offset on, with the bytes that are left. An odd last byte is
programmed with `0xff`. -/
def programFrom (program : Nat → Bool) (page : List UInt8) (offset : Nat) :
    List UInt8 → Bool × List UInt8
  | [] => (true, page)
  | [last] =>
      if program offset then (true, programHalfword page offset last 0xff) else (false, page)
  | low :: high :: rest =>
      if program offset then
        programFrom program (programHalfword page offset low high) (offset + 2) rest
      else
        (false, page)

/-- `persist_config`, with the page it leaves. -/
def persistConfig (calls : FlashCalls) (config : ModbusNodeConfig) (page : List UInt8) :
    Bool × List UInt8 :=
  if !calls.unlock then
    (false, page)
  else if !calls.erase then
    (false, page)
  else
    let image := modbusConfigLayout.encode config
    let (success, page) := programFrom calls.program erasedPage 0 image
    (success && page.take modbusConfigLayout.size == image, page)

/-- The configuration at `CONFIG_FLASH_ADDRESS`. -/
def storedConfig (page : List UInt8) : ModbusNodeConfig :=
  modbusConfigLayout.decode (page.take modbusConfigLayout.size)

/-! ### The node with its page -/

/-- A request, and what the flash calls do if it is persisted. -/
structure FlashRequest where
  frame : List UInt8
  calls : FlashCalls

/-- The node, its page, and whether a half-word failed to be programmed since the page was last written
in full. -/
structure FlashedNode where
  node : ModbusNode
  page : List UInt8
  torn : Bool

def FlashedNode.boot (page : List UInt8) : FlashedNode :=
  ⟨modbusNodeInit (some (storedConfig page)) true, page, false⟩

/-- The configuration a request hands to `persist_config`, if it does. -/
def FlashedNode.offered (run : FlashedNode) (frame : List UInt8) : Option ModbusNodeConfig :=
  (modbusNodeHandleRequest run.node frame modbusNodeMaxResponse true).persisted.map Prod.fst

/-- `modbus_node_handle_request` with `persist_config` as the callback. -/
def FlashedNode.handle (run : FlashedNode) (request : FlashRequest) : ModbusHandled :=
  let persistOk :=
    match run.offered request.frame with
    | none => true
    | some config => (persistConfig request.calls config run.page).1
  modbusNodeHandleRequest run.node request.frame modbusNodeMaxResponse persistOk

def FlashedNode.step (run : FlashedNode) (request : FlashRequest) : FlashedNode :=
  let node := (run.handle request).node
  match run.offered request.frame with
  | none => { run with node }
  | some config =>
      let (success, page) := persistConfig request.calls config run.page
      { node
        page
        torn := !success && (run.torn || (request.calls.unlock && request.calls.erase)) }

end IiotMonitoring
