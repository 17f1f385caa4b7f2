import IiotMonitoring.Firmware.ModbusNode
import IiotMonitoring.Firmware.Nvs

/-!
# The gateway's Modbus poll

`modbus_poll_identity` of `sensor_drivers.c`: the request it writes to the RS-485 line, and the status
it makes of the bytes that come back. Its `modbus_crc` is the loop of `modbus_crc16`.
-/

namespace IiotMonitoring

/-- What the poll writes to `modbus_status`. -/
inductive PollStatus where
  | ok | timeout | stale | exception | crcError
  deriving DecidableEq, Repr

def PollStatus.text : PollStatus → String
  | ok => "ok"
  | timeout => "timeout"
  | stale => "stale"
  | exception => "exception"
  | crcError => "crc_error"

/-- `request`: eight registers of node 1, from the first. -/
def pollRequest : List UInt8 := appendCrc [1, 3, 0, 0, 0, 8]

/-- The checks of `response`, once something was received. -/
def responseStatus (response : List UInt8) : PollStatus :=
  let received := response.length
  if received < 5 ∨ response.getD 0 0 ≠ 1 then
    .stale
  else if response.getD 1 0 &&& 0x80 ≠ 0 then
    .exception
  else
    let actualCrc := modbusCrc16 (response.take (received - 2))
    let frameCrc := joinWord (response.getD (received - 1) 0) (response.getD (received - 2) 0)
    if actualCrc = frameCrc then .ok else .crcError

/-- What the UART driver answers: the bytes written, whether they left the line in time, and the bytes
read, `none` for an error. -/
structure PollUart where
  written : Int
  txDone : EspErr
  response : Option (List UInt8)
  deriving DecidableEq

def modbusPollIdentity (uart : PollUart) : PollStatus :=
  if uart.written ≠ pollRequest.length ∨ uart.txDone ≠ .ok then
    .timeout
  else
    match uart.response with
    | none => .stale
    | some response => if response.length = 0 then .timeout else responseStatus response

end IiotMonitoring
