import IiotMonitoring.Firmware.Command
import IiotMonitoring.Lib.Calendar

/-!
# The gateway's UTC texts

`gateway_utc_now` of `gateway_platform.c`, with `gmtime_r` and `strftime` of the C library, and the
reads `utc_value_is_valid` of `app_main.c` makes of its argument. A C string is a text with one
character for each `char`.
-/

namespace IiotMonitoring

/-! ### Now -/

/-- `struct tm`, for a year that fits `tm_year`. -/
structure UtcTime where
  date : CivilDate
  hour : Nat
  minute : Nat
  second : Nat

/-- `gmtime_r`, from 1970 on. -/
def gmtime (time : Nat) : Option UtcTime :=
  let date := dateFrom 1970 (time / 86400)
  if date.year - 1900 ≤ 2147483647 then
    some {
      date := date
      hour := time % 86400 / 3600
      minute := time % 3600 / 60
      second := time % 60 }
  else
    none

/-- `strftime` with the format `%Y-%m-%dT%H:%M:%SZ`, where the text fits. -/
def strftimeUtc (utc : UtcTime) : List Char :=
  Nat.toDigits 10 utc.date.year ++
    (timeText (utc.date.month + 1) (utc.date.day + 1) utc.hour utc.minute utc.second ++ ['Z'])

/-- What `gateway_utc_now` leaves in `output`, if it returns true, with the clock at `time`. -/
def gatewayUtcNow (time : Int) (outputSize : Nat) : Option String :=
  if time < 1735689600 then
    none
  else
    match gmtime time.toNat with
    | none => none
    | some utc =>
        let text := strftimeUtc utc
        if text.length < outputSize then some (String.ofList text) else none

/-! ### Reading a text -/

/-- A character of a C string, or its terminator. There is nothing to read past it. -/
def readChar (value : String) (index : Nat) : Option Char := (value.toList ++ ['\x00'])[index]?

def separatorsRead (value : String) : Option Bool :=
  [(4, '-'), (7, '-'), (10, 'T'), (13, ':'), (16, ':'), (value.toList.length - 1, 'Z')].allM
    fun place => return (← readChar value place.1) = place.2

def digitsRead (value : String) : Option Bool :=
  (List.range 19).allM fun index =>
    if index = 4 ∨ index = 7 ∨ index = 10 ∨ index = 13 ∨ index = 16 then
      return true
    else
      return (← readChar value index).isDigit

def fractionRead (value : String) : Option Bool :=
  (List.range' 20 (value.toList.length - 21)).allM fun index =>
    return (← readChar value index).isDigit

/-- `utc_value_is_valid`, with every character read where C reads it. -/
def utcValueReads (value : String) : Option Bool := do
  let length := value.toList.length
  if length < 20 ∨ length > 30 then
    return false
  if !(← separatorsRead value) then
    return false
  if !(← digitsRead value) then
    return false
  if length > 20 then
    if length < 22 then
      return false
    if (← readChar value 19) ≠ '.' then
      return false
    fractionRead value
  else
    return true

end IiotMonitoring
