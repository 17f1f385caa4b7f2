import Mathlib.Data.List.Infix
import IiotMonitoring.Firmware.GatewayConfig

/-!
# Serial provisioning

`provisioning.c`: the fields a `SET` line may write, `handle_line`, and the loop that assembles lines
from the bytes of the UART until one of them completes it or the window times out. `strtof` is a
parameter; `strtoul` is written out for an `unsigned long` of 32 bits.
-/

namespace IiotMonitoring

/-! ### Values -/

/-- A number read from the front of a text, the text after it, and whether `errno` was set. -/
structure ParsedNumber (α : Type) where
  value : α
  rest : List UInt8
  rangeError : Bool
  deriving DecidableEq

/-- `isspace` in the C locale. -/
def isSpaceByte (character : UInt8) : Bool := character = 32 ∨ (9 ≤ character ∧ character ≤ 13)

/-- `isdigit`. -/
def isDigitByte (character : UInt8) : Bool := 48 ≤ character ∧ character ≤ 57

/-- `strtoul` in base ten. A minus sign negates the number in the unsigned type. -/
def strtoul (text : List UInt8) : ParsedNumber Nat :=
  let signed := text.dropWhile isSpaceByte
  let negative := signed.head? = some 45
  let unsigned := if negative ∨ signed.head? = some 43 then signed.drop 1 else signed
  let digits := unsigned.takeWhile isDigitByte
  if digits = [] then
    ⟨0, text, false⟩
  else
    let magnitude := digits.foldl (fun total digit => 10 * total + (digit.toNat - 48)) 0
    let rest := unsigned.dropWhile isDigitByte
    if 2 ^ 32 ≤ magnitude then
      ⟨2 ^ 32 - 1, rest, true⟩
    else if negative then
      ⟨(2 ^ 32 - magnitude) % 2 ^ 32, rest, false⟩
    else
      ⟨magnitude, rest, false⟩

/-- `copy_value`, with the destination it leaves. -/
def copyValue {size : Nat} (destination : Vector UInt8 size) (value : List UInt8) :
    Bool × Vector UInt8 size :=
  if value.length = 0 ∨ value.length ≥ size then
    (false, destination)
  else
    (true, storeText destination value)

/-- The number `parse_unsigned` stores, if it returns true. -/
def parseUnsigned (value : List UInt8) (minimum maximum : Nat) : Option Nat :=
  let result := strtoul value
  if result.rangeError ∨ result.rest = value ∨ result.rest ≠ [] ∨ result.value < minimum ∨
      maximum < result.value then
    none
  else
    some result.value

section Console

variable (strtof : List UInt8 → ParsedNumber CFloat)

/-- The number `parse_float` stores, if it returns true. Neither comparison holds of NaN. -/
def parseFloat (value : List UInt8) (minimum maximum : CFloat) : Option CFloat :=
  let result := strtof value
  if result.rangeError ∨ result.rest = value ∨ result.rest ≠ [] ∨
      result.value.value.less minimum.value ∨ maximum.value.less result.value.value then
    none
  else
    some result.value

/-! ### Fields -/

/-- A row of the table `values` in `apply_field`. -/
structure FloatField where
  name : String
  store : IiotConfig → CFloat → IiotConfig
  minimum : CFloat
  maximum : CFloat

/-- The table `values`. The bounds are `-80` and `199`, `-79` and `200`, `0` and `1999`, `0.1` and
`2000`, `0` and `9.9`, `0.1` and `10`, `1` and `25`. -/
def floatFields : List FloatField :=
  [{ name := "temperature_warning_c"
     store := fun config value =>
       { config with temperature := { config.temperature with warning := value } }
     minimum := ⟨0xc2a00000⟩
     maximum := ⟨0x43470000⟩ },
   { name := "temperature_critical_c"
     store := fun config value =>
       { config with temperature := { config.temperature with critical := value } }
     minimum := ⟨0xc29e0000⟩
     maximum := ⟨0x43480000⟩ },
   { name := "vibration_warning_mps2"
     store := fun config value =>
       { config with vibration := { config.vibration with warning := value } }
     minimum := ⟨0⟩
     maximum := ⟨0x44f9e000⟩ },
   { name := "vibration_critical_mps2"
     store := fun config value =>
       { config with vibration := { config.vibration with critical := value } }
     minimum := ⟨0x3dcccccd⟩
     maximum := ⟨0x44fa0000⟩ },
   { name := "current_warning_a"
     store := fun config value =>
       { config with current := { config.current with warning := value } }
     minimum := ⟨0⟩
     maximum := ⟨0x411e6666⟩ },
   { name := "current_critical_a"
     store := fun config value =>
       { config with current := { config.current with critical := value } }
     minimum := ⟨0x3dcccccd⟩
     maximum := ⟨0x41200000⟩ },
   { name := "hysteresis_percent"
     store := fun config value =>
       { config with
         temperature := { config.temperature with hysteresisPercent := value }
         vibration := { config.vibration with hysteresisPercent := value }
         current := { config.current with hysteresisPercent := value } }
     minimum := ⟨0x3f800000⟩
     maximum := ⟨0x41c80000⟩ }]

/-- The loop over `values`. -/
def applyFloatField (config : IiotConfig) (field value : List UInt8) :
    List FloatField → Bool × IiotConfig
  | [] => (false, config)
  | row :: rows =>
      if field = literalText row.name then
        match parseFloat strtof value row.minimum row.maximum with
        | some number => (true, row.store config number)
        | none => applyFloatField config field value rows
      else
        applyFloatField config field value rows

/-- One of the integer fields of `apply_field`, and the fields after it. -/
def applyUnsignedField (field value : List UInt8) (name : String) (minimum maximum : Nat)
    (store : Nat → IiotConfig) (otherwise : Bool × IiotConfig) : Bool × IiotConfig :=
  if field = literalText name then
    match parseUnsigned value minimum maximum with
    | some integer => (true, store integer)
    | none => otherwise
  else
    otherwise

/-- `apply_field`, with the configuration it leaves. -/
def applyField (config : IiotConfig) (field value : List UInt8) : Bool × IiotConfig :=
  if field = literalText "site_id" then
    let (copied, siteId) := copyValue config.siteId value
    (copied, { config with siteId })
  else if field = literalText "device_id" then
    let (copied, deviceId) := copyValue config.deviceId value
    (copied, { config with deviceId })
  else if field = literalText "wifi_ssid" then
    let (copied, wifiSsid) := copyValue config.wifiSsid value
    (copied, { config with wifiSsid })
  else if field = literalText "wifi_password" then
    if value.length ≥ 65 then
      (false, config)
    else
      (true, { config with wifiPassword := printText config.wifiPassword value })
  else if field = literalText "mqtt_host" then
    let (copied, mqttHost) := copyValue config.mqttHost value
    (copied, { config with mqttHost })
  else
    applyUnsignedField field value "mqtt_port" 1 65535
      (fun integer => { config with mqttPort := UInt16.ofNat integer }) <|
    applyUnsignedField field value "sample_interval_ms" 10 1000
      (fun integer => { config with sampleIntervalMs := UInt16.ofNat integer }) <|
    applyUnsignedField field value "telemetry_interval_ms" 100 60000
      (fun integer => { config with telemetryIntervalMs := UInt16.ofNat integer }) <|
    applyUnsignedField field value "offline_capacity" 1 iiotOfflineCapacityMax
      (fun integer => { config with offlineCapacity := UInt8.ofNat integer }) <|
    applyFloatField strtof config field value floatFields

/-! ### Lines -/

/-- What `handle_line` prints. -/
inductive Reply where
  | help
  | masked (config : IiotConfig)
  | aborted
  | rejected (code : String)
  | saved
  | accepted (field value : List UInt8)
  deriving DecidableEq

/-- A string, or a text in its place where it is empty. -/
def textOr {size : Nat} (array : Vector UInt8 size) (unset : String) (shown : List UInt8) :
    List UInt8 :=
  if cText array = [] then literalText unset else shown

/-- The line `show_masked` prints. -/
def showMasked (config : IiotConfig) : List UInt8 :=
  literalText "CONFIG site_id=" ++ cText config.siteId ++
    literalText " device_id=" ++ cText config.deviceId ++
    literalText " wifi_ssid=" ++ textOr config.wifiSsid "<unset>" (cText config.wifiSsid) ++
    literalText " wifi_password=" ++ textOr config.wifiPassword "<unset>" (literalText "********") ++
    literalText " mqtt_host=" ++ cText config.mqttHost ++
    literalText " mqtt_port=" ++ literalText (toString config.mqttPort.toNat) ++
    literalText " sample_interval_ms=" ++ literalText (toString config.sampleIntervalMs.toNat) ++
    literalText " telemetry_interval_ms=" ++
    literalText (toString config.telemetryIntervalMs.toNat) ++
    literalText " capacity=" ++ literalText (toString config.offlineCapacity.toNat) ++
    literalText "\n"

def Reply.text : Reply → List UInt8
  | help => literalText "Commands: SHOW | SET field=value | COMMIT | ABORT\n"
  | masked config => showMasked config
  | aborted => literalText "ABORTED; relay remains OFF\n"
  | rejected code => literalText ("REJECTED code=" ++ code ++ "\n")
  | saved => literalText "SAVED; reboot required\n"
  | accepted field value =>
      literalText "ACCEPTED field=" ++ field ++ literalText " value=" ++
        (if literalText "password" <:+: field then literalText "********" else value) ++
        literalText "\n"

/-- What `handle_line` leaves: the configuration, what it printed, what it returned and whether it set
`*complete`. -/
structure LineOutcome where
  config : IiotConfig
  reply : Reply
  result : Bool
  complete : Bool
  deriving DecidableEq

/-- A `SET` line after the command: the text before the first `=` and the text after it. -/
def splitAssignment (assignment : List UInt8) : Option (List UInt8 × List UInt8) :=
  let field := assignment.takeWhile (· ≠ 61)
  if field.length = assignment.length ∨ field = [] then
    none
  else
    some (field, assignment.drop (field.length + 1))

def handleLine (config : IiotConfig) (line : List UInt8) : NvsProgram LineOutcome :=
  if line = literalText "HELP" then
    return ⟨config, .help, true, false⟩
  else if line = literalText "SHOW" then
    return ⟨config, .masked config, true, false⟩
  else if line = literalText "ABORT" then
    return ⟨config, .aborted, false, true⟩
  else if line = literalText "COMMIT" then
    let finalized := iiotConfigFinalize config
    if !gatewayIsProvisioned finalized || !iiotConfigValidate finalized then
      let code := if gatewayIsProvisioned finalized then iiotConfigError finalized else "NOT_PROVISIONED"
      return ⟨finalized, .rejected code, true, false⟩
    else do
      let saved ← gatewayConfigSave finalized
      if saved then
        return ⟨finalized, .saved, true, true⟩
      else
        return ⟨finalized, .rejected "NVS_WRITE_FAILED", true, false⟩
  else if line.take 4 = literalText "SET " then
    match splitAssignment (line.drop 4) with
    | none => return ⟨config, .rejected "INVALID_SET_SYNTAX", true, false⟩
    | some (field, value) =>
        let (applied, config) := applyField strtof config field value
        if applied then
          return ⟨config, .accepted field value, true, false⟩
        else
          return ⟨config, .rejected "INVALID_FIELD_OR_VALUE", true, false⟩
  else
    return ⟨config, .rejected "UNKNOWN_COMMAND", true, false⟩

/-! ### The window -/

/-- What the console and the relay see of the provisioning. -/
inductive ProvisionEvent where
  | relayForcedOff
  | banner
  | reply (reply : Reply)
  | lineTooLong
  | timeout (milliseconds : UInt32)
  deriving DecidableEq

/-- `LINE_MAX`. -/
def lineMax : Nat := 256

/-- One turn of the loop: what the UART delivers within its 100 ms, and what the flash answers to a
write and to a commit. -/
structure ProvisionTurn where
  received : Option UInt8
  setAnswer : EspErr
  commitAnswer : EspErr
  deriving DecidableEq

/-- The variables of `gateway_serial_provision` with what has been printed and the flash. -/
structure Provisioning where
  config : IiotConfig
  line : List UInt8
  complete : Bool
  saved : Bool
  events : List ProvisionEvent
  flash : ConfigFlash
  deriving DecidableEq

/-- A write that is reported as failed leaves the old blob. -/
def keepOld (old : StoredBlob) (_ : List UInt8) : StoredBlob := old

def Provisioning.turn (state : Provisioning) (turn : ProvisionTurn) : Provisioning :=
  match turn.received with
  | none => state
  | some character =>
      if character = 13 ∨ character = 10 then
        if state.line = [] then
          state
        else
          let (outcome, flash) := (handleLine strtof state.config state.line).run
            (configDevice turn.setAnswer turn.commitAnswer keepOld) state.flash
          let complete := state.complete || outcome.complete
          { config := outcome.config
            line := []
            complete
            saved := outcome.result && complete
            events := state.events ++ [.reply outcome.reply]
            flash }
      else if 32 ≤ character ∧ character < 127 ∧ state.line.length < lineMax - 1 then
        { state with line := state.line ++ [character] }
      else if lineMax - 1 ≤ state.line.length then
        { state with line := [], events := state.events ++ [.lineTooLong] }
      else
        state

/-- The loop, over the turns that begin before the deadline. -/
def Provisioning.loop : List ProvisionTurn → Provisioning → Provisioning
  | [], state => state
  | turn :: turns, state => if state.complete then state else loop turns (state.turn strtof turn)

/-- What `gateway_serial_provision` leaves. -/
structure ProvisionOutcome where
  result : Bool
  config : IiotConfig
  events : List ProvisionEvent
  flash : ConfigFlash
  deriving DecidableEq

def gatewaySerialProvision (driverInstalled : Bool) (installAnswer : EspErr) (timeoutMs : UInt32)
    (turns : List ProvisionTurn) (config : IiotConfig) (flash : ConfigFlash) : ProvisionOutcome :=
  if !driverInstalled ∧ installAnswer ≠ .ok then
    ⟨false, config, [.relayForcedOff], flash⟩
  else
    let final := Provisioning.loop strtof turns
      { config
        line := []
        complete := false
        saved := false
        events := [.relayForcedOff, .banner]
        flash }
    let timeout := if final.complete then [] else [ProvisionEvent.timeout timeoutMs]
    ⟨final.saved, final.config, final.events ++ timeout ++ [.relayForcedOff], final.flash⟩

end Console

end IiotMonitoring
