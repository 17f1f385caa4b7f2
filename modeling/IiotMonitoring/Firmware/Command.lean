import Mathlib.Data.Rat.Floor

/-!
# Commands to the gateway

The checks `command_task` of `app_main.c` makes on a received command, in its order. A C string is the
text before its terminator. A JSON document is the tree cJSON builds of it; a number is the `double`
of `valuedouble`.
-/

namespace IiotMonitoring

/-! ### JSON values -/

/-- A `double`. -/
inductive CDouble where
  | finite (value : ℚ)
  | infinite (negative : Bool)
  | nan
  deriving DecidableEq

namespace CDouble

/-- The comparison `<`, false on NaN. -/
def lt : CDouble → CDouble → Bool
  | finite left, finite right => left < right
  | finite _, infinite negative => !negative
  | infinite negative, finite _ => negative
  | infinite left, infinite right => left && !right
  | nan, _ | _, nan => false

/-- The comparison `==`, false on NaN. -/
def eq : CDouble → CDouble → Bool
  | finite left, finite right => left = right
  | infinite left, infinite right => left = right
  | _, _ => false

/-- The cast `(int)`, for values in its range. -/
def toInt : CDouble → Int
  | finite value => value.num.tdiv value.den
  | _ => 0

def ofInt (value : Int) : CDouble := finite value

end CDouble

inductive CJson where
  | null
  | bool (value : Bool)
  | number (valuedouble : CDouble)
  | string (valuestring : String)
  | array (items : List CJson)
  | object (members : List (String × CJson))

namespace CJson

/-- `cJSON_GetObjectItemCaseSensitive`: the first member of that name. -/
def getObjectItem (object : Option CJson) (name : String) : Option CJson :=
  match object with
  | some (.object members) => members.lookup name
  | _ => none

def getArraySize : Option CJson → Nat
  | some (.array items) => items.length
  | some (.object members) => members.length
  | _ => 0

def isObject : Option CJson → Bool
  | some (.object _) => true
  | _ => false

def isNumber : Option CJson → Bool
  | some (.number _) => true
  | _ => false

def isString : Option CJson → Bool
  | some (.string _) => true
  | _ => false

def isBool : Option CJson → Bool
  | some (.bool _) => true
  | _ => false

def isTrue : Option CJson → Bool
  | some (.bool value) => value
  | _ => false

def valuedouble : Option CJson → CDouble
  | some (.number value) => value
  | _ => .finite 0

def valuestring : Option CJson → String
  | some (.string value) => value
  | _ => ""

end CJson

/-! ### Texts -/

/-- The character at an index, the terminator past the end. -/
def charAt (value : String) (index : Nat) : Char := value.toList.getD index '\x00'

def isXdigit (character : Char) : Bool :=
  character.isDigit || ('a' ≤ character && character ≤ 'f') || ('A' ≤ character && character ≤ 'F')

def uuidIsValid (value : String) : Bool :=
  value.toList.length = 36 &&
    (List.range 36).all fun index =>
      if index = 8 ∨ index = 13 ∨ index = 18 ∨ index = 23 then charAt value index = '-'
      else isXdigit (charAt value index)

def utcValueIsValid (value : String) : Bool :=
  let length := value.toList.length
  !(length < 20 || length > 30 || charAt value 4 ≠ '-' || charAt value 7 ≠ '-' ||
      charAt value 10 ≠ 'T' || charAt value 13 ≠ ':' || charAt value 16 ≠ ':' ||
      charAt value (length - 1) ≠ 'Z') &&
    ((List.range 19).all fun index =>
      index = 4 || index = 7 || index = 10 || index = 13 || index = 16 ||
        (charAt value index).isDigit) &&
    (length ≤ 20 ||
      !(length < 22) && charAt value 19 = '.' &&
        (List.range' 20 (length - 21)).all fun index => (charAt value index).isDigit)

/-- `strncmp`. -/
def strncmp : List Char → List Char → Nat → Ordering
  | _, _, 0 => .eq
  | [], [], _ + 1 => .eq
  | [], _ :: _, _ + 1 => .lt
  | _ :: _, [], _ + 1 => .gt
  | left :: lefts, right :: rights, count + 1 =>
      (compare left.toNat right.toNat).then (strncmp lefts rights count)

def utcExpired (now expiresAt : String) : Bool :=
  let secondsComparison := strncmp now.toList expiresAt.toList 19
  secondsComparison = .gt || (secondsComparison = .eq && charAt expiresAt 19 = 'Z')

/-! ### The checks of `command_task` -/

/-- The names in the stored configuration, and the topic made of them. -/
structure GatewayIdentity where
  siteId : String
  deviceId : String
  commandTopic : String

/-- How `command_task` turns a command down: with a log line, or with an acknowledgement. -/
inductive CommandRefusal where
  | logged (reason : String)
  | answered (commandId status resultCode : String)

/-- A command that passed every check before the one on `relay_locked`, with the time it was checked
at. -/
structure CheckedCommand where
  root : CJson
  commandId : String
  now : String

structure RelayChange where
  commandId : String
  relayOn : Bool
  timeoutS : Nat
  deriving DecidableEq, Repr

/-- The checks before the one on `relay_locked`. `clock` is what `gateway_utc_now` gives. -/
def checkCommand (identity : GatewayIdentity) (clock : Option String) (root : Option CJson) :
    Except CommandRefusal CheckedCommand :=
  match root with
  | none => .error (.logged "INVALID_JSON")
  | some object =>
    if ¬ CJson.isObject root then .error (.logged "INVALID_JSON")
    else
      let commandId := CJson.getObjectItem root "command_id"
      let schemaVersion := CJson.getObjectItem root "schema_version"
      let siteId := CJson.getObjectItem root "site_id"
      let deviceId := CJson.getObjectItem root "device_id"
      let expiresAt := CJson.getObjectItem root "expires_at"
      let kind := CJson.getObjectItem root "kind"
      let id := CJson.valuestring commandId
      if ¬ CJson.isNumber schemaVersion ∨ ¬ (CJson.valuedouble schemaVersion).eq (.ofInt 1) ∨
          ¬ CJson.isString commandId ∨ ¬ uuidIsValid id then
        .error (.logged "COMMAND_ID_INVALID")
      else if ¬ CJson.isString siteId ∨ ¬ CJson.isString deviceId ∨
          CJson.valuestring siteId ≠ identity.siteId ∨
          CJson.valuestring deviceId ≠ identity.deviceId then
        .error (.answered id "rejected" "IDENTITY_MISMATCH")
      else if ¬ CJson.isString expiresAt ∨ ¬ utcValueIsValid (CJson.valuestring expiresAt) then
        .error (.answered id "failed" "CLOCK_UNSYNCHRONIZED")
      else
        match clock with
        | none => .error (.answered id "failed" "CLOCK_UNSYNCHRONIZED")
        | some now =>
          if utcExpired now (CJson.valuestring expiresAt) then
            .error (.answered id "expired" "COMMAND_EXPIRED")
          else if ¬ CJson.isString kind ∨ CJson.valuestring kind ≠ "set_demo_relay" then
            .error (.answered id "rejected" "UNSUPPORTED_COMMAND")
          else
            .ok { root := object, commandId := id, now := now }

/-- The checks after the one on `relay_locked`. -/
def checkParameters (command : CheckedCommand) : Except CommandRefusal RelayChange :=
  let parameters := CJson.getObjectItem (some command.root) "parameters"
  let relay := CJson.getObjectItem parameters "relay_on"
  let timeout := CJson.getObjectItem parameters "timeout_s"
  if ¬ CJson.isObject parameters ∨ CJson.getArraySize parameters ≠ 2 ∨ ¬ CJson.isBool relay ∨
      ¬ CJson.isNumber timeout ∨ (CJson.valuedouble timeout).lt (.ofInt 1) ∨
      (CDouble.ofInt 30).lt (CJson.valuedouble timeout) ∨
      ¬ (CJson.valuedouble timeout).eq (.ofInt (CJson.valuedouble timeout).toInt) then
    .error (.answered command.commandId "rejected" "PARAMETERS_INVALID")
  else
    .ok {
      commandId := command.commandId
      relayOn := CJson.isTrue relay
      timeoutS := (CJson.valuedouble timeout).toInt.toNat }

end IiotMonitoring
