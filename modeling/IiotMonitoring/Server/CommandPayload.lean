import IiotMonitoring.Lib.Calendar
import IiotMonitoring.Lib.Uuid
import IiotMonitoring.Server.Topics

/-!
# The published command

What `issue_relay_command` of `command_service.py` publishes of the command it stored, with
`datetime.isoformat` and `str.replace`. Times are in microseconds since 1970.
-/

namespace IiotMonitoring

/-! ### Texts of the standard library -/

/-- `str(uuid4())`, from its random bytes. -/
def uuid4 (random : Vector UInt8 16) : String := String.ofList (randomUuid random)

/-- The rest of a replacement that has `skip` characters of an occurrence left. -/
def replaceFrom (old new : List Char) : Nat → List Char → List Char
  | _, [] => []
  | skip + 1, _ :: rest => replaceFrom old new skip rest
  | 0, first :: rest =>
      if old.isPrefixOf (first :: rest) then new ++ replaceFrom old new (old.length - 1) rest
      else first :: replaceFrom old new 0 rest

/-- `text.replace(old, new)`, for an `old` that is not empty. -/
def replaceText (old new text : List Char) : List Char := replaceFrom old new 0 text

/-- `datetime.min`. -/
def datetimeMin : Int := -62135596800000000

/-- `datetime.max`. -/
def datetimeMax : Int := 253402300799999999

/-- `isoformat` of a time in UTC. -/
def utcIsoformat (value : Int) : List Char :=
  let date := dateFrom 0 (value / 86400000000 + 719528).toNat
  let microsecond := (value % 86400000000).toNat
  let second := microsecond / 1000000
  fixedDigits 4 date.year ++
    (timeText (date.month + 1) (date.day + 1) (second / 3600) (second % 3600 / 60) (second % 60) ++
      ((if microsecond % 1000000 = 0 then [] else '.' :: fixedDigits 6 (microsecond % 1000000)) ++
        "+00:00".toList))

/-- `value.isoformat().replace("+00:00", "Z")`. -/
def zuluText (value : Int) : String :=
  String.ofList (replaceText "+00:00".toList ['Z'] (utcIsoformat value))

/-! ### The message -/

structure MqttMessage where
  topic : Text
  payload : List UInt8

/-- The payload, before `json.dumps`. -/
def CommandIssue.payload (issue : CommandIssue) (siteId : String) : Json :=
  .object
    [(codes "schema_version", .number (.ofNat 1)),
      (codes "command_id", .string (codes issue.commandId)),
      (codes "site_id", .string (codes siteId)),
      (codes "device_id", .string (codes issue.deviceId)),
      (codes "issued_at", .string (codes (zuluText issue.now))),
      (codes "expires_at", .string (codes (zuluText issue.command.expiresAt))),
      (codes "issued_by", .string (codes issue.actor)),
      (codes "kind", .string (codes "set_demo_relay")),
      (codes "parameters", .object
        [(codes "relay_on", .bool issue.request.relayOn),
          (codes "timeout_s", .number (.ofNat issue.request.timeoutS))])]

/-- What `issue_relay_command` publishes for a device of a site. `now + timedelta` overflows after
`datetime.max`, and `topic` raises `ValueError` for other names. `json.dumps` writes ASCII. -/
def CommandIssue.message (issue : CommandIssue) (siteId : String) : Option MqttMessage :=
  if datetimeMax < issue.command.expiresAt then
    none
  else
    match TopicKind.commands.topic (codes siteId) (codes issue.deviceId) with
    | .error _ => none
    | .ok topic => some ⟨topic, plainBytes (issue.payload siteId).print⟩

end IiotMonitoring
