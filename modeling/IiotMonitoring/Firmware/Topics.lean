import IiotMonitoring.Firmware.GatewayConfig

/-!
# Topics

`iiot_make_topic` of `iiot_core.c`, with `identifier_is_valid` on any C string.
-/

namespace IiotMonitoring

/-- `IIOT_TOPIC_MAX`. -/
def iiotTopicMax : Nat := 192

/-- `identifier_is_valid`. `strnlen` stops one byte after the longest identifier. -/
def CString.identifierIsValid (value : CString) : Bool :=
  let length := min value.bytes.length (iiotIdMax + 1)
  let text := value.bytes.take length
  length ≠ 0 ∧ length ≤ iiotIdMax ∧
    text.all (fun character => (97 ≤ character ∧ character ≤ 122) ∨
      (48 ≤ character ∧ character ≤ 57) ∨ character = 45) ∧
    text.head? ≠ some 45

/-- The suffixes that `iiot_make_topic` knows. -/
def knownSuffixes : List String :=
  ["telemetry", "health", "events", "commands", "command-acks", "availability"]

/-- The text that `snprintf` formats. -/
def topicText (siteId deviceId suffix : CString) : List UInt8 :=
  literalText "iiot/v1/" ++ siteId.bytes ++ literalText "/" ++ deviceId.bytes ++ literalText "/" ++
    suffix.bytes

/-- `iiot_make_topic`, with the buffer it leaves. -/
def iiotMakeTopic {size : Nat} (output : Vector UInt8 size) (siteId deviceId suffix : CString) :
    Bool × Vector UInt8 size :=
  if !siteId.identifierIsValid || !deviceId.identifierIsValid then
    (false, output)
  else if !knownSuffixes.any fun known => suffix.bytes = literalText known then
    (false, output)
  else
    let written := topicText siteId deviceId suffix
    (written.length < size, printText output written)

end IiotMonitoring
