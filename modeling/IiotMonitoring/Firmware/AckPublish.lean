import IiotMonitoring.Firmware.Network
import IiotMonitoring.Firmware.RelayTasks
import IiotMonitoring.Firmware.UtcTime
import IiotMonitoring.Lib.Uuid

/-!
# Publishing an acknowledgement

`publish_command_ack` with `json_time` of `app_main.c`, and `gateway_make_uuid` and
`gateway_mqtt_publish` of `gateway_platform.c`.
-/

namespace IiotMonitoring

/-- The string `gateway_make_uuid` leaves, from what `esp_fill_random` gives. -/
def gatewayMakeUuid (random : Vector UInt8 16) : List UInt8 :=
  (literalText (String.ofList (randomUuid random))).take 36

/-- `json_time`, with the clock at `time`. -/
def jsonTime (time : Int) : List UInt8 :=
  match gatewayUtcNow time 32 with
  | some now =>
      let formatted := (literalText "\"" ++ literalText now ++ literalText "\"").take 35
      formatted.take 31
  | none => literalText "null"

def commandAcksSuffix : CString := ⟨literalText "command-acks", by decide +kernel⟩

/-- The text that `snprintf` formats. -/
def commandAckText (config : IiotConfig) (messageId timeValue : List UInt8) (ack : CommandAck) :
    List UInt8 :=
  literalText "\x7b\"schema_version\":1,\"message_id\":\"" ++ messageId ++
    literalText "\",\"command_id\":\"" ++ literalText ack.commandId ++
    literalText "\",\"site_id\":\"" ++ cText config.siteId ++
    literalText "\",\"device_id\":\"" ++ cText config.deviceId ++
    literalText "\",\"device_time\":" ++ timeValue ++
    literalText ",\"status\":\"" ++ literalText ack.status ++
    literalText "\",\"result_code\":\"" ++ literalText ack.resultCode ++
    literalText "\",\"detail\":null,\"relay_on\":" ++
    literalText (if ack.relayOn then "true" else "false") ++ literalText "\x7d"

/-- The topic and the payload that `gateway_mqtt_publish` hands to the MQTT client, with the array
`topic` before it is written. -/
def gatewayMqttPublish (connected : Bool) (config : IiotConfig) (topic : Vector UInt8 iiotTopicMax)
    (suffix : CString) (payload : List UInt8) : Option (List UInt8 × List UInt8) :=
  if !connected then
    none
  else
    let (made, topic) := iiotMakeTopic topic (cString config.siteId) (cString config.deviceId) suffix
    if made then some (cText topic, payload) else none

/-- `publish_command_ack`, with the arrays `payload` and `topic` before they are written. -/
def publishCommandAck (connected : Bool) (config : IiotConfig) (payload : Vector UInt8 768)
    (topic : Vector UInt8 iiotTopicMax) (random : Vector UInt8 16) (time : Int) (ack : CommandAck) :
    Option (List UInt8 × List UInt8) :=
  let payload := printText payload (commandAckText config (gatewayMakeUuid random) (jsonTime time) ack)
  gatewayMqttPublish connected config topic commandAcksSuffix (cText payload)

end IiotMonitoring
