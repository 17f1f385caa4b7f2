import IiotMonitoring.Firmware.Topics
import IiotMonitoring.Lib.CFormat

/-!
# Starting the network

The strings that `gateway_network_start` of `gateway_platform.c` makes of the configuration, for the
Wi-Fi driver and for the MQTT client. The calls it makes are taken to succeed.
-/

namespace IiotMonitoring

/-- The fields of `wifi_sta_config_t` that are written, and the buffers of the MQTT client. -/
structure NetworkStrings where
  ssid : Vector UInt8 32
  password : Vector UInt8 64
  commandTopic : Vector UInt8 iiotTopicMax
  availabilityTopic : Vector UInt8 iiotTopicMax
  brokerUri : Vector UInt8 176
  availabilityLwt : Vector UInt8 256
  availabilityOnline : Vector UInt8 256
  deriving DecidableEq

/-- An array that starts as zeros. -/
def zeroArray (size : Nat) : Vector UInt8 size := Vector.replicate size 0

def commandsSuffix : CString := ⟨literalText "commands", by decide +kernel⟩

def availabilitySuffix : CString := ⟨literalText "availability", by decide +kernel⟩

def brokerUriText (config : IiotConfig) : List UInt8 :=
  literalText "mqtt://" ++ cText config.mqttHost ++ literalText ":" ++
    printUnsigned config.mqttPort.toNat

/-- The two availability payloads, by their status and reason. -/
def availabilityText (config : IiotConfig) (status reason : String) : List UInt8 :=
  literalText "\x7b\"schema_version\":1,\"site_id\":\"" ++ cText config.siteId ++
    literalText "\",\"device_id\":\"" ++ cText config.deviceId ++
    literalText "\",\"status\":\"" ++ literalText status ++ literalText "\",\"reason\":\"" ++
    literalText reason ++ literalText "\"\x7d"

def availabilityLwtText (config : IiotConfig) : List UInt8 :=
  availabilityText config "offline" "broker_lwt"

def availabilityOnlineText (config : IiotConfig) : List UInt8 :=
  availabilityText config "online" "boot"

/-- `gateway_network_start`, `none` where it returns `ESP_ERR_INVALID_ARG`. `availabilityTopic` is the
array on the stack before it is written. -/
def gatewayNetworkStart (availabilityTopic : Vector UInt8 iiotTopicMax) (config : IiotConfig) :
    Option NetworkStrings :=
  let siteId := cString config.siteId
  let deviceId := cString config.deviceId
  let ssid := printText (zeroArray 32) (cText config.wifiSsid)
  let password := printText (zeroArray 64) (cText config.wifiPassword)
  let (commandsMade, commandTopic) :=
    iiotMakeTopic (zeroArray iiotTopicMax) siteId deviceId commandsSuffix
  if !commandsMade then
    none
  else
    let (availabilityMade, availabilityTopic) :=
      iiotMakeTopic availabilityTopic siteId deviceId availabilitySuffix
    if !availabilityMade then
      none
    else
      some
        { ssid
          password
          commandTopic
          availabilityTopic
          brokerUri := printText (zeroArray 176) (brokerUriText config)
          availabilityLwt := printText (zeroArray 256) (availabilityLwtText config)
          availabilityOnline := printText (zeroArray 256) (availabilityOnlineText config) }

end IiotMonitoring
