import IiotMonitoring.Firmware.Aggregation
import IiotMonitoring.Firmware.ModbusPoll
import IiotMonitoring.Firmware.OfflineQueue

/-!
# Health reports

A pass of `health_task` of `app_main.c`, with `append_fault_names`, and the readings of
`gateway_platform.c` that it reports.
-/

namespace IiotMonitoring

/-! ### Readings -/

/-- `esp_reset_reason_t`, with `other` for the values that have no case of their own. -/
inductive EspResetReason where
  | powerOn | software | panic | interruptWatchdog | taskWatchdog | watchdog | brownout | other
  deriving DecidableEq, Repr

def gatewayResetReason : EspResetReason → String
  | .powerOn => "power_on"
  | .software => "software"
  | .panic => "panic"
  | .interruptWatchdog => "interrupt_watchdog"
  | .taskWatchdog => "task_watchdog"
  | .watchdog => "watchdog"
  | .brownout => "brownout"
  | .other => "other"

/-- `gateway_wifi_rssi_dbm`, by what `esp_wifi_sta_get_ap_info` gives. -/
def gatewayWifiRssiDbm (accessPoint : Option Int8) : Int :=
  match accessPoint with
  | some rssi => rssi.toInt
  | none => -127

/-- `modbus_status`: as it starts, or what a poll left. -/
inductive ModbusStatus where
  | disabled
  | polled (status : PollStatus)
  deriving DecidableEq, Repr

def ModbusStatus.text : ModbusStatus → String
  | disabled => "disabled"
  | polled status => status.text

/-- What a pass reads. `modbusChecked` and `modbusStatus` are the two readings of the Modbus status, and
`queue` is the offline queue. -/
structure HealthReads where
  activeFaults : UInt32
  random : Vector UInt8 16
  queue : IiotOfflineQueue
  modbusChecked : ModbusStatus
  modbusStatus : ModbusStatus
  sequence : UInt64
  time : Int
  uptimeMs : UInt64
  accessPoint : Option Int8
  resetReason : EspResetReason
  resetCount : UInt32

/-! ### Fault names -/

/-- The end of `append_fault_names`. `cut` is what was printed of a name that does not fit. -/
def closeFaultNames (capacity : Nat) (output cut : List UInt8) : List UInt8 :=
  if output.length + 2 ≤ capacity then output ++ literalText "]" else output ++ cut

/-- The loop of `append_fault_names`, over its table. -/
def appendFaultName (capacity : Nat) (flags : UInt32) :
    List FaultName → Bool → List UInt8 → List UInt8
  | [], _, output => closeFaultNames capacity output []
  | value :: values, first, output =>
      if flags &&& value.flag = 0 then appendFaultName capacity flags values first output
      else
        let room := capacity - output.length
        let name := literalText (if first then "" else ",") ++ literalText "\"" ++
          literalText value.name ++ literalText "\""
        if room ≤ name.length then closeFaultNames capacity output (name.take (room - 1))
        else appendFaultName capacity flags values false (output ++ name)

def appendFaultNames (capacity : Nat) (flags : UInt32) : List UInt8 :=
  appendFaultName capacity flags faultNames true (literalText "[")

/-! ### The report -/

/-- The test of `degraded`. -/
def HealthReads.degraded (reads : HealthReads) : Bool :=
  reads.activeFaults ≠ 0 || 0 < reads.queue.count || reads.modbusChecked.text ≠ "ok"

/-- The text that `snprintf` formats. -/
def healthText (simulation : Bool) (config : IiotConfig) (reads : HealthReads) : List UInt8 :=
  literalText "\x7b\"schema_version\":1,\"message_id\":\"" ++ gatewayMakeUuid reads.random ++
    literalText "\",\"site_id\":\"" ++ cText config.siteId ++
    literalText "\",\"device_id\":\"" ++ cText config.deviceId ++
    literalText "\",\"sequence\":" ++ printUnsigned reads.sequence.toNat ++
    literalText ",\"device_time\":" ++ jsonTime reads.time ++
    literalText ",\"uptime_ms\":" ++ printUnsigned reads.uptimeMs.toNat ++
    literalText ",\"firmware_version\":\"" ++ literalText (firmwareVersion simulation) ++
    literalText "\",\"status\":\"" ++
    literalText (if reads.degraded then "degraded" else "online") ++
    literalText "\",\"rssi_dbm\":" ++ printSigned (gatewayWifiRssiDbm reads.accessPoint) ++
    literalText ",\"reset_reason\":\"" ++ literalText (gatewayResetReason reads.resetReason) ++
    literalText "\",\"reset_count\":" ++ printUnsigned reads.resetCount.toNat ++
    literalText ",\"queue_depth\":" ++ printUnsigned reads.queue.count ++
    literalText ",\"queue_capacity\":" ++ printUnsigned reads.queue.capacity ++
    literalText ",\"dropped_message_count\":" ++
    printUnsigned reads.queue.droppedMessageCount.toNat ++
    literalText ",\"modbus_status\":\"" ++ literalText reads.modbusStatus.text ++
    literalText "\",\"active_faults\":" ++ appendFaultNames 320 reads.activeFaults ++
    literalText "\x7d"

def healthSuffix : CString where
  bytes := literalText "health"
  terminated := toUTF8_ne_zero (by decide)

/-- What a pass publishes, with the arrays `payload` and `topic` before they are written. -/
def publishHealth (simulation connected : Bool) (config : IiotConfig) (payload : Vector UInt8 1280)
    (topic : Vector UInt8 iiotTopicMax) (reads : HealthReads) : Option (List UInt8 × List UInt8) :=
  let payload := printText payload (healthText simulation config reads)
  gatewayMqttPublish connected config topic healthSuffix (cText payload)

end IiotMonitoring
