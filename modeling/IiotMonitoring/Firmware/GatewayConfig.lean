import IiotMonitoring.Lib.CText
import IiotMonitoring.Firmware.Nvs
import IiotMonitoring.Firmware.OfflineQueue
import IiotMonitoring.Firmware.Thresholds

/-!
# The gateway's configuration

`iiot_config_t` with its checks and migration from `iiot_core.c`, and `gateway_config_load` and
`gateway_config_save` of `gateway_platform.c` as programs over the NVS calls. The record keeps every
byte of its memory, the compiler's padding among them, since the checksum covers them all.
-/

namespace IiotMonitoring

/-- The number a C `float` stands for. -/
def CFloat.value (float : CFloat) : FloatNumber ℚ := FloatNumber.ofBinary32 float.bits

/-! ### Records -/

/-- `iiot_config_t`. -/
structure IiotConfig where
  magic : UInt32
  schemaVersion : UInt16
  structSize : UInt16
  generation : UInt32
  siteId : Vector UInt8 64
  deviceId : Vector UInt8 64
  wifiSsid : Vector UInt8 33
  wifiPassword : Vector UInt8 65
  mqttHost : Vector UInt8 128
  mqttPort : UInt16
  sampleIntervalMs : UInt16
  telemetryIntervalMs : UInt16
  offlineCapacity : UInt8
  reserved : UInt8
  padding : Vector UInt8 2
  temperature : IiotThresholds CFloat
  vibration : IiotThresholds CFloat
  current : IiotThresholds CFloat
  checksum : UInt32
  deriving DecidableEq

/-- `iiot_config_v0_t`. -/
structure IiotConfigV0 where
  siteId : Vector UInt8 64
  deviceId : Vector UInt8 64
  sampleIntervalMs : UInt16
  telemetryIntervalMs : UInt16
  temperatureWarningC : CFloat
  temperatureCriticalC : CFloat
  deriving DecidableEq

def thresholdsLayout : Layout (IiotThresholds CFloat) :=
  (floatLayout.pair (floatLayout.pair floatLayout)).via
    (fun value => (value.warning, value.critical, value.hysteresisPercent))
    (fun fields => ⟨fields.1, fields.2.1, fields.2.2⟩) fun _ => rfl

/-- The fields of `iiot_config_t` before its checksum. -/
def configHeaderLayout :
    Layout (UInt32 × UInt16 × UInt16 × UInt32 × Vector UInt8 64 × Vector UInt8 64 ×
      Vector UInt8 33 × Vector UInt8 65 × Vector UInt8 128 × UInt16 × UInt16 × UInt16 × UInt8 ×
      UInt8 × Vector UInt8 2 × IiotThresholds CFloat × IiotThresholds CFloat ×
      IiotThresholds CFloat) :=
  Layout.u32.pair (Layout.u16.pair (Layout.u16.pair (Layout.u32.pair ((Layout.bytes 64).pair
    ((Layout.bytes 64).pair ((Layout.bytes 33).pair ((Layout.bytes 65).pair
    ((Layout.bytes 128).pair (Layout.u16.pair (Layout.u16.pair (Layout.u16.pair (Layout.u8.pair
    (Layout.u8.pair ((Layout.bytes 2).pair (thresholdsLayout.pair (thresholdsLayout.pair
    thresholdsLayout))))))))))))))))

def IiotConfig.header (config : IiotConfig) :=
  (config.magic, config.schemaVersion, config.structSize, config.generation, config.siteId,
    config.deviceId, config.wifiSsid, config.wifiPassword, config.mqttHost, config.mqttPort,
    config.sampleIntervalMs, config.telemetryIntervalMs, config.offlineCapacity, config.reserved,
    config.padding, config.temperature, config.vibration, config.current)

def configLayout : Layout IiotConfig :=
  (configHeaderLayout.pair Layout.u32).via (fun config => (config.header, config.checksum))
    (fun ((magic, schemaVersion, structSize, generation, siteId, deviceId, wifiSsid, wifiPassword,
        mqttHost, mqttPort, sampleIntervalMs, telemetryIntervalMs, offlineCapacity, reserved,
        padding, temperature, vibration, current), checksum) =>
      { magic, schemaVersion, structSize, generation, siteId, deviceId, wifiSsid, wifiPassword,
        mqttHost, mqttPort, sampleIntervalMs, telemetryIntervalMs, offlineCapacity, reserved,
        padding, temperature, vibration, current, checksum })
    fun _ => rfl

/-- `sizeof(iiot_config_t)`. -/
theorem size_configLayout : configLayout.size = 416 := rfl

def configV0Layout : Layout IiotConfigV0 :=
  ((Layout.bytes 64).pair ((Layout.bytes 64).pair (Layout.u16.pair (Layout.u16.pair
    (floatLayout.pair floatLayout))))).via
    (fun config => (config.siteId, config.deviceId, config.sampleIntervalMs,
      config.telemetryIntervalMs, config.temperatureWarningC, config.temperatureCriticalC))
    (fun (siteId, deviceId, sampleIntervalMs, telemetryIntervalMs, temperatureWarningC,
        temperatureCriticalC) =>
      { siteId, deviceId, sampleIntervalMs, telemetryIntervalMs, temperatureWarningC,
        temperatureCriticalC })
    fun _ => rfl

/-- `sizeof(iiot_config_v0_t)`. -/
theorem size_configV0Layout : configV0Layout.size = 140 := rfl

/-! ### Checks -/

def iiotConfigMagic : UInt32 := 0x49494f54

def iiotConfigSchemaVersion : UInt16 := 1

/-- `IIOT_ID_MAX`. -/
def iiotIdMax : Nat := 63

/-- `identifier_is_valid`. -/
def identifierIsValid (value : Vector UInt8 64) : Bool :=
  let text := cText value
  text.length ≠ 0 ∧ text.length ≤ iiotIdMax ∧
    text.all (fun character => (97 ≤ character ∧ character ≤ 122) ∨
      (48 ≤ character ∧ character ≤ 57) ∨ character = 45) ∧
    text.head? ≠ some 45

/-- `thresholds_are_valid`. -/
def thresholdsAreValid (thresholds : IiotThresholds CFloat) (minimum maximum : ℚ) : Bool :=
  let warning := thresholds.warning.value
  let critical := thresholds.critical.value
  let hysteresis := thresholds.hysteresisPercent.value
  warning.toNumber?.isSome && critical.toNumber?.isSome && warning.atLeast minimum &&
    critical.atMost maximum && warning.less critical && hysteresis.atLeast 1 && hysteresis.atMost 25

def iiotConfigChecksum (config : IiotConfig) : UInt32 :=
  iiotCrc32 ((configLayout.encode config).take configHeaderLayout.size)

/-- The checksum covers the fields before it. -/
theorem iiotConfigChecksum_eq (config : IiotConfig) :
    iiotConfigChecksum config = iiotCrc32 (configHeaderLayout.encode config.header) :=
  congrArg iiotCrc32 (Layout.take_encode_pair _ _ _)

/-- The code `iiot_config_validate` writes to `error`, where the configuration is not NULL. -/
def iiotConfigError (config : IiotConfig) : String :=
  if config.magic ≠ iiotConfigMagic ∨ config.schemaVersion ≠ iiotConfigSchemaVersion ∨
      config.structSize ≠ UInt16.ofNat configLayout.size then
    "CONFIG_SCHEMA_INVALID"
  else if config.checksum ≠ iiotConfigChecksum config then
    "CONFIG_CHECKSUM_INVALID"
  else if !identifierIsValid config.siteId || !identifierIsValid config.deviceId then
    "CONFIG_ID_INVALID"
  else if (cText config.mqttHost).length = 0 ∨ (cText config.mqttHost).length ≥ 128 ∨
      config.mqttPort = 0 then
    "CONFIG_MQTT_INVALID"
  else if config.sampleIntervalMs < 10 ∨ config.sampleIntervalMs > 1000 ∨
      config.telemetryIntervalMs < config.sampleIntervalMs ∨ config.telemetryIntervalMs > 60000 ∨
      config.telemetryIntervalMs % config.sampleIntervalMs ≠ 0 then
    "CONFIG_TIMING_INVALID"
  else if config.offlineCapacity = 0 ∨ config.offlineCapacity.toNat > iiotOfflineCapacityMax then
    "CONFIG_QUEUE_INVALID"
  else if !thresholdsAreValid config.temperature (-80) 200 ||
      !thresholdsAreValid config.vibration 0 2000 || !thresholdsAreValid config.current 0 10 then
    "CONFIG_THRESHOLDS_INVALID"
  else
    "OK"

def iiotConfigValidate (config : IiotConfig) : Bool := iiotConfigError config = "OK"

def iiotConfigFinalize (config : IiotConfig) : IiotConfig :=
  let config := { config with
    magic := iiotConfigMagic
    schemaVersion := iiotConfigSchemaVersion
    structSize := UInt16.ofNat configLayout.size }
  { config with checksum := iiotConfigChecksum config }

/-- The text of a string literal. -/
def literalText (text : String) : List UInt8 := text.toUTF8.toList

def iiotConfigDefaults : IiotConfig :=
  iiotConfigFinalize
    { configLayout.zero with
      generation := 1
      siteId := printText configLayout.zero.siteId (literalText "workshop-demo")
      deviceId := printText configLayout.zero.deviceId (literalText "motor-01")
      mqttHost := printText configLayout.zero.mqttHost (literalText "192.168.4.2")
      mqttPort := 1883
      sampleIntervalMs := 100
      telemetryIntervalMs := 1000
      offlineCapacity := UInt8.ofNat iiotOfflineCapacityMax
      -- 60, 75 and 5
      temperature := ⟨⟨0x42700000⟩, ⟨0x42960000⟩, ⟨0x40a00000⟩⟩
      -- 4.5, 7 and 10
      vibration := ⟨⟨0x40900000⟩, ⟨0x40e00000⟩, ⟨0x41200000⟩⟩
      -- 1.2, 1.8 and 10
      current := ⟨⟨0x3f99999a⟩, ⟨0x3fe66666⟩, ⟨0x41200000⟩⟩ }

/-- The configuration `iiot_config_migrate_v0` leaves, if it returns true. Neither argument is
NULL. -/
def iiotConfigMigrateV0 (oldConfig : IiotConfigV0) : Option IiotConfig :=
  if !identifierIsValid oldConfig.siteId || !identifierIsValid oldConfig.deviceId then
    none
  else
    let config := iiotConfigFinalize
      { iiotConfigDefaults with
        siteId := printText iiotConfigDefaults.siteId (cText oldConfig.siteId)
        deviceId := printText iiotConfigDefaults.deviceId (cText oldConfig.deviceId)
        sampleIntervalMs := oldConfig.sampleIntervalMs
        telemetryIntervalMs := oldConfig.telemetryIntervalMs
        temperature := { iiotConfigDefaults.temperature with
          warning := oldConfig.temperatureWarningC
          critical := oldConfig.temperatureCriticalC }
        generation := 1 }
    if iiotConfigValidate config then some config else none

/-! ### Storage -/

/-- The blob `gateway_config_save` stores. -/
def savedConfig (config : IiotConfig) : IiotConfig :=
  iiotConfigFinalize { config with generation := config.generation + 1 }

def gatewayConfigSave (config : IiotConfig) : NvsProgram Bool := do
  let candidate := savedConfig config
  if iiotConfigValidate candidate then
    let stored ← nvsSetBlob "config" (configLayout.encode candidate)
    if stored = .ok then
      let committed ← nvsCommit
      return committed = .ok
    else
      return false
  else
    return false

/-- What `gateway_config_load` leaves: its result, the configuration and `used_fallback`. -/
structure LoadedConfig where
  result : Bool
  config : IiotConfig
  usedFallback : Bool
  deriving DecidableEq

def LoadedConfig.loaded (config : IiotConfig) : LoadedConfig := ⟨true, config, false⟩

def LoadedConfig.fallback : LoadedConfig := ⟨false, iiotConfigDefaults, true⟩

/-- The attempt to migrate a blob of version 0, for a stored blob of that length. -/
def migrateStored : NvsProgram (Option IiotConfig) := do
  let legacy ← nvsGetBlob "config" configV0Layout.size
  match legacy with
  | .error _ => return none
  | .ok image =>
      match iiotConfigMigrateV0 (configV0Layout.decode image) with
      | none => return none
      | some config =>
          let saved ← gatewayConfigSave config
          if saved then
            espLog .warning "code=CONFIG_MIGRATED from=0 to=1"
            return some config
          else
            return none

def gatewayConfigLoad : NvsProgram LoadedConfig := do
  let result ← nvsGetBlob "config" configLayout.size
  match result with
  | .error .nvsNotFound => return .loaded iiotConfigDefaults
  | .error _ => return .fallback
  | .ok image =>
      let migrated ← if image.length = configV0Layout.size then migrateStored else pure none
      match migrated with
      | some config => return .loaded config
      | none =>
          -- `length` still tells the version-0 blob from a version-1 blob
          if image.length ≠ configLayout.size ∨
              iiotConfigValidate (configLayout.decode image) = false then
            return .fallback
          else
            return .loaded (configLayout.decode image)

def gatewayIsProvisioned (config : IiotConfig) : Bool :=
  config.wifiSsid.get 0 ≠ 0 && config.mqttHost.get 0 ≠ 0

/-! ### The key in flash -/

/-- What the key `config` holds. -/
inductive StoredBlob where
  | absent
  | unreadable
  | blob (image : List UInt8)
  deriving DecidableEq

/-- The key, and a blob that was written to it and not committed yet. -/
structure ConfigFlash where
  stored : StoredBlob
  written : Option (List UInt8)
  deriving DecidableEq

def ConfigFlash.holding (stored : StoredBlob) : ConfigFlash := ⟨stored, none⟩

/-- A device that answers a write with `setAnswer` and a commit with `commitAnswer`. A write of a new
image that is reported as failed, by either, leaves the key holding what `failed` says of the old and
the new one. -/
def configDevice (setAnswer commitAnswer : EspErr) (failed : StoredBlob → List UInt8 → StoredBlob) :
    (op : NvsOp) → ConfigFlash → NvsAnswer op × ConfigFlash
  | .getBlob _ size, flash =>
      match flash.stored with
      | .absent => (.error .nvsNotFound, flash)
      | .unreadable => (.error .fail, flash)
      | .blob image =>
          (if image.length ≤ size then .ok image else .error .nvsInvalidLength, flash)
  | .setBlob _ value, flash =>
      (setAnswer,
        if setAnswer = .ok then { flash with written := some value }
        else .holding (failed flash.stored value))
  | .eraseKey _, flash => (.ok, flash)
  | .commit, flash =>
      match flash.written with
      | none => (commitAnswer, flash)
      | some value =>
          (commitAnswer, .holding (if commitAnswer = .ok then .blob value else failed flash.stored value))
  | .log _ _, flash => ((), flash)

end IiotMonitoring
