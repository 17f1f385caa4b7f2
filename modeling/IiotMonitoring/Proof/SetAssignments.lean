import IiotMonitoring.Proof.ConfigLoad
import IiotMonitoring.Proof.SetValues

/-!
# The assignments of `SET` lines

A `SET` line that is accepted is one assignment to the settings, with the number or the text that its
value stands for, and the last assignment to a setting is the one it keeps.
-/

namespace IiotMonitoring

/-! ### Settings -/

/-- What a configuration sets. -/
inductive Setting where
  | siteId | deviceId | wifiSsid | wifiPassword | mqttHost
  | mqttPort | sampleIntervalMs | telemetryIntervalMs | offlineCapacity
  | temperatureWarning | temperatureCritical | temperatureHysteresis
  | vibrationWarning | vibrationCritical | vibrationHysteresis
  | currentWarning | currentCritical | currentHysteresis
  deriving DecidableEq

inductive SettingValue where
  | text (text : List UInt8)
  | number (number : Nat)
  | float (float : CFloat)
  deriving DecidableEq

def IiotConfig.setting (config : IiotConfig) : Setting → SettingValue
  | .siteId => .text (cText config.siteId)
  | .deviceId => .text (cText config.deviceId)
  | .wifiSsid => .text (cText config.wifiSsid)
  | .wifiPassword => .text (cText config.wifiPassword)
  | .mqttHost => .text (cText config.mqttHost)
  | .mqttPort => .number config.mqttPort.toNat
  | .sampleIntervalMs => .number config.sampleIntervalMs.toNat
  | .telemetryIntervalMs => .number config.telemetryIntervalMs.toNat
  | .offlineCapacity => .number config.offlineCapacity.toNat
  | .temperatureWarning => .float config.temperature.warning
  | .temperatureCritical => .float config.temperature.critical
  | .temperatureHysteresis => .float config.temperature.hysteresisPercent
  | .vibrationWarning => .float config.vibration.warning
  | .vibrationCritical => .float config.vibration.critical
  | .vibrationHysteresis => .float config.vibration.hysteresisPercent
  | .currentWarning => .float config.current.warning
  | .currentCritical => .float config.current.critical
  | .currentHysteresis => .float config.current.hysteresisPercent

/-! ### Assignments -/

/-- What an accepted `SET` line asks for. -/
inductive Assignment where
  | siteId (text : List UInt8)
  | deviceId (text : List UInt8)
  | wifiSsid (text : List UInt8)
  | wifiPassword (text : List UInt8)
  | mqttHost (text : List UInt8)
  | mqttPort (value : UInt16)
  | sampleIntervalMs (value : UInt16)
  | telemetryIntervalMs (value : UInt16)
  | offlineCapacity (value : UInt8)
  | temperatureWarning (value : CFloat)
  | temperatureCritical (value : CFloat)
  | vibrationWarning (value : CFloat)
  | vibrationCritical (value : CFloat)
  | currentWarning (value : CFloat)
  | currentCritical (value : CFloat)
  | hysteresisPercent (value : CFloat)
  deriving DecidableEq

namespace Assignment

def value : Assignment → SettingValue
  | siteId text | deviceId text | wifiSsid text | wifiPassword text | mqttHost text => .text text
  | mqttPort value | sampleIntervalMs value | telemetryIntervalMs value => .number value.toNat
  | offlineCapacity value => .number value.toNat
  | temperatureWarning value | temperatureCritical value | vibrationWarning value
  | vibrationCritical value | currentWarning value | currentCritical value
  | hysteresisPercent value => .float value

/-- The settings an assignment gives its value: one, or the hysteresis of all three metrics. -/
def covers : Assignment → List Setting
  | siteId _ => [.siteId]
  | deviceId _ => [.deviceId]
  | wifiSsid _ => [.wifiSsid]
  | wifiPassword _ => [.wifiPassword]
  | mqttHost _ => [.mqttHost]
  | mqttPort _ => [.mqttPort]
  | sampleIntervalMs _ => [.sampleIntervalMs]
  | telemetryIntervalMs _ => [.telemetryIntervalMs]
  | offlineCapacity _ => [.offlineCapacity]
  | temperatureWarning _ => [.temperatureWarning]
  | temperatureCritical _ => [.temperatureCritical]
  | vibrationWarning _ => [.vibrationWarning]
  | vibrationCritical _ => [.vibrationCritical]
  | currentWarning _ => [.currentWarning]
  | currentCritical _ => [.currentCritical]
  | hysteresisPercent _ => [.temperatureHysteresis, .vibrationHysteresis, .currentHysteresis]

/-- What an assignment gives a setting, if it covers it. -/
def gives (setting : Setting) (assignment : Assignment) : Option SettingValue :=
  if setting ∈ assignment.covers then some assignment.value else none

/-- The field a `SET` line names. -/
def field : Assignment → String
  | siteId _ => "site_id"
  | deviceId _ => "device_id"
  | wifiSsid _ => "wifi_ssid"
  | wifiPassword _ => "wifi_password"
  | mqttHost _ => "mqtt_host"
  | mqttPort _ => "mqtt_port"
  | sampleIntervalMs _ => "sample_interval_ms"
  | telemetryIntervalMs _ => "telemetry_interval_ms"
  | offlineCapacity _ => "offline_capacity"
  | temperatureWarning _ => "temperature_warning_c"
  | temperatureCritical _ => "temperature_critical_c"
  | vibrationWarning _ => "vibration_warning_mps2"
  | vibrationCritical _ => "vibration_critical_mps2"
  | currentWarning _ => "current_warning_a"
  | currentCritical _ => "current_critical_a"
  | hysteresisPercent _ => "hysteresis_percent"

/-- The value of a `SET` line is the assignment's, in the range of the field. The limits of the floats are
those that `0.1F` and `9.9F` stand for. -/
def TakenFrom (strtof : List UInt8 → ParsedNumber CFloat) (value : List UInt8) : Assignment → Prop
  | siteId text | deviceId text => text = value ∧ 0 < text.length ∧ text.length < 64
  | wifiSsid text => text = value ∧ 0 < text.length ∧ text.length < 33
  | wifiPassword text => text = value ∧ text.length < 65
  | mqttHost text => text = value ∧ 0 < text.length ∧ text.length < 128
  | mqttPort port => UnsignedText value port.toNat ∧ 1 ≤ port.toNat ∧ port.toNat ≤ 65535
  | sampleIntervalMs interval =>
      UnsignedText value interval.toNat ∧ 10 ≤ interval.toNat ∧ interval.toNat ≤ 1000
  | telemetryIntervalMs interval =>
      UnsignedText value interval.toNat ∧ 100 ≤ interval.toNat ∧ interval.toNat ≤ 60000
  | offlineCapacity capacity =>
      UnsignedText value capacity.toNat ∧ 1 ≤ capacity.toNat ∧ capacity.toNat ≤ iiotOfflineCapacityMax
  | temperatureWarning number => FloatText strtof value number ∧ FloatUpTo (-80) 199 number
  | temperatureCritical number => FloatText strtof value number ∧ FloatUpTo (-79) 200 number
  | vibrationWarning number => FloatText strtof value number ∧ FloatUpTo 0 1999 number
  | vibrationCritical number =>
      FloatText strtof value number ∧ FloatUpTo (13421773 / 134217728) 2000 number
  | currentWarning number => FloatText strtof value number ∧ FloatUpTo 0 (5190451 / 524288) number
  | currentCritical number =>
      FloatText strtof value number ∧ FloatUpTo (13421773 / 134217728) 10 number
  | hysteresisPercent number => FloatText strtof value number ∧ FloatUpTo 1 25 number

/-- The configuration after an assignment. -/
def store (config : IiotConfig) : Assignment → IiotConfig
  | siteId text => { config with siteId := storeText config.siteId text }
  | deviceId text => { config with deviceId := storeText config.deviceId text }
  | wifiSsid text => { config with wifiSsid := storeText config.wifiSsid text }
  | wifiPassword text => { config with wifiPassword := printText config.wifiPassword text }
  | mqttHost text => { config with mqttHost := storeText config.mqttHost text }
  | mqttPort value => { config with mqttPort := value }
  | sampleIntervalMs value => { config with sampleIntervalMs := value }
  | telemetryIntervalMs value => { config with telemetryIntervalMs := value }
  | offlineCapacity value => { config with offlineCapacity := value }
  | temperatureWarning value =>
      { config with temperature := { config.temperature with warning := value } }
  | temperatureCritical value =>
      { config with temperature := { config.temperature with critical := value } }
  | vibrationWarning value =>
      { config with vibration := { config.vibration with warning := value } }
  | vibrationCritical value =>
      { config with vibration := { config.vibration with critical := value } }
  | currentWarning value => { config with current := { config.current with warning := value } }
  | currentCritical value => { config with current := { config.current with critical := value } }
  | hysteresisPercent value =>
      { config with
        temperature := { config.temperature with hysteresisPercent := value }
        vibration := { config.vibration with hysteresisPercent := value }
        current := { config.current with hysteresisPercent := value } }

/-- A text is a C string that the array it goes to holds. -/
def Fits : Assignment → Prop
  | siteId text | deviceId text => text.length < 64 ∧ ∀ byte ∈ text, byte ≠ 0
  | wifiSsid text => text.length < 33 ∧ ∀ byte ∈ text, byte ≠ 0
  | wifiPassword text => text.length < 65 ∧ ∀ byte ∈ text, byte ≠ 0
  | mqttHost text => text.length < 128 ∧ ∀ byte ∈ text, byte ≠ 0
  | _ => True

theorem setting_store (config : IiotConfig) {assignment : Assignment} (hfits : assignment.Fits)
    (setting : Setting) :
    (assignment.store config).setting setting =
      (assignment.gives setting).getD (config.setting setting) := by
  cases assignment with
  | siteId text | deviceId text | wifiSsid text | mqttHost text =>
      have htext := fun array => @cText_storeText _ array text hfits.1 hfits.2
      cases setting <;> simp [gives, covers, value, store, IiotConfig.setting, htext]
  | wifiPassword text =>
      have htext := fun array => @cText_printText _ array text hfits.1 hfits.2
      cases setting <;> simp [gives, covers, value, store, IiotConfig.setting, htext]
  | _ => cases setting <;> rfl

/-- **The last assignment wins.** After assignments in a row, a setting has the value of the last one
that covers it, or the one it had. -/
theorem setting_foldl_store (config : IiotConfig) {assignments : List Assignment}
    (hfits : ∀ assignment ∈ assignments, assignment.Fits) (setting : Setting) :
    (assignments.foldl store config).setting setting =
      (assignments.filterMap (gives setting)).getLast?.getD (config.setting setting) := by
  induction assignments using List.reverseRecOn with
  | nil => rfl
  | append_singleton assignments last ih =>
      have hlast : last.Fits := hfits last (by simp)
      rw [List.foldl_append, List.foldl_cons, List.foldl_nil, setting_store _ hlast,
        ih fun assignment hmem => hfits assignment (by simp [hmem]), List.filterMap_append]
      cases hgives : last.gives setting with
      | none => simp [hgives]
      | some value => simp [hgives]

end Assignment

/-! ### Reading a line -/

section Lines

variable (strtof : List UInt8 → ParsedNumber CFloat)

/-- The rows of `floatFields`, each with the assignment it makes. -/
def floatRows : List (FloatField × (CFloat → Assignment)) :=
  floatFields.zip [.temperatureWarning, .temperatureCritical, .vibrationWarning, .vibrationCritical,
    .currentWarning, .currentCritical, .hysteresisPercent]

def readText (size : Nat) (make : List UInt8 → Assignment) (value : List UInt8) : Option Assignment :=
  if value.length = 0 ∨ value.length ≥ size then none else some (make value)

def readUnsigned (field value : List UInt8) (name : String) (minimum maximum : Nat)
    (make : Nat → Assignment) : Option Assignment :=
  if field = literalText name then (parseUnsigned value minimum maximum).map make else none

def readFloat (field value : List UInt8) :
    List (FloatField × (CFloat → Assignment)) → Option Assignment
  | [] => none
  | (row, make) :: rows =>
      ((if field = literalText row.name then
          (parseFloat strtof value row.minimum row.maximum).map make
        else
          none) : Option Assignment).or (readFloat field value rows)

/-- The assignment a field and a value stand for, if they are accepted. -/
def readAssignment (field value : List UInt8) : Option Assignment :=
  if field = literalText "site_id" then
    readText 64 .siteId value
  else if field = literalText "device_id" then
    readText 64 .deviceId value
  else if field = literalText "wifi_ssid" then
    readText 33 .wifiSsid value
  else if field = literalText "wifi_password" then
    if value.length ≥ 65 then none else some (.wifiPassword value)
  else if field = literalText "mqtt_host" then
    readText 128 .mqttHost value
  else
    (readUnsigned field value "mqtt_port" 1 65535 fun integer =>
      .mqttPort (UInt16.ofNat integer)).or <|
    (readUnsigned field value "sample_interval_ms" 10 1000 fun integer =>
      .sampleIntervalMs (UInt16.ofNat integer)).or <|
    (readUnsigned field value "telemetry_interval_ms" 100 60000 fun integer =>
      .telemetryIntervalMs (UInt16.ofNat integer)).or <|
    (readUnsigned field value "offline_capacity" 1 iiotOfflineCapacityMax fun integer =>
      .offlineCapacity (UInt8.ofNat integer)).or <|
    readFloat strtof field value floatRows

/-- What is returned and left for an assignment that was read, or none. -/
def applied (config : IiotConfig) : Option Assignment → Bool × IiotConfig
  | none => (false, config)
  | some assignment => (true, assignment.store config)

theorem copyValue_eq {size : Nat} (destination : Vector UInt8 size) (value : List UInt8)
    {make : List UInt8 → Assignment} {config : IiotConfig} (store : Vector UInt8 size → IiotConfig)
    (hkeep : store destination = config)
    (hstore : (make value).store config = store (storeText destination value)) :
    ((copyValue destination value).1, store (copyValue destination value).2) =
      applied config (readText size make value) := by
  rw [copyValue, readText]
  by_cases hrefused : value.length = 0 ∨ value.length ≥ size
  · rw [if_pos hrefused, if_pos hrefused, hkeep]
    rfl
  · rw [if_neg hrefused, if_neg hrefused, applied, hstore]

theorem applyUnsignedField_eq {field value : List UInt8} {name : String} {minimum maximum : Nat}
    {config : IiotConfig} {make : Nat → Assignment} {store : Nat → IiotConfig}
    {otherwise : Bool × IiotConfig} {rest : Option Assignment}
    (hstore : ∀ integer, (make integer).store config = store integer)
    (hrest : otherwise = applied config rest) :
    applyUnsignedField field value name minimum maximum store otherwise =
      applied config ((readUnsigned field value name minimum maximum make).or rest) := by
  rw [applyUnsignedField, readUnsigned, hrest]
  by_cases hname : field = literalText name
  · rw [if_pos hname, if_pos hname]
    cases parseUnsigned value minimum maximum with
    | none => rfl
    | some integer => exact congrArg (Prod.mk true) (hstore integer).symm
  · rw [if_neg hname, if_neg hname]
    rfl

theorem applyFloatField_eq (field value : List UInt8) (config : IiotConfig) :
    ∀ rows : List (FloatField × (CFloat → Assignment)),
      (∀ row ∈ rows, ∀ number, (row.2 number).store config = row.1.store config number) →
      applyFloatField strtof config field value (rows.map Prod.fst) =
        applied config (readFloat strtof field value rows) := by
  intro rows hrows
  induction rows with
  | nil => rfl
  | cons row rows ih =>
      have hrest := ih fun other hmem => hrows other (List.mem_cons_of_mem _ hmem)
      rw [List.map_cons, applyFloatField, readFloat]
      by_cases hname : field = literalText row.1.name
      · rw [if_pos hname, if_pos hname]
        cases parseFloat strtof value row.1.minimum row.1.maximum with
        | none => exact hrest
        | some number => exact congrArg (Prod.mk true) (hrows row List.mem_cons_self number).symm
      · rw [if_neg hname, if_neg hname]
        exact hrest

theorem floatRows_store {row : FloatField × (CFloat → Assignment)} (hmem : row ∈ floatRows)
    (config : IiotConfig) (number : CFloat) :
    (row.2 number).store config = row.1.store config number := by
  simp only [floatRows, floatFields, List.zip_cons_cons, List.zip_nil_right, List.mem_cons,
    List.not_mem_nil, or_false] at hmem
  rcases hmem with rfl | rfl | rfl | rfl | rfl | rfl | rfl
  all_goals rfl

/-- `apply_field` makes the assignment that is read, or leaves every field alone. -/
theorem applyField_eq (config : IiotConfig) (field value : List UInt8) :
    applyField strtof config field value = applied config (readAssignment strtof field value) := by
  unfold applyField readAssignment
  by_cases hsite : field = literalText "site_id"
  · rw [if_pos hsite, if_pos hsite]
    exact copyValue_eq config.siteId value (fun siteId => { config with siteId }) rfl rfl
  by_cases hdevice : field = literalText "device_id"
  · rw [if_neg hsite, if_neg hsite, if_pos hdevice, if_pos hdevice]
    exact copyValue_eq config.deviceId value (fun deviceId => { config with deviceId }) rfl rfl
  by_cases hssid : field = literalText "wifi_ssid"
  · rw [if_neg hsite, if_neg hsite, if_neg hdevice, if_neg hdevice, if_pos hssid, if_pos hssid]
    exact copyValue_eq config.wifiSsid value (fun wifiSsid => { config with wifiSsid }) rfl rfl
  rw [if_neg hsite, if_neg hsite, if_neg hdevice, if_neg hdevice, if_neg hssid, if_neg hssid]
  by_cases hpassword : field = literalText "wifi_password"
  · rw [if_pos hpassword, if_pos hpassword]
    by_cases hlong : value.length ≥ 65
    · rw [if_pos hlong, if_pos hlong]
      rfl
    · rw [if_neg hlong, if_neg hlong]
      rfl
  rw [if_neg hpassword, if_neg hpassword]
  by_cases hhost : field = literalText "mqtt_host"
  · rw [if_pos hhost, if_pos hhost]
    exact copyValue_eq config.mqttHost value (fun mqttHost => { config with mqttHost }) rfl rfl
  rw [if_neg hhost, if_neg hhost]
  have hfloats : applyFloatField strtof config field value floatFields =
      applied config (readFloat strtof field value floatRows) :=
    applyFloatField_eq strtof field value config floatRows fun _ hmem => floatRows_store hmem config
  exact applyUnsignedField_eq (fun _ => rfl) (applyUnsignedField_eq (fun _ => rfl)
    (applyUnsignedField_eq (fun _ => rfl) (applyUnsignedField_eq (fun _ => rfl) hfloats)))

/-- What a `SET` line of a field and a value asks for. -/
def Assigns (field value : List UInt8) (assignment : Assignment) : Prop :=
  field = literalText assignment.field ∧ assignment.TakenFrom strtof value

theorem readText_iff {size : Nat} {make : List UInt8 → Assignment} {value : List UInt8}
    {assignment : Assignment} :
    readText size make value = some assignment ↔
      assignment = make value ∧ 0 < value.length ∧ value.length < size := by
  rw [readText, Option.ite_none_left_eq_some, Option.some_inj]
  constructor
  · rintro ⟨hlength, rfl⟩
    exact ⟨rfl, by omega⟩
  · rintro ⟨rfl, hlength⟩
    exact ⟨by omega, rfl⟩

theorem readUnsigned_iff {field value : List UInt8} {name : String} {minimum maximum : Nat}
    {make : Nat → Assignment} {assignment : Assignment} :
    readUnsigned field value name minimum maximum make = some assignment ↔
      field = literalText name ∧ ∃ integer, (UnsignedText value integer ∧ minimum ≤ integer ∧
        integer ≤ maximum) ∧ assignment = make integer := by
  simp only [readUnsigned, Option.ite_none_right_eq_some, Option.map_eq_some_iff, parseUnsigned_iff,
    eq_comm]

theorem readUnsigned_other {field value : List UInt8} {name : String} {minimum maximum : Nat}
    {make : Nat → Assignment} (h : field ≠ literalText name) :
    readUnsigned field value name minimum maximum make = none := if_neg h

/-- The row of a float that is accepted. -/
theorem readFloat_eq_some {field value : List UInt8} {assignment : Assignment}
    {rows : List (FloatField × (CFloat → Assignment))}
    (h : readFloat strtof field value rows = some assignment) :
    ∃ row ∈ rows, field = literalText row.1.name ∧
      ∃ number, parseFloat strtof value row.1.minimum row.1.maximum = some number ∧
        assignment = row.2 number := by
  induction rows with
  | nil => cases h
  | cons row rows ih =>
      rw [readFloat, Option.or_eq_some_iff, Option.ite_none_right_eq_some,
        Option.map_eq_some_iff] at h
      rcases h with ⟨hname, number, hparsed, rfl⟩ | ⟨-, hrest⟩
      · exact ⟨row, List.mem_cons_self, hname, number, hparsed, rfl⟩
      · obtain ⟨other, hmem, hother⟩ := ih hrest
        exact ⟨other, List.mem_cons_of_mem _ hmem, hother⟩

/-- No two rows have one name. -/
theorem readFloat_of_mem {value : List UInt8} {rows : List (FloatField × (CFloat → Assignment))}
    (hnames : (rows.map fun row => literalText row.1.name).Nodup)
    {row : FloatField × (CFloat → Assignment)} (hmem : row ∈ rows) {number : CFloat}
    (hparsed : parseFloat strtof value row.1.minimum row.1.maximum = some number) :
    readFloat strtof (literalText row.1.name) value rows = some (row.2 number) := by
  induction rows with
  | nil => cases hmem
  | cons first rows ih =>
      rw [List.map_cons, List.nodup_cons] at hnames
      rw [readFloat]
      rcases List.mem_cons.mp hmem with rfl | hrest
      · rw [if_pos rfl, hparsed]
        rfl
      · have hother : literalText row.1.name ≠ literalText first.1.name := fun hsame =>
          hnames.1 (hsame ▸ List.mem_map_of_mem hrest)
        rw [if_neg hother, ih hnames.2 hrest]
        rfl

theorem floatRows_names : (floatRows.map fun row => literalText row.1.name).Nodup := by decide +kernel

/-- A row takes the floats of its field. -/
theorem floatRows_takenFrom {row : FloatField × (CFloat → Assignment)} (hmem : row ∈ floatRows)
    {value : List UInt8} {number : CFloat} :
    (row.2 number).field = row.1.name ∧
      ((row.2 number).TakenFrom strtof value ↔
        parseFloat strtof value row.1.minimum row.1.maximum = some number) := by
  simp only [floatRows, floatFields, List.zip_cons_cons, List.zip_nil_right, List.mem_cons,
    List.not_mem_nil, or_false] at hmem
  rcases hmem with rfl | rfl | rfl | rfl | rfl | rfl | rfl
  · exact ⟨rfl, (parseFloat_iff (by decide +kernel) (by decide +kernel)).symm⟩
  · exact ⟨rfl, (parseFloat_iff (by decide +kernel) (by decide +kernel)).symm⟩
  · exact ⟨rfl, (parseFloat_iff (by decide +kernel) (by decide +kernel)).symm⟩
  · exact ⟨rfl, (parseFloat_iff (by decide +kernel) (by decide +kernel)).symm⟩
  · exact ⟨rfl, (parseFloat_iff (by decide +kernel) (by decide +kernel)).symm⟩
  · exact ⟨rfl, (parseFloat_iff (by decide +kernel) (by decide +kernel)).symm⟩
  · exact ⟨rfl, (parseFloat_iff (by decide +kernel) (by decide +kernel)).symm⟩

/-- A field that is none of the texts. -/
theorem readAssignment_number {field value : List UInt8}
    (h : ∀ name ∈ ["site_id", "device_id", "wifi_ssid", "wifi_password", "mqtt_host"],
      field ≠ literalText name) :
    readAssignment strtof field value =
      ((readUnsigned field value "mqtt_port" 1 65535 fun integer =>
        .mqttPort (UInt16.ofNat integer)).or <|
      (readUnsigned field value "sample_interval_ms" 10 1000 fun integer =>
        .sampleIntervalMs (UInt16.ofNat integer)).or <|
      (readUnsigned field value "telemetry_interval_ms" 100 60000 fun integer =>
        .telemetryIntervalMs (UInt16.ofNat integer)).or <|
      (readUnsigned field value "offline_capacity" 1 iiotOfflineCapacityMax fun integer =>
        .offlineCapacity (UInt8.ofNat integer)).or <|
      readFloat strtof field value floatRows) := by
  unfold readAssignment
  rw [if_neg (h _ (by decide)), if_neg (h _ (by decide)), if_neg (h _ (by decide)),
    if_neg (h _ (by decide)), if_neg (h _ (by decide))]

theorem assigns_of_readAssignment {field value : List UInt8} {assignment : Assignment}
    (h : readAssignment strtof field value = some assignment) :
    Assigns strtof field value assignment := by
  unfold readAssignment at h
  split at h
  case isTrue hname =>
    obtain ⟨rfl, hlength⟩ := readText_iff.mp h
    exact ⟨hname, rfl, hlength⟩
  split at h
  case isTrue hname =>
    obtain ⟨rfl, hlength⟩ := readText_iff.mp h
    exact ⟨hname, rfl, hlength⟩
  split at h
  case isTrue hname =>
    obtain ⟨rfl, hlength⟩ := readText_iff.mp h
    exact ⟨hname, rfl, hlength⟩
  split at h
  case isTrue hname =>
    rw [Option.ite_none_left_eq_some, Option.some_inj] at h
    obtain ⟨hlength, rfl⟩ := h
    exact ⟨hname, rfl, by omega⟩
  split at h
  case isTrue hname =>
    obtain ⟨rfl, hlength⟩ := readText_iff.mp h
    exact ⟨hname, rfl, hlength⟩
  rw [Option.or_eq_some_iff, Option.or_eq_some_iff, Option.or_eq_some_iff, Option.or_eq_some_iff] at h
  rcases h with h | ⟨-, h | ⟨-, h | ⟨-, h | ⟨-, h⟩⟩⟩⟩
  · obtain ⟨hname, integer, hinteger, rfl⟩ := readUnsigned_iff.mp h
    refine ⟨hname, ?_⟩
    rwa [Assignment.TakenFrom, UInt16.toNat_ofNat_of_lt' (show integer < 65536 by omega)]
  · obtain ⟨hname, integer, hinteger, rfl⟩ := readUnsigned_iff.mp h
    refine ⟨hname, ?_⟩
    rwa [Assignment.TakenFrom, UInt16.toNat_ofNat_of_lt' (show integer < 65536 by omega)]
  · obtain ⟨hname, integer, hinteger, rfl⟩ := readUnsigned_iff.mp h
    refine ⟨hname, ?_⟩
    rwa [Assignment.TakenFrom, UInt16.toNat_ofNat_of_lt' (show integer < 65536 by omega)]
  · obtain ⟨hname, integer, hinteger, rfl⟩ := readUnsigned_iff.mp h
    have hmost : iiotOfflineCapacityMax = 32 := rfl
    refine ⟨hname, ?_⟩
    rwa [Assignment.TakenFrom, UInt8.toNat_ofNat_of_lt' (show integer < 256 by omega)]
  · obtain ⟨row, hmem, hname, number, hparsed, rfl⟩ := readFloat_eq_some strtof h
    obtain ⟨hfield, htaken⟩ := @floatRows_takenFrom strtof _ hmem value number
    exact ⟨hname.trans (congrArg literalText hfield.symm), htaken.mpr hparsed⟩

theorem readAssignment_row {index : Nat} (hindex : index < floatRows.length) {value : List UInt8}
    {number : CFloat} (h : (floatRows[index].2 number).TakenFrom strtof value) :
    readAssignment strtof (literalText (floatRows[index].2 number).field) value =
      some (floatRows[index].2 number) := by
  have hmem : floatRows[index] ∈ floatRows := List.getElem_mem hindex
  obtain ⟨hfield, htaken⟩ := @floatRows_takenFrom strtof _ hmem value number
  have hothers : ∀ field ∈ floatRows.map fun row => literalText row.1.name,
      ∀ name ∈ ["site_id", "device_id", "wifi_ssid", "wifi_password", "mqtt_host", "mqtt_port",
        "sample_interval_ms", "telemetry_interval_ms", "offline_capacity"], field ≠ literalText name := by
    decide +kernel
  have hother := hothers _ (List.mem_map_of_mem hmem)
  rw [hfield, readAssignment_number strtof fun name hname => hother name (by simp at hname ⊢; tauto),
    readUnsigned_other (hother _ (by decide)), readUnsigned_other (hother _ (by decide)),
    readUnsigned_other (hother _ (by decide)), readUnsigned_other (hother _ (by decide)),
    readFloat_of_mem strtof floatRows_names hmem (htaken.mp h)]
  rfl

theorem readAssignment_of_assigns {field value : List UInt8} {assignment : Assignment}
    (h : Assigns strtof field value assignment) :
    readAssignment strtof field value = some assignment := by
  obtain ⟨rfl, htaken⟩ := h
  cases assignment with
  | siteId text =>
      obtain ⟨rfl, hlength⟩ := htaken
      exact (if_pos rfl).trans (readText_iff.mpr ⟨rfl, hlength⟩)
  | deviceId text =>
      obtain ⟨rfl, hlength⟩ := htaken
      dsimp only [Assignment.field, readAssignment]
      rw [if_neg (by decide +kernel), if_pos rfl]
      exact readText_iff.mpr ⟨rfl, hlength⟩
  | wifiSsid text =>
      obtain ⟨rfl, hlength⟩ := htaken
      dsimp only [Assignment.field, readAssignment]
      rw [if_neg (by decide +kernel), if_neg (by decide +kernel), if_pos rfl]
      exact readText_iff.mpr ⟨rfl, hlength⟩
  | wifiPassword text =>
      obtain ⟨rfl, hlength⟩ := htaken
      dsimp only [Assignment.field, readAssignment]
      rw [if_neg (by decide +kernel), if_neg (by decide +kernel), if_neg (by decide +kernel), if_pos rfl,
        if_neg (by omega)]
  | mqttHost text =>
      obtain ⟨rfl, hlength⟩ := htaken
      dsimp only [Assignment.field, readAssignment]
      rw [if_neg (by decide +kernel), if_neg (by decide +kernel), if_neg (by decide +kernel),
        if_neg (by decide +kernel), if_pos rfl]
      exact readText_iff.mpr ⟨rfl, hlength⟩
  | mqttPort port =>
      dsimp only [Assignment.field]
      rw [readAssignment_number strtof (by decide +kernel),
        readUnsigned_iff.mpr ⟨rfl, port.toNat, htaken, rfl⟩, UInt16.ofNat_toNat]
      rfl
  | sampleIntervalMs interval =>
      dsimp only [Assignment.field]
      rw [readAssignment_number strtof (by decide +kernel), readUnsigned_other (by decide +kernel),
        readUnsigned_iff.mpr ⟨rfl, interval.toNat, htaken, rfl⟩, UInt16.ofNat_toNat]
      rfl
  | telemetryIntervalMs interval =>
      dsimp only [Assignment.field]
      rw [readAssignment_number strtof (by decide +kernel), readUnsigned_other (by decide +kernel),
        readUnsigned_other (by decide +kernel),
        readUnsigned_iff.mpr ⟨rfl, interval.toNat, htaken, rfl⟩, UInt16.ofNat_toNat]
      rfl
  | offlineCapacity capacity =>
      dsimp only [Assignment.field]
      rw [readAssignment_number strtof (by decide +kernel), readUnsigned_other (by decide +kernel),
        readUnsigned_other (by decide +kernel), readUnsigned_other (by decide +kernel),
        readUnsigned_iff.mpr ⟨rfl, capacity.toNat, htaken, rfl⟩, UInt8.ofNat_toNat]
      rfl
  | temperatureWarning number => exact @readAssignment_row strtof 0 (by decide) value number htaken
  | temperatureCritical number => exact @readAssignment_row strtof 1 (by decide) value number htaken
  | vibrationWarning number => exact @readAssignment_row strtof 2 (by decide) value number htaken
  | vibrationCritical number => exact @readAssignment_row strtof 3 (by decide) value number htaken
  | currentWarning number => exact @readAssignment_row strtof 4 (by decide) value number htaken
  | currentCritical number => exact @readAssignment_row strtof 5 (by decide) value number htaken
  | hysteresisPercent number => exact @readAssignment_row strtof 6 (by decide) value number htaken

/-- What the code reads is what a `SET` line asks for. -/
theorem readAssignment_iff {field value : List UInt8} {assignment : Assignment} :
    readAssignment strtof field value = some assignment ↔ Assigns strtof field value assignment :=
  ⟨assigns_of_readAssignment strtof, readAssignment_of_assigns strtof⟩

/-- A text that is accepted fits its array. -/
theorem Assigns.fits {field value : List UInt8} {assignment : Assignment}
    (hvalue : ∀ byte ∈ value, byte ≠ 0) (h : Assigns strtof field value assignment) :
    assignment.Fits := by
  obtain ⟨-, htaken⟩ := h
  cases assignment with
  | siteId text | deviceId text | wifiSsid text | mqttHost text =>
      obtain ⟨rfl, -, hlength⟩ := htaken
      exact ⟨hlength, hvalue⟩
  | wifiPassword text =>
      obtain ⟨rfl, hlength⟩ := htaken
      exact ⟨hlength, hvalue⟩
  | _ => trivial

end Lines

end IiotMonitoring
