import IiotMonitoring.Server.Contract

/-!
# The telemetry schema

`telemetry.v1.schema.json`, as a value. The formats are parameters.
-/

namespace IiotMonitoring

/-- The formats that are asserted. -/
structure JsonFormats where
  uuid : Text → Bool
  dateTime : Text → Bool

/-! ### Patterns -/

def isDecimal (code : Nat) : Bool := 48 ≤ code && code ≤ 57

/-- The text after one or more digits. -/
def afterDigits (text : Text) : Option Text :=
  if text.takeWhile isDecimal = [] then none else some (text.dropWhile isDecimal)

def afterPoint : Text → Option Text
  | 46 :: rest => some rest
  | _ => none

def isVersionCode (code : Nat) : Bool :=
  isDecimal code || (65 ≤ code && code ≤ 90) || (97 ≤ code && code ≤ 122) || code = 46 || code = 45

def afterVersion (text : Text) : Option Text := do
  let afterMajor ← afterPoint (← afterDigits text)
  let afterMinor ← afterPoint (← afterDigits afterMajor)
  afterDigits afterMinor

/-- `^[0-9]+\.[0-9]+\.[0-9]+(?:[-+][0-9A-Za-z.-]+)?$` -/
def versionPattern (text : Text) : Bool :=
  match afterVersion text with
  | none => false
  | some [] => true
  | some (sign :: tail) => (sign = 45 || sign = 43) && tail ≠ [] && tail.all isVersionCode

/-! ### Schema -/

def enumSchema (values : List String) : JsonSchema :=
  .enum (values.map fun value => .string (codes value))

/-- An object with no other members than these properties, some of them required. -/
def closedObject (required : List String) (properties : List (String × JsonSchema)) : JsonSchema :=
  .all [.type [.object], .noAdditional (properties.map fun property => codes property.1),
    .required (required.map codes),
    .properties (properties.map fun property => (codes property.1, property.2))]

def measurementSchema (low high : ℚ) : JsonSchema :=
  .all [.type [.number, .null], .minimum low, .maximum high]

def identifierSchema : JsonSchema := .all [.type [.string], .pattern identifierPattern]

def sensorQualitySchema : JsonSchema :=
  closedObject ["status", "valid_samples", "expected_samples"]
    [("status", enumSchema
        ["good", "missing", "stuck", "out_of_range", "noisy", "rate_invalid", "driver_error"]),
      ("valid_samples", .all [.type [.integer], .minimum 0]),
      ("expected_samples", .all [.type [.integer], .minimum 1]),
      ("error_code", .all [.type [.string, .null], .maxLength 48])]

def measurementsSchema : JsonSchema :=
  closedObject
    ["temperature_c", "vibration_rms_mps2", "vibration_peak_mps2", "vibration_crest_factor",
      "current_a"]
    [("temperature_c", measurementSchema (-80) 200),
      ("vibration_rms_mps2", measurementSchema 0 2000),
      ("vibration_peak_mps2", measurementSchema 0 4000),
      ("vibration_crest_factor", measurementSchema 0 100),
      ("current_a", measurementSchema (-1 / 10) 10)]

def sampleQualitySchema : JsonSchema :=
  closedObject ["temperature", "vibration", "current"]
    [("temperature", sensorQualitySchema), ("vibration", sensorQualitySchema),
      ("current", sensorQualitySchema)]

/-- Without synchronized clock the time is null. -/
def clockSchema : JsonSchema :=
  .ifThen
    (.all [.properties [(codes "clock_synchronized", .const (.bool false))],
      .required [codes "clock_synchronized"]])
    (.properties [(codes "device_time", .type [.null])])

def telemetrySchema (formats : JsonFormats) : JsonSchema :=
  .all
    [closedObject
      ["schema_version", "message_id", "site_id", "device_id", "sequence", "device_time",
        "clock_synchronized", "uptime_ms", "firmware_version", "quality", "replayed", "measurements",
        "sample_quality", "fault_flags"]
      [("schema_version", .const (.number (.ofNat 1))),
        ("message_id", .all [.type [.string], .format formats.uuid]),
        ("site_id", identifierSchema),
        ("device_id", identifierSchema),
        ("sequence", .all [.type [.integer], .minimum 0, .maximum 18446744073709551615]),
        ("device_time", .all [.type [.string, .null], .format formats.dateTime]),
        ("clock_synchronized", .type [.boolean]),
        ("uptime_ms", .all [.type [.integer], .minimum 0]),
        ("firmware_version", .all [.type [.string], .pattern versionPattern, .maxLength 48]),
        ("quality", enumSchema ["good", "degraded", "bad"]),
        ("replayed", .type [.boolean]),
        ("measurements", measurementsSchema),
        ("sample_quality", sampleQualitySchema),
        ("fault_flags", .all [.type [.array], .uniqueItems, .maxItems 32,
          .items (.all [.type [.string], .pattern codePattern])])],
      clockSchema]

/-- A JSON document, with no number literals that JSON does not have, that the schema validates. -/
def SchemaAccepts (formats : JsonFormats) (payload : List UInt8) : Prop :=
  ∃ limits raw, jsonLoads limits payload = .ok raw ∧ raw.isFinite = true ∧
    (telemetrySchema formats).Validates raw

end IiotMonitoring
