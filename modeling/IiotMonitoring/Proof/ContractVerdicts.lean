import IiotMonitoring.Server.TelemetrySchema

/-!
# Two validators

What the models and the schema each say of one value, field by field. A document on which they differ
has something that only the one refuses, and nothing that the other refuses.
-/

namespace IiotMonitoring

/-- Who accepts a part of a document: the models, the schema, both or neither. -/
inductive Verdict where
  | both | modelOnly | schemaOnly | neither
  deriving DecidableEq, Repr

namespace Verdict

def of (model schema : Bool) : Verdict :=
  if model then if schema then both else modelOnly else if schema then schemaOnly else neither

def model : Verdict → Bool
  | both | modelOnly => true
  | schemaOnly | neither => false

def schema : Verdict → Bool
  | both | schemaOnly => true
  | modelOnly | neither => false

@[simp]
theorem model_both : both.model = true := rfl

@[simp]
theorem schema_both : both.schema = true := rfl

@[simp]
theorem model_modelOnly : modelOnly.model = true := rfl

@[simp]
theorem schema_modelOnly : modelOnly.schema = false := rfl

@[simp]
theorem model_neither : neither.model = false := rfl

@[simp]
theorem schema_neither : neither.schema = false := rfl

@[simp]
theorem model_of (model schema : Bool) : (of model schema).model = model := by
  cases model <;> cases schema <;> rfl

@[simp]
theorem schema_of (model schema : Bool) : (of model schema).schema = schema := by
  cases model <;> cases schema <;> rfl

end Verdict

/-- Nothing that only one of the two refuses goes without something that the other refuses. -/
def Agree (verdicts : List Verdict) : Prop :=
  .neither ∈ verdicts ∨ (.modelOnly ∈ verdicts ↔ .schemaOnly ∈ verdicts)

instance (verdicts : List Verdict) : Decidable (Agree verdicts) :=
  inferInstanceAs (Decidable (_ ∨ (_ ↔ _)))

/-- What the verdicts say of the models and of the schema. -/
structure Judges (verdicts : List Verdict) (model schema : Prop) : Prop where
  model : (∀ verdict ∈ verdicts, verdict.model = true) ↔ model
  schema : (∀ verdict ∈ verdicts, verdict.schema = true) ↔ schema

namespace Judges

variable {verdicts verdicts' : List Verdict} {model model' schema schema' : Prop}

theorem agree_iff (h : Judges verdicts model schema) : (model ↔ schema) ↔ Agree verdicts := by
  rw [← h.model, ← h.schema]
  have hmodel : (∀ verdict ∈ verdicts, verdict.model = true) ↔
      .neither ∉ verdicts ∧ .schemaOnly ∉ verdicts := by
    constructor
    · intro hall
      exact ⟨fun hneither => Bool.noConfusion (hall _ hneither),
        fun hschema => Bool.noConfusion (hall _ hschema)⟩
    · rintro ⟨hneither, hschema⟩ verdict hverdict
      cases verdict with
      | both => rfl
      | modelOnly => rfl
      | schemaOnly => exact absurd hverdict hschema
      | neither => exact absurd hverdict hneither
  have hschema : (∀ verdict ∈ verdicts, verdict.schema = true) ↔
      .neither ∉ verdicts ∧ .modelOnly ∉ verdicts := by
    constructor
    · intro hall
      exact ⟨fun hneither => Bool.noConfusion (hall _ hneither),
        fun hmodel => Bool.noConfusion (hall _ hmodel)⟩
    · rintro ⟨hneither, hmodel⟩ verdict hverdict
      cases verdict with
      | both => rfl
      | modelOnly => exact absurd hverdict hmodel
      | schemaOnly => rfl
      | neither => exact absurd hverdict hneither
  rw [hmodel, hschema]
  unfold Agree
  by_cases hneither : Verdict.neither ∈ verdicts
  · simp [hneither]
  · by_cases hmodelOnly : Verdict.modelOnly ∈ verdicts
    · simp [hneither, hmodelOnly]
    · simp [hneither, hmodelOnly]

theorem congr (h : Judges verdicts model schema) (hmodel : model ↔ model')
    (hschema : schema ↔ schema') : Judges verdicts model' schema' :=
  ⟨h.model.trans hmodel, h.schema.trans hschema⟩

theorem append (h : Judges verdicts model schema) (h' : Judges verdicts' model' schema') :
    Judges (verdicts ++ verdicts') (model ∧ model') (schema ∧ schema') := by
  constructor
  · rw [List.forall_mem_append, h.model, h'.model]
  · rw [List.forall_mem_append, h.schema, h'.schema]

theorem of_verdict {verdict : Verdict} (hmodel : verdict.model = true ↔ model)
    (hschema : verdict.schema = true ↔ schema) : Judges [verdict] model schema := by
  constructor
  · rw [List.forall_mem_singleton, hmodel]
  · rw [List.forall_mem_singleton, hschema]

end Judges

/-! ### Fields -/

section Fields

variable (scalars : PydanticScalars)

/-- `schema_version`. -/
def schemaVersionVerdict : Json → Verdict
  | .number number =>
      if number.isInteger then .of (number.value = 1) (number.value = 1)
      else .of (scalars.literalOne (.number number)) (number.value = 1)
  | value => .of (scalars.literalOne value) false

/-- An integer with a lower bound, and what the schema allows besides. -/
def integerVerdict (low : Nat) (allowed : ℚ → Bool) : Json → Verdict
  | .number number =>
      if number.isInteger then .of (low ≤ number.value) (low ≤ number.value && allowed number.value)
      else
        .of ((scalars.int (.number number)).any fun value => (low : Int) ≤ value)
          (number.value.den = 1 && low ≤ number.value && allowed number.value)
  | .bool flag => .of (low ≤ flag.toNat) false
  | .string text => .of ((scalars.int (.string text)).any fun value => (low : Int) ≤ value) false
  | _ => .neither

/-- A number with bounds. The models have the lower one as a float. -/
def measurementVerdict (floatLow low high : ℚ) : Json → Verdict
  | .null => .both
  | .number number =>
      .of ((scalars.float (.number number)).any (FloatNumber.within floatLow high))
        (low ≤ number.value && number.value ≤ high)
  | .bool flag => .of (FloatNumber.within floatLow high (.finite (flag.toNat : ℚ))) false
  | .string text => .of ((scalars.float (.string text)).any (FloatNumber.within floatLow high)) false
  | _ => .neither

def flagVerdict : Json → Verdict
  | .bool _ => .both
  | value => .of (scalars.bool value).isSome false

def uuidVerdict (formats : JsonFormats) : Json → Verdict
  | .string text => .of (scalars.uuid (.string text)).isSome (formats.uuid text)
  | _ => .neither

def timeVerdict (formats : JsonFormats) : Json → Verdict
  | .null => .both
  | .string text => .of (scalars.datetime (.string text)).isSome (formats.dateTime text)
  | value => .of (scalars.datetime value).isSome false

end Fields

def identifierVerdict : Json → Verdict
  | .string text => .of (identifierPattern text) (identifierPattern text)
  | _ => .neither

def versionVerdict : Json → Verdict
  | .string text =>
      .of (isUnicode text && text.length ≤ 48) (versionPattern text && text.length ≤ 48)
  | _ => .neither

def literalVerdict (values : List String) : Json → Verdict
  | .string text =>
      .of (values.any fun value => codes value = text) (values.any fun value => codes value = text)
  | _ => .neither

def errorCodeVerdict : Json → Verdict
  | .null => .both
  | .string text => .of (isUnicode text && text.length ≤ 48) (text.length ≤ 48)
  | _ => .neither

def stringText? : Json → Option Text
  | .string text => some text
  | _ => none

/-- Strings only, of which the schema wants that they differ and match the pattern. -/
def faultsVerdict : Json → Verdict
  | .array items =>
      match items.mapM stringText? with
      | none => .neither
      | some texts =>
          .of (texts.length ≤ 32) (texts.length ≤ 32 && texts.all codePattern && decide texts.Nodup)
  | _ => .neither

/-! ### Documents -/

def closedVerdict (names : List String) (members : List (Text × Json)) : Verdict :=
  if members.all fun member => names.any fun name => codes name = member.1 then .both else .neither

def memberVerdicts (name : String) (members : List (Text × Json)) (field : Json → List Verdict) :
    List Verdict :=
  match findMember (codes name) members with
  | none => [.neither]
  | some value => field value

def optionalVerdicts (name : String) (members : List (Text × Json)) (field : Json → List Verdict) :
    List Verdict :=
  match findMember (codes name) members with
  | none => []
  | some value => field value

section Documents

variable (scalars : PydanticScalars)

def sensorVerdicts : Json → List Verdict
  | .object members =>
      [closedVerdict ["status", "valid_samples", "expected_samples", "error_code"] members] ++
        memberVerdicts "status" members (fun value => [literalVerdict sensorStatuses value]) ++
        memberVerdicts "valid_samples" members
          (fun value => [integerVerdict scalars 0 (fun _ => true) value]) ++
        memberVerdicts "expected_samples" members
          (fun value => [integerVerdict scalars 1 (fun _ => true) value]) ++
        optionalVerdicts "error_code" members fun value => [errorCodeVerdict value]
  | _ => [.neither]

def sampleQualityVerdicts : Json → List Verdict
  | .object members =>
      [closedVerdict ["temperature", "vibration", "current"] members] ++
        memberVerdicts "temperature" members (sensorVerdicts scalars) ++
        memberVerdicts "vibration" members (sensorVerdicts scalars) ++
        memberVerdicts "current" members (sensorVerdicts scalars)
  | _ => [.neither]

def measurementsVerdicts : Json → List Verdict
  | .object members =>
      [closedVerdict ["temperature_c", "vibration_rms_mps2", "vibration_peak_mps2",
          "vibration_crest_factor", "current_a"] members] ++
        memberVerdicts "temperature_c" members
          (fun value => [measurementVerdict scalars (-80) (-80) 200 value]) ++
        memberVerdicts "vibration_rms_mps2" members
          (fun value => [measurementVerdict scalars 0 0 2000 value]) ++
        memberVerdicts "vibration_peak_mps2" members
          (fun value => [measurementVerdict scalars 0 0 4000 value]) ++
        memberVerdicts "vibration_crest_factor" members
          (fun value => [measurementVerdict scalars 0 0 100 value]) ++
        memberVerdicts "current_a" members
          fun value => [measurementVerdict scalars minimumCurrent (-1 / 10) 10 value]
  | _ => [.neither]

def Json.isNull : Json → Bool
  | .null => true
  | _ => false

def Json.isFalse : Json → Bool
  | .bool flag => !flag
  | _ => false

/-- The models want a time exactly if the clock is synchronized. The schema wants none if the clock is
`false`. -/
def clockVerdict (members : List (Text × Json)) : Verdict :=
  match findMember (codes "clock_synchronized") members, findMember (codes "device_time") members with
  | some clock, some time =>
      match scalars.bool clock with
      | none => .both
      | some flag => .of (flag = !time.isNull) (time.isNull || !clock.isFalse)
  | _, _ => .both

def telemetryVerdicts (formats : JsonFormats) : Json → List Verdict
  | .object members =>
      [closedVerdict telemetryNames members] ++
        memberVerdicts "schema_version" members (fun value => [schemaVersionVerdict scalars value]) ++
        memberVerdicts "message_id" members (fun value => [uuidVerdict scalars formats value]) ++
        memberVerdicts "site_id" members (fun value => [identifierVerdict value]) ++
        memberVerdicts "device_id" members (fun value => [identifierVerdict value]) ++
        memberVerdicts "sequence" members
          (fun value => [integerVerdict scalars 0 (· ≤ 18446744073709551615) value]) ++
        memberVerdicts "device_time" members (fun value => [timeVerdict scalars formats value]) ++
        memberVerdicts "clock_synchronized" members (fun value => [flagVerdict scalars value]) ++
        memberVerdicts "uptime_ms" members
          (fun value => [integerVerdict scalars 0 (fun _ => true) value]) ++
        memberVerdicts "firmware_version" members (fun value => [versionVerdict value]) ++
        memberVerdicts "quality" members
          (fun value => [literalVerdict ["good", "degraded", "bad"] value]) ++
        memberVerdicts "replayed" members (fun value => [flagVerdict scalars value]) ++
        memberVerdicts "measurements" members (measurementsVerdicts scalars) ++
        memberVerdicts "sample_quality" members (sampleQualityVerdicts scalars) ++
        memberVerdicts "fault_flags" members (fun value => [faultsVerdict value]) ++
        [clockVerdict scalars members]
  | _ => [.neither]

end Documents

end IiotMonitoring
