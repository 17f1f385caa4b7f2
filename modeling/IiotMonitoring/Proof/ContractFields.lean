import IiotMonitoring.Proof.ContractVerdicts

/-!
# The fields of telemetry

Each field's verdict is what the model and the schema say of it, and so for each object of fields.
-/

namespace IiotMonitoring

theorem natField_isSome (scalars : PydanticScalars) (low : Nat) (value : Json) :
    (natField scalars low value).isSome =
      (scalars.int value).any fun number => (low : Int) ≤ number := by
  unfold natField
  rw [Option.isSome_map]
  cases scalars.int value with
  | none => rfl
  | some number =>
      rw [Option.filter_some, Option.any_some]
      by_cases hlow : (low : Int) ≤ number
      · simp [hlow]
      · simp [hlow]

theorem isUnicode_of_identifier {text : Text} (h : identifierPattern text = true) :
    isUnicode text = true := by
  have hascii : ∀ code, (isLowerAlphanumeric code || decide (code = 45)) = true → code.isValidChar := by
    intro code hcode
    unfold isLowerAlphanumeric at hcode
    simp only [Bool.or_eq_true, Bool.and_eq_true, decide_eq_true_eq] at hcode
    left
    omega
  cases text with
  | nil => cases h
  | cons head tail =>
      unfold identifierPattern at h
      rw [Bool.and_eq_true, Bool.and_eq_true, List.all_eq_true] at h
      unfold isUnicode
      rw [List.all_eq_true]
      intro code hcode
      rw [decide_eq_true_eq]
      cases hcode with
      | head => exact hascii head (by rw [h.1.1, Bool.true_or])
      | tail _ htail => exact hascii code (h.1.2 code htail)

theorem version_validates (value : Json) :
    (JsonSchema.const (.number (.ofNat 1))).Validates value ↔
      ∃ number, value = .number number ∧ number.value = 1 := by
  unfold JsonSchema.Validates
  rw [same_number_iff]
  simp [JsonNumber.ofNat, JsonNumber.value]

theorem measurementSchema_validates (low high : ℚ) (value : Json) :
    (measurementSchema low high).Validates value ↔
      value = .null ∨ ∃ number, value = .number number ∧ low ≤ number.value ∧ number.value ≤ high := by
  unfold measurementSchema
  cases value with
  | _ => simp [JsonSchema.Validates, AllValidate, Json.HasType]

theorem enumSchema_validates (values : List String) (value : Json) :
    (enumSchema values).Validates value ↔ ∃ found ∈ values, value = .string (codes found) := by
  unfold enumSchema JsonSchema.Validates
  simp [same_string_iff]

theorem faults_validates (accepts : Text → Bool) (length : Nat) (value : Json) :
    (JsonSchema.all [.type [.array], .uniqueItems, .maxItems length,
      .items (.all [.type [.string], .pattern accepts])]).Validates value ↔
      ∃ texts : List Text, value = .array (texts.map .string) ∧ texts.length ≤ length ∧
        (∀ text ∈ texts, accepts text = true) ∧ texts.Nodup := by
  rw [array_validates]
  constructor
  · rintro ⟨items, rfl, hunique, hlength, hitems⟩
    obtain ⟨texts, rfl⟩ := strings_of_validates hitems
    rw [List.length_map] at hlength
    exact ⟨texts, rfl, hlength, (patterns_validates accepts texts).mp hitems,
      (unique_strings texts).mp hunique⟩
  · rintro ⟨texts, rfl, hlength, haccepts, hnodup⟩
    refine ⟨texts.map .string, rfl, (unique_strings texts).mpr hnodup, ?_,
      (patterns_validates accepts texts).mpr haccepts⟩
    rwa [List.length_map]

/-! ### Leaves -/

section Leaves

variable {scalars : PydanticScalars} (hlax : scalars.Lax)

include hlax

theorem int_eq_none {value : Json} (h : value.isScalar = false) : scalars.int value = none := by
  cases hint : scalars.int value with
  | none => rfl
  | some number =>
      rw [hlax.int_scalar value number hint] at h
      cases h

theorem judges_schemaVersion (value : Json) :
    Judges [schemaVersionVerdict scalars value]
      ((if scalars.literalOne value then some () else none).isSome = true)
      ((JsonSchema.const (.number (.ofNat 1))).Validates value) := by
  have hsome : (if scalars.literalOne value then some () else none).isSome = scalars.literalOne value := by
    cases scalars.literalOne value <;> rfl
  rw [version_validates, hsome]
  apply Judges.of_verdict
  · cases value with
    | number number =>
        by_cases hinteger : number.isInteger = true
        · rw [hlax.literalOne number hinteger]
          simp [schemaVersionVerdict, hinteger]
        · simp [schemaVersionVerdict, hinteger]
    | _ => simp [schemaVersionVerdict]
  · cases value with
    | number number =>
        by_cases hinteger : number.isInteger = true
        · simp [schemaVersionVerdict, hinteger]
        · simp [schemaVersionVerdict, hinteger]
    | _ => simp [schemaVersionVerdict]

theorem judges_integer (low : Nat) (allowed : ℚ → Bool) (value : Json) :
    Judges [integerVerdict scalars low allowed value]
      ((natField scalars low value).isSome = true)
      (∃ number, value = .number number ∧ number.value.den = 1 ∧ low ≤ number.value ∧
        allowed number.value = true) := by
  rw [natField_isSome]
  apply Judges.of_verdict
  · cases value with
    | number number =>
        by_cases hinteger : number.isInteger = true
        · have hle : (low : ℚ) ≤ number.value ↔ (low : Int) ≤ number.value.num := by
            rw [← (JsonNumber.num_of_isInteger hinteger).1, Rat.num_intCast]
            exact_mod_cast Iff.rfl
          simp [integerVerdict, hinteger, hlax.int_number number hinteger, hle]
        · simp [integerVerdict, hinteger]
    | bool flag => simp [integerVerdict, hlax.int_bool]
    | string text => simp [integerVerdict]
    | _ =>
        rw [int_eq_none hlax]
        · simp [integerVerdict]
        · rfl
  · cases value with
    | number number =>
        by_cases hinteger : number.isInteger = true
        · simp [integerVerdict, hinteger, (JsonNumber.num_of_isInteger hinteger).2]
        · simp [integerVerdict, hinteger, and_assoc]
    | _ => simp [integerVerdict]

theorem judges_natural (low : Nat) (value : Json) :
    Judges [integerVerdict scalars low (fun _ => true) value] ((natField scalars low value).isSome = true)
      ((JsonSchema.all [.type [.integer], .minimum low]).Validates value) := by
  refine (judges_integer hlax low (fun _ => true) value).congr Iff.rfl ?_
  rw [integer_validates]
  simp only [and_true]

theorem judges_sequence (value : Json) :
    Judges [integerVerdict scalars 0 (· ≤ 18446744073709551615) value]
      ((natField scalars 0 value).isSome = true)
      ((JsonSchema.all [.type [.integer], .minimum 0, .maximum 18446744073709551615]).Validates value) := by
  refine (judges_integer hlax 0 (· ≤ 18446744073709551615) value).congr Iff.rfl ?_
  rw [boundedInteger_validates]
  simp only [Nat.cast_zero, decide_eq_true_eq]

theorem judges_measurement (floatLow low high : ℚ) (value : Json) :
    Judges [measurementVerdict scalars floatLow low high value]
      ((measurementField scalars floatLow high value).isSome = true)
      ((measurementSchema low high).Validates value) := by
  rw [measurementSchema_validates]
  have hsome : ∀ other : Option (FloatNumber ℚ),
      ((other.filter (FloatNumber.within floatLow high)).map some).isSome =
        other.any (FloatNumber.within floatLow high) := by
    intro other
    cases other with
    | none => rfl
    | some number =>
        cases hwithin : FloatNumber.within floatLow high number <;> simp [Option.filter, hwithin]
  apply Judges.of_verdict
  · cases value with
    | null => simp [measurementVerdict, measurementField]
    | bool flag => simp [measurementVerdict, measurementField, hsome, hlax.float_bool]
    | number number => simp [measurementVerdict, measurementField, hsome]
    | string text => simp [measurementVerdict, measurementField, hsome]
    | nonFinite literal =>
        rw [measurementField, hsome, hlax.float_nonFinite]
        · cases literal with
          | nan => simp [measurementVerdict, NonFinite.float]
          | infinity => simp [measurementVerdict, NonFinite.float]
          | negativeInfinity => simp [measurementVerdict, NonFinite.float]
        · intro h
          cases h
    | array items => simp [measurementVerdict, measurementField, hlax.float_array]
    | object members => simp [measurementVerdict, measurementField, hlax.float_object]
  · cases value with
    | _ => simp [measurementVerdict]

theorem judges_flag (value : Json) :
    Judges [flagVerdict scalars value] ((scalars.bool value).isSome = true)
      ((JsonSchema.type [.boolean]).Validates value) := by
  rw [flag_validates]
  apply Judges.of_verdict
  · cases value with
    | bool flag => simp [flagVerdict, hlax.bool_bool]
    | _ => simp [flagVerdict]
  · cases value with
    | _ => simp [flagVerdict]

theorem judges_uuid (formats : JsonFormats) (value : Json) :
    Judges [uuidVerdict scalars formats value] ((scalars.uuid value).isSome = true)
      ((JsonSchema.all [.type [.string], .format formats.uuid]).Validates value) := by
  rw [format_validates]
  have hnone : (∀ text, value ≠ .string text) → scalars.uuid value = none := by
    intro hstring
    cases huuid : scalars.uuid value with
    | none => rfl
    | some uuid =>
        obtain ⟨text, htext⟩ := hlax.uuid_string value uuid huuid
        exact absurd htext (hstring text)
  apply Judges.of_verdict
  · cases value with
    | string text => simp [uuidVerdict]
    | _ => simp [uuidVerdict, hnone]
  · cases value with
    | _ => simp [uuidVerdict]

omit hlax in
theorem judges_time (formats : JsonFormats) (value : Json) :
    Judges [timeVerdict scalars formats value] ((timeField scalars value).isSome = true)
      ((JsonSchema.all [.type [.string, .null], .format formats.dateTime]).Validates value) := by
  rw [optionalFormat_validates]
  apply Judges.of_verdict
  · cases value with
    | _ => simp [timeVerdict, timeField]
  · cases value with
    | _ => simp [timeVerdict]

theorem boundedString_any (accepts : Text → Bool) (value : Json) :
    ((scalars.boundedString value).filter fun string => accepts (codes string)).isSome = true ↔
      ∃ text, value = .string text ∧ isUnicode text = true ∧ accepts text = true := by
  constructor
  · intro hsome
    obtain ⟨string, hstring⟩ := Option.isSome_iff_exists.mp hsome
    rw [Option.filter_eq_some_iff, hlax.boundedString_iff] at hstring
    exact ⟨codes string, hstring.1, isUnicode_codes string, hstring.2⟩
  · rintro ⟨text, rfl, hunicode, haccepts⟩
    have hcodes := codes_ofList hunicode
    rw [(hlax.boundedString_iff (.string text) _).mpr (by rw [hcodes]), Option.filter_some, hcodes,
      if_pos haccepts]
    rfl

theorem judges_identifier (value : Json) :
    Judges [identifierVerdict value] ((identifierField scalars value).isSome = true)
      (identifierSchema.Validates value) := by
  unfold identifierField identifierSchema
  rw [boundedString_any hlax, pattern_validates]
  apply Judges.of_verdict
  · cases value with
    | string text => simpa [identifierVerdict] using isUnicode_of_identifier
    | _ => simp [identifierVerdict]
  · cases value with
    | _ => simp [identifierVerdict]

theorem textField_isSome (length : Nat) (value : Json) :
    (textField scalars length value).isSome = true ↔
      ∃ text, value = .string text ∧ isUnicode text = true ∧ text.length ≤ length := by
  have hfield : textField scalars length value =
      (scalars.boundedString value).filter fun string => decide ((codes string).length ≤ length) := by
    unfold textField
    congr 1
    funext string
    rw [length_codes]
  rw [hfield, boundedString_any hlax fun text => decide (text.length ≤ length)]
  simp only [decide_eq_true_eq]

theorem judges_version (value : Json) :
    Judges [versionVerdict value] ((textField scalars 48 value).isSome = true)
      ((JsonSchema.all [.type [.string], .pattern versionPattern, .maxLength 48]).Validates value) := by
  rw [textField_isSome hlax, boundedPattern_validates]
  apply Judges.of_verdict
  · cases value with
    | _ => simp [versionVerdict]
  · cases value with
    | _ => simp [versionVerdict]

theorem judges_errorCode (value : Json) :
    Judges [errorCodeVerdict value] ((optionalTextField scalars 48 (some value)).isSome = true)
      ((JsonSchema.all [.type [.string, .null], .maxLength 48]).Validates value) := by
  rw [optionalText_validates]
  apply Judges.of_verdict
  · cases value with
    | null => simp [errorCodeVerdict, optionalTextField]
    | _ => simp [errorCodeVerdict, optionalTextField, textField_isSome hlax]
  · cases value with
    | _ => simp [errorCodeVerdict]

omit hlax in
theorem judges_literal {α : Type} (text : α → String) (values : List α) (value : Json) :
    Judges [literalVerdict (values.map text) value] ((literalField text values value).isSome = true)
      ((enumSchema (values.map text)).Validates value) := by
  rw [enumSchema_validates]
  apply Judges.of_verdict
  · cases value with
    | string found => simp [literalVerdict, literalField, List.find?_isSome]
    | _ => simp [literalVerdict, literalField]
  · cases value with
    | string found =>
        simp only [literalVerdict, Verdict.schema_of, List.any_eq_true, decide_eq_true_eq,
          Json.string.injEq]
        exact exists_congr fun value => and_congr_right fun _ => eq_comm
    | _ => simp [literalVerdict]

theorem mapM_string_isSome (items : List Json) :
    (items.mapM scalars.string).isSome = (items.mapM stringText?).isSome := by
  induction items with
  | nil => rfl
  | cons item items ih =>
      rw [List.mapM_cons, List.mapM_cons]
      have hitem : (scalars.string item).isSome = (stringText? item).isSome := by
        rw [Bool.eq_iff_iff, hlax.string_iff]
        cases item <;> simp [stringText?]
      cases hstring : scalars.string item <;> cases htext : stringText? item
      · rfl
      · simp [hstring, htext] at hitem
      · simp [hstring, htext] at hitem
      · cases hstrings : items.mapM scalars.string <;> cases htexts : items.mapM stringText?
        · rfl
        · simp [hstrings, htexts] at ih
        · simp [hstrings, htexts] at ih
        · rfl

omit hlax in
theorem mapM_stringText {items : List Json} {texts : List Text} (h : items.mapM stringText? = some texts) :
    items = texts.map .string := by
  induction items generalizing texts with
  | nil =>
      rw [List.mapM_nil] at h
      cases h
      rfl
  | cons item items ih =>
      rw [List.mapM_cons] at h
      cases item with
      | string text =>
          cases hrest : items.mapM stringText? with
          | none => simp [stringText?, hrest] at h
          | some rest =>
              have htexts : text :: rest = texts := by simpa [stringText?, hrest] using h
              rw [← htexts, ih hrest, List.map_cons]
      | _ => simp [stringText?] at h

omit hlax in
theorem mapM_map_string (texts : List Text) : (texts.map Json.string).mapM stringText? = some texts := by
  induction texts with
  | nil => rfl
  | cons text texts ih => simp [stringText?, ih]

theorem judges_faults (value : Json) :
    Judges [faultsVerdict value] ((textsField scalars 32 value).isSome = true)
      ((JsonSchema.all [.type [.array], .uniqueItems, .maxItems 32,
        .items (.all [.type [.string], .pattern codePattern])]).Validates value) := by
  rw [faults_validates]
  cases value with
  | array items =>
      have hsome := mapM_string_isSome hlax items
      rw [faultsVerdict, textsField]
      cases htexts : items.mapM stringText? with
      | none =>
          rw [htexts, Option.isSome_none, Option.isSome_eq_false_iff, Option.isNone_iff_eq_none] at hsome
          rw [hsome]
          apply Judges.of_verdict
          · simp
          · suffices h : ∀ texts : List Text, items ≠ texts.map .string by simp [h]
            rintro texts rfl
            rw [mapM_map_string] at htexts
            cases htexts
      | some texts =>
          rw [htexts, Option.isSome_some] at hsome
          obtain rfl := mapM_stringText htexts
          have hinj : Function.Injective Json.string := fun _ _ => Json.string.inj
          apply Judges.of_verdict
          · by_cases hle : texts.length ≤ 32
            · simpa [hle] using hsome
            · simp [hle]
          · constructor
            · intro h
              simp only [Verdict.schema_of, Bool.and_eq_true, decide_eq_true_eq, List.all_eq_true] at h
              exact ⟨texts, rfl, h.1.1, h.1.2, h.2⟩
            · rintro ⟨texts', hsame, hlength, hcodes, hnodup⟩
              rw [Json.array.injEq] at hsame
              obtain rfl := List.map_injective_iff.mpr hinj hsame
              simpa using ⟨⟨hlength, hcodes⟩, hnodup⟩
  | _ => exact Judges.of_verdict (by simp [faultsVerdict, textsField]) (by simp [faultsVerdict])

end Leaves

/-! ### Members -/

theorem judges_member {α : Type} {field : Json → List Verdict} {model : Json → Option α}
    {valid : Json → Prop} (h : ∀ value, Judges (field value) ((model value).isSome = true) (valid value))
    (name : String) (members : List (Text × Json)) :
    Judges (memberVerdicts name members field) ((requiredField name members model).isSome = true)
      (∃ value, findMember (codes name) members = some value ∧ valid value) := by
  unfold memberVerdicts requiredField
  cases findMember (codes name) members with
  | none => exact Judges.of_verdict (by simp) (by simp)
  | some value => exact (h value).congr (by simp) (by simp)

theorem judges_closed (names : List String) (members : List (Text × Json)) :
    Judges [closedVerdict names members] (modelMembers names (.object members) = some members)
      (∀ member ∈ members, member.1 ∈ names.map codes) := by
  have hiff : (members.all fun member => names.any fun name => codes name = member.1) = true ↔
      ∀ member ∈ members, member.1 ∈ names.map codes := by
    simp only [List.all_eq_true, List.any_eq_true, decide_eq_true_eq, List.mem_map]
  rw [closedVerdict, modelMembers]
  by_cases hall : (members.all fun member => names.any fun name => codes name = member.1) = true
  · rw [if_pos hall, if_pos hall]
    exact Judges.of_verdict (by simp) (by rw [← hiff, hall]; simp)
  · rw [if_neg hall, if_neg hall]
    exact Judges.of_verdict (by simp) (by rw [← hiff]; simp [hall])

/-- A property that is required and valid. -/
theorem required_valid {key : Text} {members : List (Text × Json)} {valid : Json → Prop} :
    ((findMember key members).isSome = true ∧ ∀ value, findMember key members = some value → valid value) ↔
      ∃ value, findMember key members = some value ∧ valid value := by
  cases findMember key members with
  | none => simp
  | some value => simp

theorem closedObject_validates (required : List String) (properties : List (String × JsonSchema))
    (members : List (Text × Json)) :
    (closedObject required properties).Validates (.object members) ↔
      (∀ member ∈ members, member.1 ∈ (properties.map Prod.fst).map codes) ∧
        (∀ name ∈ required, (findMember (codes name) members).isSome = true) ∧
        PropertiesValidate (properties.map fun property => (codes property.1, property.2)) members := by
  unfold closedObject
  simp only [JsonSchema.Validates, AllValidate, Json.HasType, List.mem_singleton, exists_eq_left,
    Json.object.injEq, exists_eq', true_and, and_true, forall_eq', List.map_map, List.forall_mem_map]
  rfl

/-- An object of which every property is required. -/
theorem closedObject_validates_all {required : List String} {properties : List (String × JsonSchema)}
    (hrequired : required = properties.map Prod.fst) (members : List (Text × Json)) :
    (closedObject required properties).Validates (.object members) ↔
      (∀ member ∈ members, member.1 ∈ required.map codes) ∧
        ∀ property ∈ properties, (findMember (codes property.1) members).isSome = true ∧
          ∀ value, findMember (codes property.1) members = some value → property.2.Validates value := by
  rw [closedObject_validates, propertiesValidate_iff, hrequired, List.forall_mem_map, List.forall_mem_map,
    ← forall₂_and]

theorem closedObject_not_object {value : Json} (h : ∀ members, value ≠ .object members)
    (required : List String) (properties : List (String × JsonSchema)) :
    ¬ (closedObject required properties).Validates value := by
  intro hvalid
  unfold closedObject at hvalid
  simp only [JsonSchema.Validates, AllValidate, Json.HasType, List.mem_singleton, exists_eq_left] at hvalid
  obtain ⟨members, hmembers⟩ := hvalid.1
  exact h members hmembers

section Objects

variable {scalars : PydanticScalars}

theorem modelMembers_object (names : List String) (members : List (Text × Json)) :
    modelMembers names (.object members) = some members ∨
      modelMembers names (.object members) = none := by
  unfold modelMembers
  dsimp only
  split
  · exact .inl rfl
  · exact .inr rfl

theorem isSome_bind {α β : Type} (read : Option α) (next : α → Option β) :
    (read >>= next).isSome = true ↔ ∃ value, read = some value ∧ (next value).isSome = true := by
  cases read with
  | none => simp
  | some value => simp

/-- The members of a closed object are bound to themselves. -/
theorem isSome_bind_members {β : Type} (names : List String) (members : List (Text × Json))
    (next : List (Text × Json) → Option β) :
    (modelMembers names (.object members) >>= next).isSome = true ↔
      modelMembers names (.object members) = some members ∧ (next members).isSome = true := by
  cases modelMembers_object names members with
  | inl hclosed => simp [hclosed]
  | inr hopen => simp [hopen]

theorem judges_required {α : Type} {field : Json → List Verdict} {model : Json → Option α}
    {schema : JsonSchema}
    (h : ∀ value, Judges (field value) ((model value).isSome = true) (schema.Validates value))
    (name : String) (members : List (Text × Json)) :
    Judges (memberVerdicts name members field) ((requiredField name members model).isSome = true)
      ((findMember (codes name) members).isSome = true ∧
        ∀ value, findMember (codes name) members = some value → schema.Validates value) :=
  (judges_member h name members).congr Iff.rfl required_valid.symm

variable (hlax : scalars.Lax)

include hlax

theorem judges_optional (name : String) (members : List (Text × Json)) :
    Judges (optionalVerdicts name members fun value => [errorCodeVerdict value])
      ((optionalTextField scalars 48 (findMember (codes name) members)).isSome = true)
      (∀ value, findMember (codes name) members = some value →
        (JsonSchema.all [.type [.string, .null], .maxLength 48]).Validates value) := by
  unfold optionalVerdicts
  cases findMember (codes name) members with
  | none => exact ⟨by simp [optionalTextField], by simp⟩
  | some value =>
      exact (judges_errorCode hlax value).congr Iff.rfl (by simp only [Option.some.injEq, forall_eq'])

theorem judges_sensor (value : Json) :
    Judges (sensorVerdicts scalars value) ((validateSensorQuality scalars value).isSome = true)
      (sensorQualitySchema.Validates value) := by
  cases value with
  | object members =>
      have hstatus : ∀ value, Judges [literalVerdict sensorStatuses value]
          ((literalField id sensorStatuses value).isSome = true)
          ((enumSchema sensorStatuses).Validates value) := judges_literal id sensorStatuses
      have hjudges := ((((judges_closed ["status", "valid_samples", "expected_samples", "error_code"]
        members).append (judges_required hstatus "status" members)).append
        (judges_required (judges_natural hlax 0) "valid_samples" members)).append
        (judges_required (judges_natural hlax 1) "expected_samples" members)).append
        (judges_optional hlax "error_code" members)
      refine hjudges.congr ?_ ?_
      · unfold validateSensorQuality
        rw [isSome_bind_members]
        simp only [isSome_bind, Option.pure_def, Option.isSome_some, and_true, exists_and_right,
          ← Option.isSome_iff_exists, and_assoc]
      · unfold sensorQualitySchema
        rw [closedObject_validates]
        simp only [List.map_cons, List.map_nil, PropertiesValidate, List.forall_mem_cons, sensorStatuses, Nat.cast_zero, Nat.cast_one]
        tauto
  | _ =>
      exact Judges.of_verdict (by simp [validateSensorQuality, modelMembers])
        (by simp [sensorQualitySchema, closedObject_not_object])

theorem judges_sampleQuality (value : Json) :
    Judges (sampleQualityVerdicts scalars value) ((validateSampleQuality scalars value).isSome = true)
      (sampleQualitySchema.Validates value) := by
  cases value with
  | object members =>
      have hjudges := (((judges_closed ["temperature", "vibration", "current"] members).append
        (judges_required (judges_sensor hlax) "temperature" members)).append
        (judges_required (judges_sensor hlax) "vibration" members)).append
        (judges_required (judges_sensor hlax) "current" members)
      refine hjudges.congr ?_ ?_
      · unfold validateSampleQuality
        rw [isSome_bind_members]
        simp only [isSome_bind, Option.pure_def, Option.isSome_some, and_true, exists_and_right,
          ← Option.isSome_iff_exists, and_assoc]
      · unfold sampleQualitySchema
        rw [closedObject_validates_all (by rfl)]
        simp only [List.forall_mem_cons, List.not_mem_nil, false_imp_iff, implies_true, and_true, and_assoc]
  | _ =>
      exact Judges.of_verdict (by simp [validateSampleQuality, modelMembers])
        (by simp [sampleQualitySchema, closedObject_not_object])

theorem judges_measurements (value : Json) :
    Judges (measurementsVerdicts scalars value) ((validateMeasurements scalars value).isSome = true)
      (measurementsSchema.Validates value) := by
  cases value with
  | object members =>
      have hjudges := (((((judges_closed ["temperature_c", "vibration_rms_mps2", "vibration_peak_mps2",
        "vibration_crest_factor", "current_a"] members).append
        (judges_required (judges_measurement hlax (-80) (-80) 200) "temperature_c" members)).append
        (judges_required (judges_measurement hlax 0 0 2000) "vibration_rms_mps2" members)).append
        (judges_required (judges_measurement hlax 0 0 4000) "vibration_peak_mps2" members)).append
        (judges_required (judges_measurement hlax 0 0 100) "vibration_crest_factor" members)).append
        (judges_required (judges_measurement hlax minimumCurrent (-1 / 10) 10) "current_a" members)
      refine hjudges.congr ?_ ?_
      · unfold validateMeasurements
        rw [isSome_bind_members]
        simp only [isSome_bind, Option.pure_def, Option.isSome_some, and_true, exists_and_right,
          ← Option.isSome_iff_exists, and_assoc]
      · unfold measurementsSchema
        rw [closedObject_validates_all (by rfl)]
        simp only [List.forall_mem_cons, List.not_mem_nil, false_imp_iff, implies_true, and_true, and_assoc]
  | _ =>
      exact Judges.of_verdict (by simp [validateMeasurements, modelMembers])
        (by simp [measurementsSchema, closedObject_not_object])

def ClockRule (scalars : PydanticScalars) (members : List (Text × Json)) : Prop :=
  ∀ clock, findMember (codes "clock_synchronized") members = some clock →
    ∀ time, findMember (codes "device_time") members = some time →
      ∀ flag, scalars.bool clock = some flag → flag = !time.isNull

omit hlax in
theorem clockSchema_validates (members : List (Text × Json)) :
    clockSchema.Validates (.object members) ↔
      (findMember (codes "clock_synchronized") members = some (.bool false) →
        ∀ time, findMember (codes "device_time") members = some time → time = .null) := by
  unfold clockSchema
  simp only [JsonSchema.Validates, AllValidate, PropertiesValidate, Json.HasType, same_bool_iff,
    Json.object.injEq, forall_eq', and_true, List.mem_singleton, forall_eq, exists_eq_left]
  cases findMember (codes "clock_synchronized") members with
  | none => simp
  | some clock => simp

theorem judges_clock (members : List (Text × Json)) :
    Judges [clockVerdict scalars members] (ClockRule scalars members)
      (clockSchema.Validates (.object members)) := by
  rw [clockSchema_validates]
  unfold clockVerdict ClockRule
  cases findMember (codes "clock_synchronized") members with
  | none => exact Judges.of_verdict (by simp) (by simp)
  | some clock =>
      cases findMember (codes "device_time") members with
      | none => exact Judges.of_verdict (by simp) (by simp)
      | some time =>
          have htime : time.isNull = true ↔ time = .null := by
            cases time <;> simp [Json.isNull]
          have hfalse : clock.isFalse = true ↔ clock = .bool false := by
            cases clock <;> simp [Json.isFalse]
          simp only [Option.some.injEq, forall_eq', ← hfalse, ← htime]
          cases hbool : scalars.bool clock with
          | none =>
              have hne : clock.isFalse = false := by
                rw [Bool.eq_false_iff, ne_eq, hfalse]
                rintro rfl
                rw [hlax.bool_bool] at hbool
                cases hbool
              exact Judges.of_verdict (by simp) (by simp [hne])
          | some flag =>
              apply Judges.of_verdict
              · simp
              · cases time.isNull <;> cases clock.isFalse <;> simp

omit hlax in
theorem timeField_isSome {time : Json} {deviceTime : Option Int}
    (h : timeField scalars time = some deviceTime) : deviceTime.isSome = !time.isNull := by
  cases time with
  | null =>
      cases h
      rfl
  | _ =>
      obtain ⟨microseconds, -, rfl⟩ := Option.map_eq_some_iff.mp h
      rfl

omit hlax in
/-- With the fields read, the models want the clock's rule. -/
theorem clockConsistent_iff {members : List (Text × Json)} {clockSynchronized : Bool}
    {deviceTime : Option Int}
    (hclock : requiredField "clock_synchronized" members scalars.bool = some clockSynchronized)
    (htime : requiredField "device_time" members (timeField scalars) = some deviceTime) :
    clockConsistent clockSynchronized deviceTime = true ↔ ClockRule scalars members := by
  obtain ⟨clock, hfindClock, hbool⟩ := requiredField_some hclock
  obtain ⟨time, hfindTime, hfield⟩ := requiredField_some htime
  unfold clockConsistent ClockRule
  rw [timeField_isSome hfield, hfindClock, hfindTime]
  simp only [Option.some.injEq, forall_eq', hbool, decide_eq_true_eq]

omit hlax in
theorem validateTelemetry_not_object {value : Json} (h : ∀ members, value ≠ .object members) :
    validateTelemetry scalars value = none := by
  cases hread : validateTelemetry scalars value with
  | none => rfl
  | some envelope =>
      obtain ⟨members, hmembers, -⟩ := validateTelemetry_iff.mp hread
      exact absurd (modelMembers_eq hmembers) (h members)

omit hlax in
theorem validateTelemetry_isSome (members : List (Text × Json)) :
    (validateTelemetry scalars (.object members)).isSome = true ↔
      modelMembers telemetryNames (.object members) = some members ∧
      (requiredField "schema_version" members fun value =>
        if scalars.literalOne value then some () else none).isSome = true ∧
      (requiredField "message_id" members scalars.uuid).isSome = true ∧
      (requiredField "site_id" members (identifierField scalars)).isSome = true ∧
      (requiredField "device_id" members (identifierField scalars)).isSome = true ∧
      (requiredField "sequence" members (natField scalars 0)).isSome = true ∧
      (requiredField "device_time" members (timeField scalars)).isSome = true ∧
      (requiredField "clock_synchronized" members scalars.bool).isSome = true ∧
      (requiredField "uptime_ms" members (natField scalars 0)).isSome = true ∧
      (requiredField "firmware_version" members (textField scalars 48)).isSome = true ∧
      (requiredField "quality" members
        (literalField Quality.text [.good, .degraded, .bad])).isSome = true ∧
      (requiredField "replayed" members scalars.bool).isSome = true ∧
      (requiredField "measurements" members (validateMeasurements scalars)).isSome = true ∧
      (requiredField "sample_quality" members (validateSampleQuality scalars)).isSome = true ∧
      (requiredField "fault_flags" members (textsField scalars 32)).isSome = true ∧
      ClockRule scalars members := by
  constructor
  · intro hsome
    obtain ⟨envelope, henvelope⟩ := Option.isSome_iff_exists.mp hsome
    obtain ⟨members', hmembers, h⟩ := validateTelemetry_iff.mp henvelope
    obtain rfl := Json.object.inj (modelMembers_eq hmembers)
    refine ⟨hmembers, ?_, ?_, ?_, ?_, ?_, ?_, ?_, ?_, ?_, ?_, ?_, ?_, ?_, ?_,
      (clockConsistent_iff h.clockSynchronized h.deviceTime).mp h.consistent⟩
    · rw [h.schemaVersion, Option.isSome_some]
    · rw [h.messageId, Option.isSome_some]
    · rw [h.siteId, Option.isSome_some]
    · rw [h.deviceId, Option.isSome_some]
    · rw [h.sequence, Option.isSome_some]
    · rw [h.deviceTime, Option.isSome_some]
    · rw [h.clockSynchronized, Option.isSome_some]
    · rw [h.uptimeMs, Option.isSome_some]
    · rw [h.firmwareVersion, Option.isSome_some]
    · rw [h.quality, Option.isSome_some]
    · rw [h.replayed, Option.isSome_some]
    · rw [h.measurements, Option.isSome_some]
    · rw [h.sampleQuality, Option.isSome_some]
    · rw [h.faultFlags, Option.isSome_some]
  · rintro ⟨hmembers, hversion, hmessage, hsite, hdevice, hsequence, htime, hclock, huptime, hfirmware,
      hquality, hreplayed, hmeasurements, hsamples, hfaults, hrule⟩
    obtain ⟨version, hversion⟩ := Option.isSome_iff_exists.mp hversion
    obtain ⟨messageId, hmessage⟩ := Option.isSome_iff_exists.mp hmessage
    obtain ⟨siteId, hsite⟩ := Option.isSome_iff_exists.mp hsite
    obtain ⟨deviceId, hdevice⟩ := Option.isSome_iff_exists.mp hdevice
    obtain ⟨sequence, hsequence⟩ := Option.isSome_iff_exists.mp hsequence
    obtain ⟨deviceTime, htime⟩ := Option.isSome_iff_exists.mp htime
    obtain ⟨clockSynchronized, hclock⟩ := Option.isSome_iff_exists.mp hclock
    obtain ⟨uptimeMs, huptime⟩ := Option.isSome_iff_exists.mp huptime
    obtain ⟨firmwareVersion, hfirmware⟩ := Option.isSome_iff_exists.mp hfirmware
    obtain ⟨quality, hquality⟩ := Option.isSome_iff_exists.mp hquality
    obtain ⟨replayed, hreplayed⟩ := Option.isSome_iff_exists.mp hreplayed
    obtain ⟨measurements, hmeasurements⟩ := Option.isSome_iff_exists.mp hmeasurements
    obtain ⟨sampleQuality, hsamples⟩ := Option.isSome_iff_exists.mp hsamples
    obtain ⟨faultFlags, hfaults⟩ := Option.isSome_iff_exists.mp hfaults
    let envelope : TelemetryEnvelope := ⟨messageId, siteId, deviceId, sequence, deviceTime,
      clockSynchronized, uptimeMs, firmwareVersion, quality, replayed, measurements, sampleQuality,
      faultFlags⟩
    have hreads : ReadsTelemetry scalars members envelope :=
      ⟨hversion, hmessage, hsite, hdevice, hsequence, htime, hclock, huptime, hfirmware, hquality,
        hreplayed, hmeasurements, hsamples, hfaults, (clockConsistent_iff hclock htime).mpr hrule⟩
    rw [validateTelemetry_iff.mpr ⟨members, hmembers, hreads⟩, Option.isSome_some]

theorem judges_telemetry (formats : JsonFormats) (value : Json) :
    Judges (telemetryVerdicts scalars formats value) ((validateTelemetry scalars value).isSome = true)
      ((telemetrySchema formats).Validates value) := by
  cases value with
  | object members =>
      have hquality : ∀ value, Judges [literalVerdict ["good", "degraded", "bad"] value]
          ((literalField Quality.text [.good, .degraded, .bad] value).isSome = true)
          ((enumSchema ["good", "degraded", "bad"]).Validates value) :=
        judges_literal Quality.text [.good, .degraded, .bad]
      have hjudges := (((((((((((((((judges_closed telemetryNames members).append
        (judges_required (judges_schemaVersion hlax) "schema_version" members)).append
        (judges_required (judges_uuid hlax formats) "message_id" members)).append
        (judges_required (judges_identifier hlax) "site_id" members)).append
        (judges_required (judges_identifier hlax) "device_id" members)).append
        (judges_required (judges_sequence hlax) "sequence" members)).append
        (judges_required (@judges_time scalars formats) "device_time" members)).append
        (judges_required (judges_flag hlax) "clock_synchronized" members)).append
        (judges_required (judges_natural hlax 0) "uptime_ms" members)).append
        (judges_required (judges_version hlax) "firmware_version" members)).append
        (judges_required hquality "quality" members)).append
        (judges_required (judges_flag hlax) "replayed" members)).append
        (judges_required (judges_measurements hlax) "measurements" members)).append
        (judges_required (judges_sampleQuality hlax) "sample_quality" members)).append
        (judges_required (judges_faults hlax) "fault_flags" members)).append
        (judges_clock hlax members)
      refine hjudges.congr ?_ ?_
      · rw [validateTelemetry_isSome]
        simp only [and_assoc]
      · unfold telemetrySchema
        rw [all_validates, List.forall_mem_cons, List.forall_mem_singleton,
          closedObject_validates_all (by rfl)]
        simp only [List.forall_mem_cons, List.not_mem_nil, false_imp_iff, implies_true, and_true, and_assoc,
          Nat.cast_zero]
        rfl
  | _ =>
      exact Judges.of_verdict (by simp [validateTelemetry_not_object])
        (by simp [telemetrySchema, closedObject_not_object])

end Objects

end IiotMonitoring
