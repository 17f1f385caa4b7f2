import IiotMonitoring.Lib.JsonParse
import Mathlib.Data.Rat.Lemmas

/-!
# JSON Schema

The keywords of JSON Schema as constructors, with what it means that a value is valid. A schema object
is the conjunction of its keywords. Numbers are compared by what they denote, and of the members of an
object with one key the last counts.
-/

namespace IiotMonitoring

/-- The member of a key, the last where it is repeated. -/
def findMember (key : Text) : List (Text × Json) → Option Json
  | [] => none
  | (key', value) :: members => (findMember key members).or (if key' = key then some value else none)

/-- Values that denote the same. -/
inductive Json.Same : Json → Json → Prop where
  | null : Same .null .null
  | bool (value : Bool) : Same (.bool value) (.bool value)
  | number {left right : JsonNumber} (h : left.value = right.value) :
      Same (.number left) (.number right)
  | string (text : Text) : Same (.string text) (.string text)
  | array {left right : List Json} (hlength : left.length = right.length)
      (h : ∀ (place : Nat) (item item' : Json), left[place]? = some item → right[place]? = some item' →
        Same item item') : Same (.array left) (.array right)
  | object {left right : List (Text × Json)}
      (hkeys : ∀ key, (findMember key left).isSome = (findMember key right).isSome)
      (h : ∀ key value value', findMember key left = some value → findMember key right = some value' →
        Same value value') : Same (.object left) (.object right)

inductive JsonType where
  | null | boolean | integer | number | string | array | object
  deriving DecidableEq, Repr

/-- A number is an integer if its fraction is zero, however it is written. -/
def Json.HasType (value : Json) : JsonType → Prop
  | .null => value = .null
  | .boolean => ∃ flag, value = .bool flag
  | .integer => ∃ number, value = .number number ∧ number.value.den = 1
  | .number => ∃ number, value = .number number
  | .string => ∃ text, value = .string text
  | .array => ∃ items, value = .array items
  | .object => ∃ members, value = .object members

inductive JsonSchema where
  /-- A schema object. -/
  | all (keywords : List JsonSchema)
  | type (types : List JsonType)
  | const (value : Json)
  | enum (values : List Json)
  | minimum (bound : ℚ)
  | maximum (bound : ℚ)
  | pattern (accepts : Text → Bool)
  | format (accepts : Text → Bool)
  | maxLength (length : Nat)
  | required (names : List Text)
  | properties (schemas : List (Text × JsonSchema))
  /-- `additionalProperties` is false; the names are those of `properties`. -/
  | noAdditional (names : List Text)
  | uniqueItems
  | maxItems (length : Nat)
  | items (schema : JsonSchema)
  | ifThen (condition consequence : JsonSchema)

mutual

/-- A keyword that is about another type than the value's holds. -/
def JsonSchema.Validates : JsonSchema → Json → Prop
  | .all keywords, value => AllValidate keywords value
  | .type types, value => ∃ type ∈ types, value.HasType type
  | .const expected, value => value.Same expected
  | .enum values, value => ∃ expected ∈ values, value.Same expected
  | .minimum bound, value => ∀ number, value = .number number → bound ≤ number.value
  | .maximum bound, value => ∀ number, value = .number number → number.value ≤ bound
  | .pattern accepts, value => ∀ text, value = .string text → accepts text = true
  | .format accepts, value => ∀ text, value = .string text → accepts text = true
  | .maxLength length, value => ∀ text, value = .string text → text.length ≤ length
  | .required names, value =>
      ∀ members, value = .object members → ∀ name ∈ names, (findMember name members).isSome
  | .properties schemas, value => ∀ members, value = .object members → PropertiesValidate schemas members
  | .noAdditional names, value =>
      ∀ members, value = .object members → ∀ member ∈ members, member.1 ∈ names
  | .uniqueItems, value =>
      ∀ items, value = .array items → items.Pairwise fun left right => ¬ left.Same right
  | .maxItems length, value => ∀ items, value = .array items → items.length ≤ length
  | .items schema, value => ∀ items, value = .array items → ∀ item ∈ items, schema.Validates item
  | .ifThen condition consequence, value => condition.Validates value → consequence.Validates value

def AllValidate : List JsonSchema → Json → Prop
  | [], _ => True
  | keyword :: keywords, value => keyword.Validates value ∧ AllValidate keywords value

/-- Each property that is there is valid. -/
def PropertiesValidate : List (Text × JsonSchema) → List (Text × Json) → Prop
  | [], _ => True
  | (name, schema) :: schemas, members =>
      (∀ value, findMember name members = some value → schema.Validates value) ∧
        PropertiesValidate schemas members

end

mutual

/-- Without the number literals that JSON does not have. -/
def Json.isFinite : Json → Bool
  | .nonFinite _ => false
  | .array items => areFinite items
  | .object members => membersFinite members
  | .null | .bool _ | .number _ | .string _ => true

def areFinite : List Json → Bool
  | [] => true
  | item :: items => item.isFinite && areFinite items

def membersFinite : List (Text × Json) → Bool
  | [] => true
  | (_, value) :: members => value.isFinite && membersFinite members

end

/-! ### Equal values -/

theorem same_string_iff {value : Json} {text : Text} : value.Same (.string text) ↔ value = .string text := by
  constructor
  · intro h
    cases h with
    | string => rfl
  · rintro rfl
    exact .string text

theorem same_bool_iff {value : Json} {flag : Bool} : value.Same (.bool flag) ↔ value = .bool flag := by
  constructor
  · intro h
    cases h with
    | bool => rfl
  · rintro rfl
    exact .bool flag

theorem same_number_iff {value : Json} {number : JsonNumber} :
    value.Same (.number number) ↔ ∃ other, value = .number other ∧ other.value = number.value := by
  constructor
  · intro h
    cases h with
    | number hvalue => exact ⟨_, rfl, hvalue⟩
  · rintro ⟨other, rfl, hvalue⟩
    exact .number hvalue

/-! ### Integers -/

theorem JsonNumber.value_of_isInteger {number : JsonNumber} (h : number.isInteger = true) :
    number.value = ((if number.negative then -(number.whole : Int) else number.whole : Int) : ℚ) := by
  unfold JsonNumber.isInteger at h
  rw [Bool.and_eq_true, Option.isNone_iff_eq_none, Option.isNone_iff_eq_none] at h
  obtain ⟨hfraction, hexponent⟩ := h
  unfold JsonNumber.value
  rw [hfraction, hexponent]
  cases number.negative with
  | true => simp
  | false => simp

/-- An integer literal denotes an integer. -/
theorem JsonNumber.num_of_isInteger {number : JsonNumber} (h : number.isInteger = true) :
    (number.value.num : ℚ) = number.value ∧ number.value.den = 1 := by
  rw [JsonNumber.value_of_isInteger h]
  exact ⟨by rw [Rat.num_intCast], Rat.den_intCast _⟩

/-! ### One keyword -/

section Keywords

variable (value : Json)

@[simp]
theorem validates_all (keywords : List JsonSchema) :
    (JsonSchema.all keywords).Validates value ↔ AllValidate keywords value := Iff.rfl

@[simp]
theorem allValidate_nil : AllValidate [] value ↔ True := Iff.rfl

@[simp]
theorem allValidate_cons (keyword : JsonSchema) (keywords : List JsonSchema) :
    AllValidate (keyword :: keywords) value ↔ keyword.Validates value ∧ AllValidate keywords value :=
  Iff.rfl

@[simp]
theorem validates_type (types : List JsonType) :
    (JsonSchema.type types).Validates value ↔ ∃ type ∈ types, value.HasType type := Iff.rfl

@[simp]
theorem validates_minimum (bound : ℚ) :
    (JsonSchema.minimum bound).Validates value ↔
      ∀ number, value = .number number → bound ≤ number.value := Iff.rfl

@[simp]
theorem validates_maximum (bound : ℚ) :
    (JsonSchema.maximum bound).Validates value ↔
      ∀ number, value = .number number → number.value ≤ bound := Iff.rfl

@[simp]
theorem validates_pattern (accepts : Text → Bool) :
    (JsonSchema.pattern accepts).Validates value ↔
      ∀ text, value = .string text → accepts text = true := Iff.rfl

@[simp]
theorem validates_format (accepts : Text → Bool) :
    (JsonSchema.format accepts).Validates value ↔
      ∀ text, value = .string text → accepts text = true := Iff.rfl

@[simp]
theorem validates_maxLength (length : Nat) :
    (JsonSchema.maxLength length).Validates value ↔
      ∀ text, value = .string text → text.length ≤ length := Iff.rfl

@[simp]
theorem validates_uniqueItems :
    JsonSchema.uniqueItems.Validates value ↔
      ∀ items, value = .array items → items.Pairwise fun left right => ¬ left.Same right := Iff.rfl

@[simp]
theorem validates_maxItems (length : Nat) :
    (JsonSchema.maxItems length).Validates value ↔
      ∀ items, value = .array items → items.length ≤ length := Iff.rfl

@[simp]
theorem validates_items (schema : JsonSchema) :
    (JsonSchema.items schema).Validates value ↔
      ∀ items, value = .array items → ∀ item ∈ items, schema.Validates item := Iff.rfl

end Keywords

/-! ### Keywords together -/

theorem all_validates (keywords : List JsonSchema) (value : Json) :
    (JsonSchema.all keywords).Validates value ↔ ∀ keyword ∈ keywords, keyword.Validates value := by
  rw [validates_all]
  induction keywords with
  | nil => simp
  | cons keyword keywords ih =>
      rw [List.forall_mem_cons, ← ih]
      rfl

theorem propertiesValidate_iff (schemas : List (Text × JsonSchema)) (members : List (Text × Json)) :
    PropertiesValidate schemas members ↔ ∀ property ∈ schemas, ∀ value,
      findMember property.1 members = some value → property.2.Validates value := by
  induction schemas with
  | nil => simp [PropertiesValidate]
  | cons property schemas ih =>
      rw [List.forall_mem_cons, ← ih]
      rfl

theorem integer_validates (low : ℚ) (value : Json) :
    (JsonSchema.all [.type [.integer], .minimum low]).Validates value ↔
      ∃ number, value = .number number ∧ number.value.den = 1 ∧ low ≤ number.value := by
  cases value with
  | _ => simp [Json.HasType]

theorem boundedInteger_validates (low high : ℚ) (value : Json) :
    (JsonSchema.all [.type [.integer], .minimum low, .maximum high]).Validates value ↔
      ∃ number, value = .number number ∧ number.value.den = 1 ∧ low ≤ number.value ∧
        number.value ≤ high := by
  cases value with
  | _ => simp [Json.HasType]

theorem flag_validates (value : Json) :
    (JsonSchema.type [.boolean]).Validates value ↔ ∃ flag, value = .bool flag := by
  simp [Json.HasType]

theorem format_validates (accepts : Text → Bool) (value : Json) :
    (JsonSchema.all [.type [.string], .format accepts]).Validates value ↔
      ∃ text, value = .string text ∧ accepts text = true := by
  cases value with
  | _ => simp [Json.HasType]

theorem optionalFormat_validates (accepts : Text → Bool) (value : Json) :
    (JsonSchema.all [.type [.string, .null], .format accepts]).Validates value ↔
      value = .null ∨ ∃ text, value = .string text ∧ accepts text = true := by
  cases value with
  | _ => simp [Json.HasType]

theorem pattern_validates (accepts : Text → Bool) (value : Json) :
    (JsonSchema.all [.type [.string], .pattern accepts]).Validates value ↔
      ∃ text, value = .string text ∧ accepts text = true := by
  cases value with
  | _ => simp [Json.HasType]

theorem boundedPattern_validates (accepts : Text → Bool) (length : Nat) (value : Json) :
    (JsonSchema.all [.type [.string], .pattern accepts, .maxLength length]).Validates value ↔
      ∃ text, value = .string text ∧ accepts text = true ∧ text.length ≤ length := by
  cases value with
  | _ => simp [Json.HasType]

theorem optionalText_validates (length : Nat) (value : Json) :
    (JsonSchema.all [.type [.string, .null], .maxLength length]).Validates value ↔
      value = .null ∨ ∃ text, value = .string text ∧ text.length ≤ length := by
  cases value with
  | _ => simp [Json.HasType]

theorem patterns_validates (accepts : Text → Bool) (texts : List Text) :
    (∀ item ∈ texts.map Json.string, (JsonSchema.all [.type [.string], .pattern accepts]).Validates item) ↔
      ∀ text ∈ texts, accepts text = true := by
  rw [List.forall_mem_map]
  simp only [pattern_validates, Json.string.injEq, exists_eq_left']

theorem strings_of_validates {accepts : Text → Bool} {items : List Json}
    (h : ∀ item ∈ items, (JsonSchema.all [.type [.string], .pattern accepts]).Validates item) :
    ∃ texts : List Text, items = texts.map .string := by
  induction items with
  | nil => exact ⟨[], rfl⟩
  | cons item items ih =>
      obtain ⟨texts, rfl⟩ := ih fun item hitem => h item (List.mem_cons_of_mem _ hitem)
      obtain ⟨text, rfl, -⟩ := (pattern_validates accepts item).mp (h item (List.mem_cons_self ..))
      exact ⟨text :: texts, rfl⟩

theorem unique_strings (texts : List Text) :
    ((texts.map Json.string).Pairwise fun left right => ¬ left.Same right) ↔ texts.Nodup := by
  rw [List.pairwise_map, List.nodup_iff_pairwise_ne]
  simp only [same_string_iff, Json.string.injEq, ne_eq]

theorem array_validates (schema : JsonSchema) (length : Nat) (value : Json) :
    (JsonSchema.all [.type [.array], .uniqueItems, .maxItems length, .items schema]).Validates value ↔
      ∃ items, value = .array items ∧ (items.Pairwise fun left right => ¬ left.Same right) ∧
        items.length ≤ length ∧ ∀ item ∈ items, schema.Validates item := by
  cases value with
  | _ => simp [Json.HasType]

end IiotMonitoring
