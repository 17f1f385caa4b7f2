import IiotMonitoring.Lib.TextEncoding

/-!
# Printed JSON

What is printed is plain ASCII, so that a document is read back from the bytes of its text.
-/

namespace IiotMonitoring

/-! ### Plain text -/

instance (text : Text) : Decidable (Plain text) :=
  inferInstanceAs (Decidable (∀ code ∈ text, 32 ≤ code ∧ code ≤ 126))

theorem Plain.append {left right : Text} (hleft : Plain left) (hright : Plain right) :
    Plain (left ++ right) := by
  intro code hcode
  cases List.mem_append.mp hcode with
  | inl hcode => exact hleft code hcode
  | inr hcode => exact hright code hcode

theorem Plain.cons {code : Nat} {text : Text} (hlow : 32 ≤ code) (hhigh : code ≤ 126) (h : Plain text) :
    Plain (code :: text) := by
  intro code' hcode'
  cases List.mem_cons.mp hcode' with
  | inl hsame =>
      rw [hsame]
      exact ⟨hlow, hhigh⟩
  | inr hcode' => exact h code' hcode'

theorem plain_nil : Plain [] := by
  intro code hcode
  cases hcode

theorem plain_digits (digits : Digits) : Plain digits.print := by
  intro code hcode
  obtain ⟨digit, -, rfl⟩ := List.mem_map.mp hcode
  unfold digitCode
  omega

theorem plain_printNat (value : Nat) : Plain (printNat value) := by
  intro code hcode
  obtain ⟨digit, hdigit, rfl⟩ := List.mem_map.mp hcode
  have hlt : digit < 10 := by
    unfold decimalDigits at hdigit
    split at hdigit
    · simp only [List.mem_singleton] at hdigit
      omega
    · exact Nat.digits_lt_base (by omega) (List.mem_reverse.mp hdigit)
  omega

theorem plain_exponent (exponent : JsonExponent) : Plain exponent.print := by
  have hdigits := plain_digits exponent.digits
  unfold JsonExponent.print
  refine Plain.cons (by split <;> omega) (by split <;> omega) ?_
  cases exponent.sign with
  | none => exact hdigits
  | some negative => exact Plain.cons (by split <;> omega) (by split <;> omega) hdigits

theorem plain_number (number : JsonNumber) : Plain number.print := by
  unfold JsonNumber.print
  refine ((Plain.append ?_ (plain_printNat _)).append ?_).append ?_
  · split
    · exact Plain.cons (by omega) (by omega) plain_nil
    · exact plain_nil
  · cases number.fraction with
    | none => exact plain_nil
    | some digits => exact Plain.cons (by omega) (by omega) (plain_digits digits)
  · cases number.exponent with
    | none => exact plain_nil
    | some exponent => exact plain_exponent exponent

theorem plain_hexCode {digit : Nat} (h : digit < 16) : 32 ≤ hexCode digit ∧ hexCode digit ≤ 126 := by
  unfold hexCode
  split <;> omega

theorem plain_escapeUnit (unit : Nat) : Plain (escapeUnit unit) := by
  have hhex : ∀ digit, 32 ≤ hexCode (digit % 16) ∧ hexCode (digit % 16) ≤ 126 :=
    fun digit => plain_hexCode (Nat.mod_lt digit (by omega))
  intro code hcode
  unfold escapeUnit at hcode
  simp only [List.mem_cons, List.not_mem_nil, or_false] at hcode
  rcases hcode with rfl | rfl | rfl | rfl | rfl | rfl
  · omega
  · omega
  · exact hhex _
  · exact hhex _
  · exact hhex _
  · exact hhex _

theorem plain_escapeCode (code : Nat) : Plain (escapeCode code) := by
  have htwo : ∀ escaped, 32 ≤ escaped → escaped ≤ 126 → Plain [92, escaped] := by
    intro escaped hlow hhigh
    exact Plain.cons (by omega) (by omega) (Plain.cons hlow hhigh plain_nil)
  unfold escapeCode
  split_ifs with hquoted hback htab hline hform hreturn hplain hshort
  · exact htwo code (by omega) (by omega)
  · exact htwo 98 (by omega) (by omega)
  · exact htwo 116 (by omega) (by omega)
  · exact htwo 110 (by omega) (by omega)
  · exact htwo 102 (by omega) (by omega)
  · exact htwo 114 (by omega) (by omega)
  · exact Plain.cons hplain.1 hplain.2 plain_nil
  · exact plain_escapeUnit code
  · exact (plain_escapeUnit _).append (plain_escapeUnit _)

theorem plain_string (text : Text) : Plain (printString text) := by
  unfold printString
  refine Plain.cons (by omega) (by omega) (Plain.append ?_ (Plain.cons (by omega) (by omega) plain_nil))
  intro code hcode
  obtain ⟨char, -, hcode⟩ := List.mem_flatMap.mp hcode
  exact plain_escapeCode char code hcode

theorem plain_nonFinite (literal : NonFinite) : Plain literal.print := by
  cases literal <;> decide

/-- A property of plain characters and of the white space. -/
structure JsonLayout.Allowed (layout : JsonLayout) (property : Nat → Prop) : Prop where
  plain : ∀ code, 32 ≤ code → code ≤ 126 → property code
  line : ∀ depth, ∀ code ∈ layout.line depth, property code
  colon : ∀ code ∈ layout.colon, property code

section Characters

variable {layout : JsonLayout} {property : Nat → Prop}

theorem Plain.allowed (h : layout.Allowed property) {text : Text} (htext : Plain text) :
    ∀ code ∈ text, property code :=
  fun code hcode => h.plain code (htext code hcode).1 (htext code hcode).2

mutual

/-- Every character outside ASCII is escaped. -/
theorem Json.layOut_allowed (h : layout.Allowed property) :
    ∀ (depth : Nat) (value : Json), ∀ code ∈ value.layOut layout depth, property code
  | _, .null => (show Plain (codes "null") by decide).allowed h
  | _, .bool true => (show Plain (codes "true") by decide).allowed h
  | _, .bool false => (show Plain (codes "false") by decide).allowed h
  | _, .number number => (plain_number number).allowed h
  | _, .nonFinite literal => (plain_nonFinite literal).allowed h
  | _, .string text => (plain_string text).allowed h
  | depth, .array items => by
      simp only [Json.layOut, List.forall_mem_append, List.forall_mem_cons]
      exact ⟨⟨h.plain 91 (by omega) (by omega), layOutItems_allowed h depth items⟩,
        h.plain 93 (by omega) (by omega), List.forall_mem_nil _⟩
  | depth, .object members => by
      simp only [Json.layOut, List.forall_mem_append, List.forall_mem_cons]
      exact ⟨⟨h.plain 123 (by omega) (by omega), layOutMembers_allowed h depth members⟩,
        h.plain 125 (by omega) (by omega), List.forall_mem_nil _⟩

theorem layOutItems_allowed (h : layout.Allowed property) :
    ∀ (depth : Nat) (items : List Json), ∀ code ∈ layOutItems layout depth items, property code
  | _, [] => List.forall_mem_nil _
  | depth, item :: items => by
      simp only [layOutItems, List.forall_mem_append]
      exact ⟨⟨h.line (depth + 1), item.layOut_allowed h (depth + 1)⟩,
        layOutMoreItems_allowed h depth items⟩

theorem layOutMoreItems_allowed (h : layout.Allowed property) :
    ∀ (depth : Nat) (items : List Json), ∀ code ∈ layOutMoreItems layout depth items, property code
  | depth, [] => h.line depth
  | depth, item :: items => by
      simp only [layOutMoreItems, List.forall_mem_append, List.forall_mem_cons]
      exact ⟨⟨⟨h.plain 44 (by omega) (by omega), h.line (depth + 1)⟩,
        item.layOut_allowed h (depth + 1)⟩, layOutMoreItems_allowed h depth items⟩

theorem layOutMembers_allowed (h : layout.Allowed property) :
    ∀ (depth : Nat) (members : List (Text × Json)),
      ∀ code ∈ layOutMembers layout depth members, property code
  | _, [] => List.forall_mem_nil _
  | depth, (key, value) :: members => by
      simp only [layOutMembers, List.forall_mem_append, List.forall_mem_cons]
      exact ⟨⟨⟨⟨h.line (depth + 1), (plain_string key).allowed h⟩, h.plain 58 (by omega) (by omega),
        h.colon⟩, value.layOut_allowed h (depth + 1)⟩, layOutMoreMembers_allowed h depth members⟩

theorem layOutMoreMembers_allowed (h : layout.Allowed property) :
    ∀ (depth : Nat) (members : List (Text × Json)),
      ∀ code ∈ layOutMoreMembers layout depth members, property code
  | depth, [] => h.line depth
  | depth, (key, value) :: members => by
      simp only [layOutMoreMembers, List.forall_mem_append, List.forall_mem_cons]
      exact ⟨⟨⟨⟨⟨h.plain 44 (by omega) (by omega), h.line (depth + 1)⟩, (plain_string key).allowed h⟩,
        h.plain 58 (by omega) (by omega), h.colon⟩, value.layOut_allowed h (depth + 1)⟩,
        layOutMoreMembers_allowed h depth members⟩

end

end Characters

theorem JsonLayout.compact_allowed : JsonLayout.compact.Allowed fun code => 32 ≤ code ∧ code ≤ 126 :=
  ⟨fun _ hlow hhigh => ⟨hlow, hhigh⟩, fun _ => List.forall_mem_nil _, List.forall_mem_nil _⟩

theorem Json.plain_print (value : Json) : Plain value.print := by
  rw [← value.layOut_compact 0]
  exact value.layOut_allowed JsonLayout.compact_allowed 0

theorem jsonLoads_restorable {limits : JsonLimits} {value : Json}
    (hvalue : value.Restorable limits limits.nesting) :
    jsonLoads limits (plainBytes value.print) = .ok value := by
  have hread := parseJson_layOut .compact hvalue (List.forall_mem_nil _)
  rw [List.append_nil, Json.layOut_compact] at hread
  rw [jsonLoads_ascii limits value.plain_print, hread]

theorem jsonLoads_print {limits : JsonLimits} {value : Json}
    (hreadable : value.Readable limits limits.nesting) :
    jsonLoads limits (plainBytes value.print) = .ok value := jsonLoads_restorable hreadable.restorable

/-! ### Documents that are read back -/

instance (limits : JsonLimits) (number : JsonNumber) : Decidable (number.Within limits) :=
  inferInstanceAs (Decidable (_ = true → _))

mutual

def Json.decidableReadable (limits : JsonLimits) :
    (nesting : Nat) → (value : Json) → Decidable (value.Readable limits nesting)
  | _, .null => .isTrue trivial
  | _, .bool _ => .isTrue trivial
  | _, .number number => inferInstanceAs (Decidable (number.Within limits))
  | _, .nonFinite _ => .isTrue trivial
  | _, .string text => inferInstanceAs (Decidable (Plain text))
  | nesting, .array items =>
      @instDecidableAnd _ _ (inferInstanceAs (Decidable (0 < nesting)))
        (decidableReadableItems limits (nesting - 1) items)
  | nesting, .object members =>
      @instDecidableAnd _ _ (inferInstanceAs (Decidable (0 < nesting)))
        (decidableReadableMembers limits (nesting - 1) members)

def decidableReadableItems (limits : JsonLimits) :
    (nesting : Nat) → (items : List Json) → Decidable (ReadableItems limits nesting items)
  | _, [] => .isTrue trivial
  | nesting, item :: items =>
      @instDecidableAnd _ _ (Json.decidableReadable limits nesting item)
        (decidableReadableItems limits nesting items)

def decidableReadableMembers (limits : JsonLimits) :
    (nesting : Nat) → (members : List (Text × Json)) →
      Decidable (ReadableMembers limits nesting members)
  | _, [] => .isTrue trivial
  | nesting, (key, value) :: members =>
      @instDecidableAnd _ _ (inferInstanceAs (Decidable (Plain key)))
        (@instDecidableAnd _ _ (Json.decidableReadable limits nesting value)
          (decidableReadableMembers limits nesting members))

end

instance (limits : JsonLimits) (nesting : Nat) (value : Json) :
    Decidable (value.Readable limits nesting) := Json.decidableReadable limits nesting value

/-! ### Lengths -/

theorem length_escapeCode_le (code : Nat) : (escapeCode code).length ≤ 12 := by
  unfold escapeCode
  repeat' split
  all_goals simp [escapeUnit]

theorem length_printString_le (text : Text) : (printString text).length ≤ 12 * text.length + 2 := by
  have hescaped : (text.flatMap escapeCode).length ≤ 12 * text.length := by
    induction text with
    | nil => exact Nat.zero_le _
    | cons code text ih =>
        have hcode := length_escapeCode_le code
        rw [List.flatMap_cons, List.length_append, List.length_cons]
        omega
  rw [printString, List.length_append, List.length_cons, List.length_singleton]
  omega

theorem length_printNat_le {value count : Nat} (h : value < 10 ^ (count + 1)) :
    (printNat value).length ≤ count + 1 := by
  rw [printNat, List.length_map, decimalDigits]
  split
  · exact Nat.le_add_left 1 count
  · rw [List.length_reverse]
    exact (Nat.digits_length_le_iff (by decide) value).mpr h

end IiotMonitoring
