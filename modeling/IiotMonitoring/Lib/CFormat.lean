import IiotMonitoring.Lib.CText
import IiotMonitoring.Lib.TextEncoding
import Mathlib.Data.List.GetD

/-!
# Formatted text

What `snprintf` writes: a decimal number, and a text that is cut where its room ends, in an array or in
memory that goes on after it.
-/

namespace IiotMonitoring

/-! ### Numbers -/

/-- `%u`. -/
def printUnsigned (value : Nat) : List UInt8 := plainBytes (printNat value)

/-- `%d`. -/
def printSigned (value : Int) : List UInt8 :=
  plainBytes ((if value < 0 then [45] else []) ++ printNat value.natAbs)

theorem length_decimalDigits_le {value width : Nat} (hwidth : 1 ≤ width) (hvalue : value < 10 ^ width) :
    (decimalDigits value).length ≤ width := by
  unfold decimalDigits
  split_ifs with hzero
  · exact hwidth
  · rw [List.length_reverse]
    exact (Nat.digits_length_le_iff (by decide) value).mpr hvalue

theorem length_printUnsigned_le {value width : Nat} (hwidth : 1 ≤ width)
    (hvalue : value < 10 ^ width) : (printUnsigned value).length ≤ width := by
  unfold printUnsigned plainBytes printNat
  rw [List.length_map, List.length_map]
  exact length_decimalDigits_le hwidth hvalue

theorem mem_decimalDigits_lt {value digit : Nat} (h : digit ∈ decimalDigits value) : digit < 10 := by
  unfold decimalDigits at h
  split_ifs at h with hzero
  · rw [List.mem_singleton] at h
    omega
  · exact Nat.digits_lt_base (by decide) (List.mem_reverse.mp h)

/-- The characters of a number are digits. -/
theorem mem_printNat {value code : Nat} (h : code ∈ printNat value) : 48 ≤ code ∧ code ≤ 57 := by
  obtain ⟨digit, hdigit, rfl⟩ := List.mem_map.mp h
  have hlt := mem_decimalDigits_lt hdigit
  omega

theorem mem_printUnsigned_ne_zero {value : Nat} {byte : UInt8} (h : byte ∈ printUnsigned value) :
    byte ≠ 0 := by
  obtain ⟨code, hcode, rfl⟩ := List.mem_map.mp h
  have hrange := mem_printNat hcode
  exact (byte_plain (by omega) (by omega)).1

/-! ### Cut texts -/

variable {size : Nat}

/-- A text is read back up to the byte before the array's last. -/
theorem cText_printText_take {array : Vector UInt8 size} {text : List UInt8} (hsize : 0 < size)
    (htext : ∀ byte ∈ text, byte ≠ 0) : cText (printText array text) = text.take (size - 1) := by
  apply cText_storeText
  · rw [List.length_take]
    omega
  · exact fun byte hbyte => htext byte (List.mem_of_mem_take hbyte)

/-! ### Memory -/

/-- Bytes by their distance from a pointer. -/
abbrev Memory := Nat → UInt8

/-- The text as it fits into `room` bytes from `start` on, with its terminator. -/
def Memory.print (memory : Memory) (start room : Nat) (text : List UInt8) : Memory := fun address =>
  let kept := text.take (room - 1)
  if room = 0 ∨ address < start ∨ start + kept.length < address then memory address
  else kept.getD (address - start) 0

namespace Memory

variable {memory : Memory} {start room address : Nat} {text : List UInt8}

theorem print_before (h : address < start) : memory.print start room text address = memory address :=
  if_pos (.inr (.inl h))

/-- Nothing is written past the room. -/
theorem print_after (h : start + room ≤ address) :
    memory.print start room text address = memory address := by
  have hkept := List.length_take_le (room - 1) text
  by_cases hroom : room = 0
  · exact if_pos (.inl hroom)
  · exact if_pos (.inr (.inr (by omega)))

theorem print_within (hroom : 0 < room) (hstart : start ≤ address)
    (haddress : address ≤ start + (text.take (room - 1)).length) :
    memory.print start room text address = (text.take (room - 1)).getD (address - start) 0 :=
  if_neg (by omega)

theorem print_cut (memory : Memory) (start : Nat) {cut : List UInt8}
    (h : text.take (room - 1) = cut.take (room - 1)) :
    memory.print start room text = memory.print start room cut := by
  unfold print
  rw [h]

/-- A text after a text that fits. -/
theorem print_append (memory : Memory) (start : Nat) {first second : List UInt8}
    (hfits : first.length < room) :
    (memory.print start room first).print (start + first.length) (room - first.length) second =
      memory.print start room (first ++ second) := by
  have hfirst : first.take (room - 1) = first := List.take_of_length_le (by omega)
  have hboth : (first ++ second).take (room - 1) =
      first ++ second.take (room - first.length - 1) := by
    rw [List.take_append, hfirst]
    congr 2
    omega
  funext address
  by_cases hbefore : address < start + first.length
  · rw [print_before hbefore]
    by_cases hstart : address < start
    · rw [print_before hstart, print_before hstart]
    · rw [print_within (by omega) (by omega) (by rw [hfirst]; omega),
        print_within (by omega) (by omega) (by rw [hboth, List.length_append]; omega), hfirst, hboth,
        List.getD_append _ _ _ _ (by omega)]
  · by_cases hend : start + first.length + (second.take (room - first.length - 1)).length < address
    · have hkept : start + ((first ++ second).take (room - 1)).length < address := by
        rw [hboth, List.length_append]
        omega
      unfold print
      rw [if_pos (.inr (.inr hend)), if_pos (.inr (.inr (by rw [hfirst]; omega))),
        if_pos (.inr (.inr hkept))]
    · rw [print_within (by omega) (by omega) (by omega),
        print_within (by omega) (by omega) (by rw [hboth, List.length_append]; omega), hboth,
        List.getD_append_right _ _ _ _ (by omega)]
      congr 1
      omega

/-- What fits stands there, and ends. -/
theorem print_fits (hfits : text.length < room) :
    (List.range text.length).map (fun index => memory.print start room text (start + index)) = text ∧
      memory.print start room text (start + text.length) = 0 := by
  have hkept : text.take (room - 1) = text := List.take_of_length_le (by omega)
  constructor
  · apply List.ext_getElem
    · simp
    · intro index hleft hright
      rw [List.getElem_map, List.getElem_range,
        print_within (by omega) (by omega) (by rw [hkept]; omega), hkept, Nat.add_sub_cancel_left,
        List.getD_eq_getElem _ _ hright]
  · rw [print_within (by omega) (by omega) (by rw [hkept]), hkept, Nat.add_sub_cancel_left,
      List.getD_eq_default _ _ (le_refl _)]

end Memory

end IiotMonitoring
