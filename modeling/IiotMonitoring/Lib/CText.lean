import Mathlib.Data.List.TakeWhile

/-!
# Strings in byte arrays

A C string in an array of fixed size: the bytes before the terminator, and the write that puts a
string with its terminator at the front and leaves the rest of the array as it was.
-/

namespace IiotMonitoring

variable {size : Nat}

/-- The string an array holds; all of the array where nothing terminates it. -/
def cText (array : Vector UInt8 size) : List UInt8 := array.toList.takeWhile (· ≠ 0)

def storeText (array : Vector UInt8 size) (text : List UInt8) : Vector UInt8 size :=
  Vector.ofFn fun index =>
    if index.val = text.length then 0 else text.getD index (array.get index)

/-- `snprintf` of one string, cut to what the array holds with a terminator. -/
def printText (array : Vector UInt8 size) (text : List UInt8) : Vector UInt8 size :=
  storeText array (text.take (size - 1))

theorem ne_zero_of_mem_cText {array : Vector UInt8 size} {byte : UInt8} (h : byte ∈ cText array) :
    byte ≠ 0 := by
  have hkept := List.mem_takeWhile_imp h
  exact of_decide_eq_true hkept

theorem length_cText_le (array : Vector UInt8 size) : (cText array).length ≤ size :=
  (List.takeWhile_sublist _).length_le.trans_eq array.length_toList

/-- What fits is read back. -/
theorem cText_storeText {array : Vector UInt8 size} {text : List UInt8} (hfits : text.length < size)
    (htext : ∀ byte ∈ text, byte ≠ 0) : cText (storeText array text) = text := by
  have hsplit : (storeText array text).toList =
      text ++ 0 :: (storeText array text).toList.drop (text.length + 1) := by
    apply List.ext_getElem
    · simp
      omega
    · intro index hleft hright
      simp only [storeText, Vector.getElem_toList, Vector.getElem_ofFn]
      by_cases hbefore : index < text.length
      · rw [if_neg (by omega), List.getElem_append_left hbefore]
        simp [hbefore]
      · rw [List.getElem_append_right (by omega)]
        by_cases hend : index = text.length
        · simp [hend]
        · obtain ⟨rest, hrest⟩ : ∃ rest, index - text.length = rest + 1 :=
            ⟨index - text.length - 1, by omega⟩
          simp only [hrest, List.getElem_cons_succ, List.getElem_drop]
          simp [hend, show text.length + 1 + rest = index by omega]
  rw [cText, hsplit, List.takeWhile_append_of_pos (by simpa using htext)]
  simp

theorem cText_printText {array : Vector UInt8 size} {text : List UInt8} (hfits : text.length < size)
    (htext : ∀ byte ∈ text, byte ≠ 0) : cText (printText array text) = text := by
  rw [printText, List.take_of_length_le (by omega), cText_storeText hfits htext]

/-- A string that a pointer leads to: the bytes before its terminator. -/
structure CString where
  bytes : List UInt8
  terminated : ∀ byte ∈ bytes, byte ≠ 0

/-- The string in an array. -/
def cString (array : Vector UInt8 size) : CString := ⟨cText array, fun _ => ne_zero_of_mem_cText⟩

end IiotMonitoring
