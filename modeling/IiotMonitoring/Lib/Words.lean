import Mathlib.Data.List.Basic

/-!
# Big-endian words

Sixteen-bit words sent high byte first, as registers of a bus are. A byte string of even length and
a list of words determine each other.
-/

namespace IiotMonitoring

/-- The word of a high and a low byte. -/
def joinWord (high low : UInt8) : UInt16 := high.toUInt16 <<< 8 ||| low.toUInt16

def wordBytes (word : UInt16) : List UInt8 := [(word >>> 8).toUInt8, word.toUInt8]

/-- The words of a byte string. A last byte without a partner is not read. -/
def bytesWords : List UInt8 → List UInt16
  | high :: low :: rest => joinWord high low :: bytesWords rest
  | _ => []

theorem joinWord_toNat (high low : UInt8) :
    (joinWord high low).toNat = high.toNat * 256 + low.toNat := by
  have hhigh := high.toNat_lt
  have hlow := low.toNat_lt
  have hshift : (high.toUInt16 <<< 8).toNat = high.toNat * 256 := by
    rw [UInt16.toNat_shiftLeft, UInt8.toNat_toUInt16, Nat.shiftLeft_eq]
    exact Nat.mod_eq_of_lt (by simp; omega)
  rw [joinWord, UInt16.toNat_or, hshift, UInt8.toNat_toUInt16, Nat.mul_comm,
    show (256 : Nat) = 2 ^ 8 by decide, ← Nat.two_pow_add_eq_or_of_lt hlow]

theorem toNat_high (word : UInt16) : (word >>> 8).toUInt8.toNat = word.toNat / 256 := by
  have hword := word.toNat_lt
  rw [UInt16.toNat_toUInt8, UInt16.toNat_shiftRight, Nat.shiftRight_eq_div_pow]
  exact Nat.mod_eq_of_lt (by simp; omega)

@[simp]
theorem joinWord_split (word : UInt16) : joinWord (word >>> 8).toUInt8 word.toUInt8 = word := by
  apply UInt16.toNat.inj
  rw [joinWord_toNat, toNat_high, UInt16.toNat_toUInt8]
  omega

@[simp]
theorem joinWord_high (high low : UInt8) : (joinWord high low >>> 8).toUInt8 = high := by
  apply UInt8.toNat.inj
  have hlow := low.toNat_lt
  rw [toNat_high, joinWord_toNat]
  omega

@[simp]
theorem joinWord_low (high low : UInt8) : (joinWord high low).toUInt8 = low := by
  apply UInt8.toNat.inj
  have hlow := low.toNat_lt
  rw [UInt16.toNat_toUInt8, joinWord_toNat]
  omega

/-- Words sent are the words read. -/
theorem bytesWords_flatMap (words : List UInt16) : bytesWords (words.flatMap wordBytes) = words := by
  induction words with
  | nil => simp [bytesWords]
  | cons word words ih => simp [wordBytes, bytesWords, ih]

theorem length_flatMap_wordBytes (words : List UInt16) :
    (words.flatMap wordBytes).length = 2 * words.length := by
  induction words with
  | nil => simp
  | cons word words ih =>
      rw [List.flatMap_cons, List.length_append, ih, List.length_cons]
      simp only [wordBytes, List.length_cons, List.length_nil]
      omega

/-! ### Flags -/

theorem or_and_mask (flags mask : UInt16) : (flags ||| mask) &&& mask = mask := by
  apply UInt16.toBitVec_inj.mp
  ext index
  simp only [UInt16.toBitVec_and, UInt16.toBitVec_or, BitVec.getElem_and, BitVec.getElem_or]
  cases flags.toBitVec[index] <;> simp

theorem and_not_and_mask (flags mask : UInt16) : (flags &&& ~~~mask) &&& mask = 0 := by
  rw [UInt16.and_assoc, UInt16.not_and_self, UInt16.and_zero]

/-- Flags outside a mask do not show through it. -/
theorem or_and_of_disjoint {kept mask : UInt16} (hdisjoint : kept &&& mask = 0) (flags : UInt16) :
    (kept ||| flags) &&& mask = flags &&& mask := by
  apply UInt16.toBitVec_inj.mp
  ext index hindex
  have hbit := congrArg (fun word : UInt16 => word.toBitVec[index]) hdisjoint
  simp only [UInt16.toBitVec_and, UInt16.toBitVec_or, BitVec.getElem_and, BitVec.getElem_or] at hbit ⊢
  rw [Bool.and_or_distrib_right, hbit]
  simp

end IiotMonitoring
