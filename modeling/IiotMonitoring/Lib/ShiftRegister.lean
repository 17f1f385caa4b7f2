import IiotMonitoring.Lib.Layout
import Mathlib.Algebra.Ring.Parity
import Mathlib.Logic.Function.Iterate

/-!
# Shift-register checksums

A register takes a message in bit by bit. At each step its low bit leaves it, and where a one leaves,
the polynomial is added. Over exclusive or this is linear, so what an error on the line does to the
register depends on the error alone.

A polynomial with its highest bit set loses nothing at a step, so an error no longer than the register
is always noticed. With a polynomial of an odd number of bits the register keeps the parity of what it
took in, so an error of an odd number of bits is noticed too.
-/

namespace IiotMonitoring

namespace ShiftRegister

section Register

variable {w : Nat} (poly : BitVec w)

/-- The register after its low bit left. -/
def shiftOut (register : BitVec w) : BitVec w :=
  if register.getLsbD 0 then register >>> 1 ^^^ poly else register >>> 1

/-- A bit in the lowest place of a register. -/
def lowBit (bit : Bool) : BitVec w := BitVec.setWidth w (BitVec.ofBool bit)

def shiftIn (register : BitVec w) (bit : Bool) : BitVec w := shiftOut poly (register ^^^ lowBit bit)

/-- The register after a message. -/
def feed (register : BitVec w) (bits : List Bool) : BitVec w := bits.foldl (shiftIn poly) register

/-- The lowest bits of a word, in the order they leave it. -/
def bitsOf (count : Nat) (word : BitVec w) : List Bool := (List.range count).map word.getLsbD

/-! ### Linearity -/

theorem shiftOut_zero : shiftOut poly 0#w = 0#w := by simp [shiftOut]

theorem shiftOut_xor (left right : BitVec w) :
    shiftOut poly (left ^^^ right) = shiftOut poly left ^^^ shiftOut poly right := by
  unfold shiftOut
  simp only [BitVec.getLsbD_xor, BitVec.ushiftRight_xor_distrib]
  cases left.getLsbD 0 <;> cases right.getLsbD 0
  · rfl
  · simp only [Bool.false_xor, if_true, Bool.false_eq_true, if_false, BitVec.xor_assoc]
  · simp only [Bool.xor_false, if_true, Bool.false_eq_true, if_false]
    ac_rfl
  · simp only [Bool.xor_self, if_true, Bool.false_eq_true, if_false]
    rw [BitVec.xor_assoc, BitVec.xor_comm (right >>> 1) poly, ← BitVec.xor_assoc poly poly,
      BitVec.xor_self, BitVec.zero_xor]

theorem lowBit_xor (left right : Bool) :
    (lowBit (left ^^ right) : BitVec w) = lowBit left ^^^ lowBit right := by
  cases left <;> cases right <;> simp [lowBit]

theorem shiftIn_xor (left right : BitVec w) (bit noise : Bool) :
    shiftIn poly (left ^^^ right) (bit ^^ noise) =
      shiftIn poly left bit ^^^ shiftIn poly right noise := by
  unfold shiftIn
  rw [← shiftOut_xor, lowBit_xor]
  congr 1
  ac_rfl

theorem feed_xor (left right : BitVec w) {bits noise : List Bool}
    (hlength : bits.length = noise.length) :
    feed poly (left ^^^ right) (List.zipWith (· ^^ ·) bits noise) =
      feed poly left bits ^^^ feed poly right noise := by
  induction bits generalizing left right noise with
  | nil =>
      obtain rfl := List.length_eq_zero_iff.mp hlength.symm
      rfl
  | cons bit bits ih =>
      cases noise with
      | nil => simp at hlength
      | cons flip noise =>
          have hstep := ih (shiftIn poly left bit) (shiftIn poly right flip)
            (Nat.succ.inj hlength)
          rw [← shiftIn_xor] at hstep
          exact hstep

theorem feed_append (register : BitVec w) (left right : List Bool) :
    feed poly register (left ++ right) = feed poly (feed poly register left) right :=
  List.foldl_append

/-- The effect of an error is that of the error alone. -/
theorem feed_error (register : BitVec w) {bits noise : List Bool}
    (hlength : bits.length = noise.length) :
    feed poly register (List.zipWith (· ^^ ·) bits noise) =
      feed poly register bits ^^^ feed poly 0#w noise := by
  have hxor := feed_xor poly register 0#w hlength
  rwa [BitVec.xor_zero] at hxor

theorem feed_zeros (count : Nat) : feed poly 0#w (List.replicate count false) = 0#w := by
  induction count with
  | zero => rfl
  | succ count ih =>
      have hstep : shiftIn poly 0#w false = 0#w := by simp [shiftIn, lowBit, shiftOut_zero]
      rw [List.replicate_succ, feed, List.foldl_cons, hstep]
      exact ih

/-! ### Words -/

theorem bitsOf_succ (count : Nat) (word : BitVec w) :
    bitsOf (count + 1) word = word.getLsbD 0 :: bitsOf count (word >>> 1) := by
  simp [bitsOf, List.range_succ_eq_map, Nat.add_comm]

theorem getLsbD_of_bitsOf {count : Nat} {left right : BitVec w}
    (hbits : bitsOf count left = bitsOf count right) {index : Nat} (hindex : index < count) :
    left.getLsbD index = right.getLsbD index :=
  List.map_inj_left.mp hbits index (List.mem_range.mpr hindex)

theorem bitsOf_injective {left right : BitVec w} (hbits : bitsOf w left = bitsOf w right) :
    left = right :=
  BitVec.eq_of_getLsbD_eq fun _ hindex => getLsbD_of_bitsOf hbits hindex

theorem bitsOf_xor (count : Nat) (left right : BitVec w) :
    bitsOf count (left ^^^ right) =
      List.zipWith (· ^^ ·) (bitsOf count left) (bitsOf count right) := by
  rw [bitsOf, bitsOf, bitsOf, List.zipWith_map, List.zipWith_self]
  exact List.map_congr_left fun index _ => BitVec.getLsbD_xor

/-- Of a word added to the register its low bit is taken in and the rest moves down. -/
theorem shiftOut_xor_word (register word : BitVec w) :
    shiftOut poly (register ^^^ word) = shiftIn poly register (word.getLsbD 0) ^^^ word >>> 1 := by
  have hrest : shiftOut poly (word ^^^ lowBit (word.getLsbD 0)) = word >>> 1 := by
    have hlow : (word ^^^ lowBit (word.getLsbD 0)).getLsbD 0 = false := by
      cases hw : decide (0 < w) with
      | false =>
          have hzero : ¬ 0 < w := of_decide_eq_false hw
          exact BitVec.getLsbD_of_ge _ _ (by omega)
      | true => simp [lowBit, of_decide_eq_true hw]
    have hout : (lowBit (word.getLsbD 0) : BitVec w) >>> 1 = 0#w := by
      ext index hindex
      simp [lowBit]
    rw [shiftOut, hlow, if_neg Bool.false_ne_true, BitVec.ushiftRight_xor_distrib, hout,
      BitVec.xor_zero]
  calc shiftOut poly (register ^^^ word)
      = shiftOut poly ((register ^^^ lowBit (word.getLsbD 0)) ^^^
          (word ^^^ lowBit (word.getLsbD 0))) := by
        congr 1
        rw [BitVec.xor_assoc, BitVec.xor_comm word, ← BitVec.xor_assoc (lowBit _),
          BitVec.xor_self, BitVec.zero_xor]
    _ = shiftIn poly register (word.getLsbD 0) ^^^ word >>> 1 := by rw [shiftOut_xor, hrest, shiftIn]

/-- Adding a word and shifting it out is taking its bits in. -/
theorem feed_bitsOf {count : Nat} (register : BitVec w) {word : BitVec w}
    (hword : word >>> count = 0#w) :
    feed poly register (bitsOf count word) = (shiftOut poly)^[count] (register ^^^ word) := by
  induction count generalizing register word with
  | zero =>
      rw [BitVec.ushiftRight_zero] at hword
      rw [hword, BitVec.xor_zero]
      rfl
  | succ count ih =>
      have hrest : word >>> 1 >>> count = 0#w := by
        rw [← BitVec.shiftRight_add, Nat.add_comm]
        exact hword
      rw [bitsOf_succ, Function.iterate_succ_apply, shiftOut_xor_word, ← ih _ hrest]
      rfl

theorem iterate_shiftOut_zero (count : Nat) : (shiftOut poly)^[count] 0#w = 0#w :=
  Function.iterate_fixed (shiftOut_zero poly) count

/-- A register that takes its own bits in is cleared. -/
theorem feed_bitsOf_self (register : BitVec w) : feed poly register (bitsOf w register) = 0#w := by
  have hout : register >>> w = 0#w := by
    ext index hindex
    simp
  rw [feed_bitsOf poly register hout, BitVec.xor_self, iterate_shiftOut_zero]

/-! ### Short errors -/

/-- The ones of an error lie within `width` consecutive bits. -/
def IsBurst (width : Nat) (noise : List Bool) : Prop :=
  ∃ before burst after, noise = List.replicate before false ++ burst ++ List.replicate after false ∧
    burst.length ≤ width

theorem IsBurst.take {width : Nat} {noise : List Bool} (h : IsBurst width noise) (count : Nat) :
    IsBurst width (noise.take count) := by
  obtain ⟨before, burst, after, rfl, hlength⟩ := h
  refine ⟨min count before, burst.take (count - before),
    min (count - (before + burst.length)) after, ?_, (List.length_take_le' _ _).trans hlength⟩
  rw [List.take_append, List.take_append, List.take_replicate, List.take_replicate]
  simp

variable {poly}

/-- A register that is cleared by no more bits than it holds held just these. -/
theorem getLsbD_of_feed_eq_zero (htop : poly.getLsbD (w - 1) = true) {register : BitVec w}
    {bits : List Bool} (hlength : bits.length ≤ w) (hclear : feed poly register bits = 0#w)
    (index : Nat) : register.getLsbD index = bits.getD index false := by
  induction bits generalizing register index with
  | nil =>
      obtain rfl : register = 0#w := hclear
      simp
  | cons bit bits ih =>
      rw [List.length_cons] at hlength
      have hnext : ∀ index, (shiftIn poly register bit).getLsbD index = bits.getD index false :=
        ih (by omega) hclear
      have hlast : (shiftIn poly register bit).getLsbD (w - 1) = false := by
        rw [hnext]
        simp [show bits.length ≤ w - 1 by omega]
      have hhigh : (((register ^^^ lowBit bit) >>> 1).getLsbD (w - 1)) = false := by
        rw [BitVec.getLsbD_ushiftRight]
        exact BitVec.getLsbD_of_ge _ _ (by omega)
      have hlow : (register ^^^ lowBit bit).getLsbD 0 = false := by
        by_contra hone
        rw [Bool.not_eq_false] at hone
        rw [shiftIn, shiftOut, if_pos hone, BitVec.getLsbD_xor, hhigh, htop] at hlast
        simp at hlast
      have hbit : (lowBit bit : BitVec w).getLsbD 0 = bit := by
        simp [lowBit]
        omega
      cases index with
      | zero =>
          rw [BitVec.getLsbD_xor, hbit] at hlow
          rw [List.getD_cons_zero]
          simpa using hlow
      | succ index =>
          have hrest := hnext index
          rw [shiftIn, shiftOut, hlow, if_neg Bool.false_ne_true, BitVec.getLsbD_ushiftRight,
            BitVec.getLsbD_xor] at hrest
          rw [List.getD_cons_succ, ← hrest, Nat.add_comm]
          simp [lowBit]

theorem eq_zero_of_feed_zeros (htop : poly.getLsbD (w - 1) = true) {register : BitVec w}
    {count : Nat} (hw : 0 < w)
    (hclear : feed poly register (List.replicate count false) = 0#w) : register = 0#w := by
  induction count generalizing register with
  | zero => exact hclear
  | succ count ih =>
      have hstep : feed poly register [false] = 0#w := ih hclear
      apply BitVec.eq_of_getLsbD_eq
      intro index _
      have hlength : [false].length ≤ w := by simpa using Nat.succ_le_of_lt hw
      rw [getLsbD_of_feed_eq_zero htop hlength hstep]
      cases index <;> simp

/-- **Bursts.** An error within as many bits as the register holds does not leave it clear. -/
theorem feed_burst_ne_zero (htop : poly.getLsbD (w - 1) = true) {noise : List Bool}
    (hburst : IsBurst w noise) (hnoise : true ∈ noise) : feed poly 0#w noise ≠ 0#w := by
  intro hclear
  obtain ⟨before, burst, after, rfl, hlength⟩ := hburst
  have hw : 0 < w := by
    by_contra hzero
    rw [BitVec.getLsbD_of_ge _ _ (by omega)] at htop
    cases htop
  rw [feed_append, feed_append, feed_zeros] at hclear
  have hmiddle := getLsbD_of_feed_eq_zero htop hlength (eq_zero_of_feed_zeros htop hw hclear)
  have hone : true ∈ burst := by
    simpa [List.mem_replicate] using hnoise
  obtain ⟨index, hindex, hget⟩ := List.mem_iff_getElem.mp hone
  have hfalse := hmiddle index
  rw [List.getD_eq_getElem?_getD, List.getElem?_eq_getElem hindex, hget] at hfalse
  simp at hfalse

/-! ### Parity -/

def parity (bits : List Bool) : Bool := bits.foldr (· ^^ ·) false

theorem parity_append (left right : List Bool) :
    parity (left ++ right) = (parity left ^^ parity right) := by
  induction left with
  | nil => simp [parity]
  | cons bit left ih => simpa [parity, Bool.xor_assoc] using congrArg (bit ^^ ·) ih

theorem parity_map_xor (places : List Nat) (left right : Nat → Bool) :
    parity (places.map fun place => left place ^^ right place) =
      (parity (places.map left) ^^ parity (places.map right)) := by
  induction places with
  | nil => rfl
  | cons place places ih =>
      simp only [parity, List.map_cons, List.foldr_cons] at ih ⊢
      rw [ih, Bool.xor_assoc, Bool.xor_left_comm (right place), ← Bool.xor_assoc (left place)]

/-- The parity of a list counts its ones. -/
theorem parity_eq_true_iff (bits : List Bool) : parity bits = true ↔ Odd (bits.count true) := by
  induction bits with
  | nil => simp [parity]
  | cons bit bits ih =>
      cases bit with
      | false => simpa [parity] using ih
      | true =>
          rw [List.count_cons_self, Nat.odd_add_one, ← ih]
          simp [parity]

theorem parity_bitsOf_xor (left right : BitVec w) :
    parity (bitsOf w (left ^^^ right)) = (parity (bitsOf w left) ^^ parity (bitsOf w right)) := by
  rw [bitsOf, bitsOf, bitsOf, ← parity_map_xor]
  congr 1
  exact List.map_congr_left fun index _ => BitVec.getLsbD_xor

theorem parity_bitsOf_zero (count : Nat) : parity (bitsOf count 0#w) = false := by
  induction count with
  | zero => rfl
  | succ count ih => simpa [bitsOf_succ, parity] using ih

theorem parity_bitsOf_shift (word : BitVec w) :
    (word.getLsbD 0 ^^ parity (bitsOf w (word >>> 1))) = parity (bitsOf w word) := by
  calc (word.getLsbD 0 ^^ parity (bitsOf w (word >>> 1)))
      = parity (bitsOf (w + 1) word) := by rw [bitsOf_succ]; rfl
    _ = parity (bitsOf w word ++ [word.getLsbD w]) := by
        rw [bitsOf, List.range_succ, List.map_append]; rfl
    _ = parity (bitsOf w word) := by
        rw [parity_append, BitVec.getLsbD_of_ge _ _ (le_refl w)]
        simp [parity]

theorem parity_bitsOf_lowBit (hw : 0 < w) (bit : Bool) :
    parity (bitsOf w (lowBit bit : BitVec w)) = bit := by
  have hout : (lowBit bit : BitVec w) >>> 1 = 0#w := by
    ext index hindex
    simp [lowBit]
  rw [← parity_bitsOf_shift, hout, parity_bitsOf_zero, Bool.xor_false]
  simp [lowBit, hw]

theorem parity_shiftOut (hpoly : parity (bitsOf w poly) = true) (register : BitVec w) :
    parity (bitsOf w (shiftOut poly register)) = parity (bitsOf w register) := by
  rw [← parity_bitsOf_shift register, shiftOut]
  cases register.getLsbD 0 with
  | false => simp
  | true => simp [parity_bitsOf_xor, hpoly]

/-- The register keeps the parity of the message. -/
theorem parity_feed (hpoly : parity (bitsOf w poly) = true) (register : BitVec w)
    (bits : List Bool) :
    parity (bitsOf w (feed poly register bits)) = (parity (bitsOf w register) ^^ parity bits) := by
  have hw : 0 < w := by
    by_contra hzero
    obtain rfl : w = 0 := by omega
    simp [bitsOf, parity] at hpoly
  induction bits generalizing register with
  | nil => simp [feed, parity]
  | cons bit bits ih =>
      have hstep : parity (bitsOf w (shiftIn poly register bit)) =
          (parity (bitsOf w register) ^^ bit) := by
        rw [shiftIn, parity_shiftOut hpoly, parity_bitsOf_xor, parity_bitsOf_lowBit hw]
      have hrest := ih (shiftIn poly register bit)
      rw [hstep, Bool.xor_assoc] at hrest
      exact hrest

/-- **Odd errors.** An error of an odd number of bits does not leave the register clear. -/
theorem feed_odd_ne_zero (hpoly : parity (bitsOf w poly) = true) {noise : List Bool}
    (hodd : Odd (noise.count true)) : feed poly 0#w noise ≠ 0#w := by
  intro hclear
  have hparity := parity_feed hpoly 0#w noise
  rw [hclear, parity_bitsOf_zero, (parity_eq_true_iff noise).mpr hodd] at hparity
  cases hparity

/-! ### Checked messages -/

variable (poly)

/-- The checksum of a message, with what is added to the register at its end. -/
def checksum (first last : BitVec w) (message : List Bool) : BitVec w :=
  feed poly first message ^^^ last

/-- If message and checksum are changed and still agree, the change alone leaves the register
clear. -/
theorem feed_of_agree (first last : BitVec w) {message noise : List Bool} {flips : BitVec w}
    (hlength : message.length = noise.length)
    (hagree : checksum poly first last (List.zipWith (· ^^ ·) message noise) =
      checksum poly first last message ^^^ flips) :
    feed poly 0#w (noise ++ bitsOf w flips) = 0#w := by
  have hnoise : feed poly 0#w noise = flips := by
    unfold checksum at hagree
    rw [feed_error poly first hlength, BitVec.xor_assoc, BitVec.xor_assoc,
      BitVec.xor_right_inj, BitVec.xor_comm last flips, BitVec.xor_left_inj] at hagree
    exact hagree
  rw [feed_append, hnoise, feed_bitsOf_self]

end Register

/-! ### Bytes -/

/-- The bits of a byte as they are sent, least significant first. -/
def byteBits (byte : UInt8) : List Bool := bitsOf 8 byte.toBitVec

def streamBits (bytes : List UInt8) : List Bool := bytes.flatMap byteBits

/-- The bytes with an error added to them. -/
def corrupt (bytes noise : List UInt8) : List UInt8 := List.zipWith (· ^^^ ·) bytes noise

/-- An error that is not empty, within `width` consecutive bits. -/
def BurstError (width : Nat) (noise : List UInt8) : Prop :=
  IsBurst width (streamBits noise) ∧ true ∈ streamBits noise

@[simp]
theorem streamBits_nil : streamBits [] = [] := rfl

@[simp]
theorem streamBits_cons (byte : UInt8) (bytes : List UInt8) :
    streamBits (byte :: bytes) = byteBits byte ++ streamBits bytes := rfl

@[simp]
theorem streamBits_append (left right : List UInt8) :
    streamBits (left ++ right) = streamBits left ++ streamBits right := List.flatMap_append

@[simp]
theorem length_byteBits (byte : UInt8) : (byteBits byte).length = 8 := by simp [byteBits, bitsOf]

theorem length_streamBits (bytes : List UInt8) : (streamBits bytes).length = 8 * bytes.length := by
  induction bytes with
  | nil => rfl
  | cons byte bytes ih =>
      rw [streamBits_cons, List.length_append, length_byteBits, ih, List.length_cons]
      omega

theorem streamBits_take (bytes : List UInt8) (count : Nat) :
    streamBits (bytes.take count) = (streamBits bytes).take (8 * count) := by
  induction bytes generalizing count with
  | nil => simp
  | cons byte bytes ih =>
      cases count with
      | zero => rfl
      | succ count =>
          have hbyte : (byteBits byte).take (8 * (count + 1)) = byteBits byte :=
            List.take_of_length_le (by rw [length_byteBits]; omega)
          rw [List.take_succ_cons, streamBits_cons, streamBits_cons, ih, List.take_append, hbyte,
            length_byteBits, show 8 * (count + 1) - 8 = 8 * count by omega]

theorem byteBits_xor (left right : UInt8) :
    byteBits (left ^^^ right) = List.zipWith (· ^^ ·) (byteBits left) (byteBits right) := by
  rw [byteBits, UInt8.toBitVec_xor, bitsOf_xor]
  rfl

@[simp]
theorem length_corrupt {bytes noise : List UInt8} (hlength : noise.length = bytes.length) :
    (corrupt bytes noise).length = bytes.length := by
  rw [corrupt, List.length_zipWith, hlength, Nat.min_self]

theorem corrupt_append {left left' right right' : List UInt8} (hlength : left.length = left'.length) :
    corrupt (left ++ right) (left' ++ right') = corrupt left left' ++ corrupt right right' :=
  List.zipWith_append hlength

theorem streamBits_corrupt {bytes noise : List UInt8} (hlength : noise.length = bytes.length) :
    streamBits (corrupt bytes noise) =
      List.zipWith (· ^^ ·) (streamBits bytes) (streamBits noise) := by
  induction bytes generalizing noise with
  | nil =>
      obtain rfl := List.length_eq_zero_iff.mp hlength
      rfl
  | cons byte bytes ih =>
      cases noise with
      | nil => simp at hlength
      | cons flip noise =>
          rw [corrupt, List.zipWith_cons_cons, streamBits_cons, streamBits_cons, streamBits_cons,
            List.zipWith_append (by simp), byteBits_xor]
          exact congrArg _ (ih (Nat.succ.inj hlength))

/-- The bits of a little-endian number are those of its bytes. -/
theorem streamBits_natBytes (width value : Nat) :
    streamBits (Layout.natBytes width value) = (List.range (8 * width)).map value.testBit := by
  induction width generalizing value with
  | zero => rfl
  | succ width ih =>
      have hbyte : byteBits (UInt8.ofNat value) = (List.range 8).map value.testBit := by
        apply List.map_congr_left
        intro index hindex
        rw [← BitVec.testBit_toNat, UInt8.toNat_toBitVec, UInt8.toNat_ofNat',
          Nat.testBit_mod_two_pow, decide_eq_true (List.mem_range.mp hindex), Bool.true_and]
      rw [Layout.natBytes, streamBits_cons, ih, hbyte, Nat.mul_succ, Nat.add_comm,
        List.range_add, List.map_append, List.map_map]
      congr 1
      apply List.map_congr_left
      intro index _
      rw [Function.comp_apply, show (256 : Nat) = 2 ^ 8 by rfl, Nat.testBit_div_two_pow,
        Nat.add_comm]

/-- One byte of a bytewise implementation: the byte is added and shifted out. -/
def feedByte {w : Nat} (poly register : BitVec w) (byte : UInt8) : BitVec w :=
  (shiftOut poly)^[8] (register ^^^ byte.toBitVec.setWidth w)

theorem feedByte_eq {w : Nat} (poly : BitVec w) (hw : 8 ≤ w) (register : BitVec w) (byte : UInt8) :
    feedByte poly register byte = feed poly register (byteBits byte) := by
  have hout : byte.toBitVec.setWidth w >>> 8 = 0#w := by
    ext index hindex
    simp
  have hbits : byteBits byte = bitsOf 8 (byte.toBitVec.setWidth w) := by
    apply List.map_congr_left
    intro index hindex
    have hlt := List.mem_range.mp hindex
    simp [show index < w by omega]
  rw [feedByte, hbits, feed_bitsOf poly register hout]

/-- A bytewise implementation takes in the bits of its bytes. -/
theorem foldl_feedByte {w : Nat} (poly : BitVec w) (hw : 8 ≤ w) (register : BitVec w)
    (bytes : List UInt8) :
    bytes.foldl (feedByte poly) register = feed poly register (streamBits bytes) := by
  induction bytes generalizing register with
  | nil => rfl
  | cons byte bytes ih =>
      rw [List.foldl_cons, ih, feedByte_eq poly hw, streamBits_cons, feed_append]

end ShiftRegister

end IiotMonitoring
