import Mathlib.Data.Nat.Digits.Defs
import IiotMonitoring.Firmware.Provisioning

/-!
# The numbers of `SET` lines

What number a text stands for, apart from how `strtoul` scans it, and that `parse_unsigned` and
`parse_float` take exactly the texts of the numbers in their ranges.
-/

namespace IiotMonitoring

/-! ### Unsigned numbers -/

/-- The number of decimal digits in a row. -/
def digitsValue (digits : List UInt8) : Nat :=
  Nat.ofDigits 10 (digits.reverse.map fun digit => digit.toNat - 48)

/-- The number a whole text stands for in base ten: spaces, at most one sign, and digits of a number
below 2 ^ 32, which a minus sign negates modulo 2 ^ 32. -/
inductive UnsignedText : List UInt8 → Nat → Prop where
  | positive {spaces sign digits : List UInt8} (hspaces : ∀ character ∈ spaces, isSpaceByte character)
      (hsign : sign = [] ∨ sign = [43]) (hdigits : ∀ character ∈ digits, isDigitByte character)
      (hsome : digits ≠ []) (hfits : digitsValue digits < 2 ^ 32) :
      UnsignedText (spaces ++ sign ++ digits) (digitsValue digits)
  | negative {spaces digits : List UInt8} (hspaces : ∀ character ∈ spaces, isSpaceByte character)
      (hdigits : ∀ character ∈ digits, isDigitByte character) (hsome : digits ≠ [])
      (hfits : digitsValue digits < 2 ^ 32) :
      UnsignedText (spaces ++ [45] ++ digits) ((2 ^ 32 - digitsValue digits) % 2 ^ 32)

theorem foldl_digitsValue (digits : List UInt8) :
    digits.foldl (fun total digit => 10 * total + (digit.toNat - 48)) 0 = digitsValue digits := by
  induction digits using List.reverseRecOn with
  | nil => rfl
  | append_singleton digits digit ih =>
      rw [List.foldl_append, ih, digitsValue, digitsValue, List.reverse_concat, List.map_cons,
        Nat.ofDigits_cons]
      exact Nat.add_comm _ _

theorem not_space_of_digit {character : UInt8} (h : isDigitByte character) :
    isSpaceByte character = false := by
  unfold isDigitByte at h
  unfold isSpaceByte
  simp only [decide_eq_true_eq, decide_eq_false_iff_not, not_or, not_and, UInt8.le_iff_toNat_le] at h ⊢
  constructor
  · rintro rfl
    simp at h
  · intro _
    exact Nat.not_le.mpr (lt_of_lt_of_le (by decide) h.1)

theorem not_sign_of_digit {character : UInt8} (h : isDigitByte character) :
    character ≠ 45 ∧ character ≠ 43 := by
  constructor
  · rintro rfl
    exact absurd h (by decide)
  · rintro rfl
    exact absurd h (by decide)

/-- What `strtoul` makes of spaces, a sign and digits. -/
theorem strtoul_of_parts {spaces sign digits : List UInt8}
    (hspaces : ∀ character ∈ spaces, isSpaceByte character)
    (hsign : sign = [] ∨ sign = [43] ∨ sign = [45])
    (hdigits : ∀ character ∈ digits, isDigitByte character) (hsome : digits ≠ []) :
    strtoul (spaces ++ sign ++ digits) =
      if 2 ^ 32 ≤ digitsValue digits then ⟨2 ^ 32 - 1, [], true⟩
      else if sign = [45] then ⟨(2 ^ 32 - digitsValue digits) % 2 ^ 32, [], false⟩
      else ⟨digitsValue digits, [], false⟩ := by
  obtain ⟨first, others, rfl⟩ := List.exists_cons_of_ne_nil hsome
  have hfirst : isDigitByte first := hdigits first List.mem_cons_self
  obtain ⟨hminus, hplus⟩ := not_sign_of_digit hfirst
  have hsigned : (spaces ++ sign ++ first :: others).dropWhile isSpaceByte = sign ++ first :: others := by
    rw [List.append_assoc, List.dropWhile_append_of_pos hspaces]
    rcases hsign with rfl | rfl | rfl
    · exact List.dropWhile_cons_of_neg (by rw [not_space_of_digit hfirst]; decide)
    · exact List.dropWhile_cons_of_neg (by decide)
    · exact List.dropWhile_cons_of_neg (by decide)
  have hunsigned : (if (sign ++ first :: others).head? = some 45 ∨ (sign ++ first :: others).head? = some 43
      then (sign ++ first :: others).drop 1 else sign ++ first :: others) = first :: others := by
    rcases hsign with rfl | rfl | rfl
    · simp [hminus, hplus]
    · rfl
    · rfl
  have hnegative : (sign ++ first :: others).head? = some 45 ↔ sign = [45] := by
    rcases hsign with rfl | rfl | rfl
    · simp [hminus]
    · simp
    · simp
  have htake : (first :: others).takeWhile isDigitByte = first :: others :=
    List.takeWhile_eq_self_iff.mpr hdigits
  have hdrop : (first :: others).dropWhile isDigitByte = [] :=
    List.dropWhile_eq_nil_iff.mpr hdigits
  unfold strtoul
  simp only [hsigned]
  rw [hunsigned, htake, hdrop, foldl_digitsValue, if_neg hsome]
  simp only [hnegative]

theorem strtoul_of_unsignedText {text : List UInt8} {number : Nat} (h : UnsignedText text number) :
    strtoul text = ⟨number, [], false⟩ ∧ text ≠ [] := by
  cases h with
  | positive hspaces hsign hdigits hsome hfits =>
      rw [strtoul_of_parts hspaces (hsign.imp_right .inl) hdigits hsome, if_neg (Nat.not_le.mpr hfits)]
      refine ⟨if_neg ?_, by simp [hsome]⟩
      rintro rfl
      simp at hsign
  | negative hspaces hdigits hsome hfits =>
      rw [strtoul_of_parts hspaces (.inr (.inr rfl)) hdigits hsome, if_neg (Nat.not_le.mpr hfits)]
      exact ⟨if_pos rfl, by simp⟩

/-- The text after the spaces and a sign. -/
def afterSign (text : List UInt8) : List UInt8 :=
  let signed := text.dropWhile isSpaceByte
  if signed.head? = some 45 ∨ signed.head? = some 43 then signed.drop 1 else signed

theorem exists_sign (text : List UInt8) :
    ∃ spaces sign : List UInt8, text = spaces ++ sign ++ afterSign text ∧
      (∀ character ∈ spaces, isSpaceByte character) ∧ (sign = [] ∨ sign = [43] ∨ sign = [45]) := by
  have hparts := List.takeWhile_append_dropWhile (p := isSpaceByte) (l := text)
  have hspaces : ∀ character ∈ text.takeWhile isSpaceByte, isSpaceByte character = true :=
    fun _ hmem => List.mem_takeWhile_imp hmem
  unfold afterSign
  dsimp only
  generalize text.dropWhile isSpaceByte = signed at hparts
  by_cases hsign : signed.head? = some 45 ∨ signed.head? = some 43
  · rw [if_pos hsign, ← hparts]
    cases signed with
    | nil => simp at hsign
    | cons sign unsigned =>
        rw [List.head?_cons, Option.some_inj, Option.some_inj] at hsign
        refine ⟨_, [sign], by rw [List.append_assoc]; rfl, hspaces, .inr ?_⟩
        rcases hsign with rfl | rfl
        · exact .inr rfl
        · exact .inl rfl
  · rw [if_neg hsign]
    exact ⟨_, [], by rw [List.append_nil, hparts], hspaces, .inl rfl⟩

theorem strtoul_rest (text : List UInt8) :
    (strtoul text).rest =
      if (afterSign text).takeWhile isDigitByte = [] then text
      else (afterSign text).dropWhile isDigitByte := by
  have hafter : afterSign text = if (text.dropWhile isSpaceByte).head? = some 45 ∨
    (text.dropWhile isSpaceByte).head? = some 43 then (text.dropWhile isSpaceByte).drop 1
    else text.dropWhile isSpaceByte := rfl
  unfold strtoul
  dsimp only
  rw [← hafter]
  split_ifs <;> rfl

theorem unsignedText_of_strtoul {text : List UInt8} (hrange : (strtoul text).rangeError = false)
    (hsome : text ≠ []) (hrest : (strtoul text).rest = []) : UnsignedText text (strtoul text).value := by
  obtain ⟨spaces, sign, htext, hspaces, hsign⟩ := exists_sign text
  have hscanned := strtoul_rest text
  generalize afterSign text = unsigned at htext hscanned
  have hdigits : ∀ character ∈ unsigned.takeWhile isDigitByte, isDigitByte character = true :=
    fun _ hmem => List.mem_takeWhile_imp hmem
  have hsplit := List.takeWhile_append_dropWhile (p := isDigitByte) (l := unsigned)
  rw [hrest] at hscanned
  by_cases hnone : unsigned.takeWhile isDigitByte = []
  · rw [if_pos hnone] at hscanned
    exact absurd hscanned.symm hsome
  · rw [if_neg hnone] at hscanned
    rw [← hscanned, List.append_nil] at hsplit
    rw [hsplit] at hnone hdigits
    have hvalue := strtoul_of_parts hspaces hsign hdigits hnone
    rw [← htext] at hvalue
    rw [hvalue] at hrange ⊢
    by_cases hfits : 2 ^ 32 ≤ digitsValue unsigned
    · rw [if_pos hfits] at hrange
      cases hrange
    · rw [if_neg hfits, htext]
      rcases hsign with rfl | rfl | rfl
      · exact .positive hspaces (.inl rfl) hdigits hnone (Nat.not_le.mp hfits)
      · exact .positive hspaces (.inr rfl) hdigits hnone (Nat.not_le.mp hfits)
      · exact .negative hspaces hdigits hnone (Nat.not_le.mp hfits)

/-- `parse_unsigned` takes the whole text of a number in the range. -/
theorem parseUnsigned_iff {value : List UInt8} {minimum maximum number : Nat} :
    parseUnsigned value minimum maximum = some number ↔
      UnsignedText value number ∧ minimum ≤ number ∧ number ≤ maximum := by
  unfold parseUnsigned
  dsimp only
  rw [Option.ite_none_left_eq_some, Option.some_inj]
  constructor
  · rintro ⟨haccepted, rfl⟩
    simp only [not_or, Bool.not_eq_true, not_not, Nat.not_lt] at haccepted
    obtain ⟨hrange, hread, hrest, hlow, hhigh⟩ := haccepted
    have hsome : value ≠ [] := by
      rintro rfl
      exact hread hrest
    exact ⟨unsignedText_of_strtoul hrange hsome hrest, hlow, hhigh⟩
  · rintro ⟨htext, hlow, hhigh⟩
    obtain ⟨hparsed, hsome⟩ := strtoul_of_unsignedText htext
    rw [hparsed]
    refine ⟨?_, rfl⟩
    simp only [not_or]
    exact ⟨by decide, fun hnone => hsome hnone.symm, by simp, by omega, by omega⟩

/-! ### Floats -/

/-- A whole text that `strtof` reads as the float. -/
def FloatText (strtof : List UInt8 → ParsedNumber CFloat) (value : List UInt8) (number : CFloat) : Prop :=
  value ≠ [] ∧ strtof value = ⟨number, [], false⟩

/-- A float from one number up to another, or NaN. -/
def FloatUpTo (low high : ℚ) (number : CFloat) : Prop :=
  number.value = .nan ∨ ∃ exact, number.value = .finite exact ∧ low ≤ exact ∧ exact ≤ high

theorem floatUpTo_iff {minimum maximum number : CFloat} {low high : ℚ}
    (hlow : minimum.value = .finite low) (hhigh : maximum.value = .finite high) :
    FloatUpTo low high number ↔
      number.value.less minimum.value = false ∧ maximum.value.less number.value = false := by
  unfold FloatUpTo
  rw [hlow, hhigh]
  cases number.value with
  | finite exact => simp [FloatNumber.less]
  | infinity negative => cases negative <;> simp [FloatNumber.less]
  | nan => simp [FloatNumber.less]

/-- `parse_float` takes the whole text of a float in the range, or of NaN. -/
theorem parseFloat_iff {strtof : List UInt8 → ParsedNumber CFloat} {value : List UInt8}
    {minimum maximum number : CFloat} {low high : ℚ} (hlow : minimum.value = .finite low)
    (hhigh : maximum.value = .finite high) :
    parseFloat strtof value minimum maximum = some number ↔
      FloatText strtof value number ∧ FloatUpTo low high number := by
  rw [floatUpTo_iff hlow hhigh]
  unfold parseFloat FloatText
  dsimp only
  rw [Option.ite_none_left_eq_some, Option.some_inj]
  constructor
  · rintro ⟨haccepted, rfl⟩
    simp only [not_or, Bool.not_eq_true, not_not] at haccepted
    obtain ⟨hrange, hread, hrest, hbelow, habove⟩ := haccepted
    have hsome : value ≠ [] := by
      rintro rfl
      exact hread hrest
    refine ⟨⟨hsome, ?_⟩, hbelow, habove⟩
    rw [← hrest, ← hrange]
  · rintro ⟨⟨hsome, hparsed⟩, hbelow, habove⟩
    rw [hparsed]
    refine ⟨?_, rfl⟩
    simp only [not_or, hbelow, habove]
    exact ⟨by decide, fun hnone => hsome hnone.symm, by simp, by decide, by decide⟩

end IiotMonitoring
