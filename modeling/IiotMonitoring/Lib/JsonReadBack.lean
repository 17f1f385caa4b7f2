import IiotMonitoring.Lib.JsonLayout
import IiotMonitoring.Lib.JsonReader

/-!
# Reading what was printed

A document in plain ASCII, within the limits, is read back from its compact text.
-/

namespace IiotMonitoring

/-! ### Digits -/

/-- The text does not go on with a digit. -/
def EndsDigits (rest : Text) : Prop := ∀ code ∈ rest.head?, readDigit code = none

/-- The text does not go on with a digit, a fraction or an exponent. -/
def EndsNumber (rest : Text) : Prop :=
  ∀ code ∈ rest.head?, readDigit code = none ∧ code ≠ 46 ∧ code ≠ 69 ∧ code ≠ 101

theorem EndsNumber.digits {rest : Text} (h : EndsNumber rest) : EndsDigits rest :=
  fun code hcode => (h code hcode).1

theorem readDigit_digitCode (digit : Fin 10) : readDigit (digitCode digit) = some digit := by
  unfold readDigit digitCode
  rw [dif_pos (by omega)]
  simp

theorem scanDigitList_append (digits : List (Fin 10)) {rest : Text} (hrest : EndsDigits rest) :
    scanDigitList (digits.map digitCode ++ rest) = (digits, rest) := by
  induction digits with
  | nil =>
      cases rest with
      | nil => rfl
      | cons code rest =>
          rw [List.map_nil, List.nil_append]
          unfold scanDigitList
          rw [hrest code rfl]
  | cons digit digits ih =>
      rw [List.map_cons, List.cons_append]
      unfold scanDigitList
      rw [readDigit_digitCode, ih]

theorem scanDigits_append (digits : Digits) {rest : Text} (hrest : EndsDigits rest) :
    scanDigits (digits.print ++ rest) = some (digits, rest) := by
  unfold scanDigits Digits.print
  rw [scanDigitList_append digits.toList hrest]
  rfl

theorem foldl_digits (digits : List (Fin 10)) (start : Nat) :
    digits.foldl (fun (number : Nat) (digit : Fin 10) => 10 * number + digit) start =
      (digits.map Fin.val).foldl (fun number digit => 10 * number + digit) start := by
  rw [List.foldl_map]

/-- Digits, least significant first, as a printed number. -/
theorem digits_of_reverse {front : List Nat} {last : Nat} (hlast : last ≠ 0) (hlt : last < 10)
    (hfront : ∀ digit ∈ front, digit < 10) :
    ∃ digits : Digits, (front ++ [last]).reverse.map (48 + ·) = digits.print ∧
      digits.value = Nat.ofDigits 10 (front ++ [last]) ∧
      digits.toList.length = (front ++ [last]).reverse.length ∧ digits.head ≠ 0 := by
  have hreverse : ∀ digit ∈ front.reverse, digit < 10 :=
    fun digit hdigit => hfront digit (List.mem_reverse.mp hdigit)
  obtain ⟨tail, htail⟩ : ∃ tail : List (Fin 10), tail.map Fin.val = front.reverse :=
    ⟨front.reverse.pmap Fin.mk hreverse, by simp [List.map_pmap]⟩
  refine ⟨⟨⟨last, hlt⟩, tail⟩, ?_, ?_, ?_, ?_⟩
  · have hcodes : tail.map digitCode = front.reverse.map (48 + ·) := by
      rw [← htail, List.map_map]
      rfl
    unfold Digits.print Digits.toList
    rw [List.map_cons, hcodes, List.reverse_append]
    rfl
  · unfold Digits.value Digits.toList
    rw [foldl_digits, List.map_cons, htail, ← List.singleton_append, ← List.reverse_singleton,
      ← List.reverse_append, List.foldl_reverse, Nat.ofDigits_eq_foldr]
    simp [add_comm]
  · have hlength := congrArg List.length htail
    simpa [Digits.toList] using hlength
  · intro hhead
    exact hlast (congrArg Fin.val hhead)

/-- The digits of a printed number do not start with zero, unless it is zero. -/
theorem exists_digits (value : Nat) :
    ∃ digits : Digits, printNat value = digits.print ∧ digits.value = value ∧
      digits.toList.length = (decimalDigits value).length ∧
      (digits.head = 0 → digits = ⟨0, []⟩) := by
  unfold printNat decimalDigits
  by_cases hzero : value = 0
  · subst hzero
    exact ⟨⟨0, []⟩, rfl, rfl, rfl, fun _ => rfl⟩
  · rw [if_neg hzero]
    have hne : Nat.digits 10 value ≠ [] := Nat.digits_ne_nil_iff_ne_zero.mpr hzero
    have hlt : ∀ digit ∈ Nat.digits 10 value, digit < 10 :=
      fun digit hdigit => Nat.digits_lt_base (by norm_num) hdigit
    obtain ⟨digits, hprint, hvalue, hlength, hhead⟩ := digits_of_reverse
      (Nat.getLast_digit_ne_zero 10 hzero) (hlt _ (List.getLast_mem hne))
      (fun digit hdigit => hlt digit (List.mem_of_mem_dropLast hdigit))
    rw [List.dropLast_append_getLast hne] at hprint hvalue hlength
    exact ⟨digits, hprint, hvalue.trans (Nat.ofDigits_digits 10 value), hlength,
      fun h => absurd h hhead⟩

/-! ### Numbers -/

theorem scanWhole_append (value : Nat) {rest : Text} (hrest : EndsDigits rest) :
    ∃ digits, scanWhole (printNat value ++ rest) = some (digits, rest) ∧ digits.value = value ∧
      digits.toList.length = (decimalDigits value).length := by
  obtain ⟨digits, hprint, hvalue, hlength, hzero⟩ := exists_digits value
  refine ⟨digits, ?_, hvalue, hlength⟩
  rw [hprint]
  by_cases hhead : digits.head = 0
  · rw [hzero hhead]
    rfl
  · have hscan := scanDigits_append digits hrest
    unfold scanWhole
    split
    · rename_i rest' htext
      have hcode := (List.cons.inj htext).1
      have hlt : (digits.head : Nat) ≠ 0 := fun h => hhead (Fin.ext h)
      unfold digitCode at hcode
      omega
    · exact hscan

def printFraction : Option Digits → Text
  | none => []
  | some digits => 46 :: digits.print

def printExponent : Option JsonExponent → Text
  | none => []
  | some exponent => exponent.print

theorem scanFraction_append (fraction : Option Digits) {rest : Text} (hrest : EndsDigits rest)
    (hpoint : ∀ code ∈ rest.head?, code ≠ 46) :
    scanFraction (printFraction fraction ++ rest) = (fraction, rest) := by
  cases fraction with
  | none =>
      unfold scanFraction printFraction
      rw [List.nil_append]
      split
      · exact absurd rfl (hpoint 46 rfl)
      · rfl
  | some digits =>
      rw [printFraction, List.cons_append]
      simp only [scanFraction, scanDigits_append digits hrest]

theorem readDigit_of_letter {code : Nat} (h : code = 69 ∨ code = 101) : readDigit code = none := by
  unfold readDigit
  rw [dif_neg (by omega)]

theorem printExponent_head (exponent : Option JsonExponent) {rest : Text} (hrest : EndsNumber rest) :
    ∀ code ∈ (printExponent exponent ++ rest).head?, readDigit code = none ∧ code ≠ 46 := by
  intro code hcode
  cases exponent with
  | none => exact ⟨(hrest code hcode).1, (hrest code hcode).2.1⟩
  | some exponent =>
      unfold printExponent JsonExponent.print at hcode
      obtain rfl := Option.some.inj hcode
      split
      · exact ⟨readDigit_of_letter (.inl rfl), by omega⟩
      · exact ⟨readDigit_of_letter (.inr rfl), by omega⟩

def printSign : Option Bool → Text
  | none => []
  | some negative => [if negative then 45 else 43]

theorem JsonExponent.print_eq (exponent : JsonExponent) :
    exponent.print =
      (if exponent.capital then 69 else 101) :: (printSign exponent.sign ++ exponent.digits.print) := by
  unfold JsonExponent.print printSign
  cases exponent.sign <;> rfl

theorem scanSign_append (sign : Option Bool) (digits : Digits) (rest : Text) :
    scanSign (printSign sign ++ digits.print ++ rest) = (sign, digits.print ++ rest) := by
  cases sign with
  | none =>
      unfold scanSign printSign Digits.print Digits.toList
      rw [List.nil_append, List.map_cons, List.cons_append]
      split
      · rename_i htext
        have := (List.cons.inj htext).1
        unfold digitCode at this
        omega
      · rename_i htext
        have := (List.cons.inj htext).1
        unfold digitCode at this
        omega
      · rfl
  | some negative => cases negative <;> rfl

theorem scanExponent_append (exponent : Option JsonExponent) {rest : Text} (hrest : EndsNumber rest) :
    scanExponent (printExponent exponent ++ rest) = (exponent, rest) := by
  cases exponent with
  | none =>
      rw [printExponent, List.nil_append]
      cases rest with
      | nil => rfl
      | cons code rest =>
          have hcode := (hrest code rfl).2.2
          unfold scanExponent
          dsimp only
          rw [if_neg (by omega)]
  | some exponent =>
      obtain ⟨capital, sign, digits⟩ := exponent
      rw [printExponent, JsonExponent.print_eq, List.cons_append]
      unfold scanExponent
      dsimp only
      rw [if_pos (by split <;> simp), scanSign_append, scanDigits_append digits hrest.digits]
      cases capital <;> rfl

/-- The digits of an integer are within the limit. -/
def JsonNumber.Within (limits : JsonLimits) (number : JsonNumber) : Prop :=
  number.isInteger = true → (decimalDigits number.whole).length ≤ limits.digits

theorem scanMagnitude_append {limits : JsonLimits} (number : JsonNumber)
    (hwithin : number.Within limits) {rest : Text} (hrest : EndsNumber rest) :
    scanMagnitude limits number.negative
        (printNat number.whole ++ (printFraction number.fraction ++
          (printExponent number.exponent ++ rest))) =
      .ok (.number number, rest) := by
  have hexponent := printExponent_head number.exponent hrest
  have hdigits : EndsDigits (printExponent number.exponent ++ rest) :=
    fun code hcode => (hexponent code hcode).1
  have hfraction : EndsDigits
      (printFraction number.fraction ++ (printExponent number.exponent ++ rest)) := by
    intro code hcode
    cases hcase : number.fraction with
    | none =>
        rw [hcase] at hcode
        exact hdigits code hcode
    | some digits =>
        rw [hcase] at hcode
        obtain rfl := Option.some.inj hcode
        rfl
  obtain ⟨whole, hscan, hvalue, hlength⟩ := scanWhole_append number.whole hfraction
  unfold scanMagnitude
  rw [hscan]
  dsimp only
  rw [scanFraction_append number.fraction hdigits fun code hcode => (hexponent code hcode).2,
    scanExponent_append number.exponent hrest, hvalue, if_neg]
  rintro ⟨hinteger, hlong⟩
  have := hwithin hinteger
  omega

theorem JsonNumber.print_append (number : JsonNumber) (rest : Text) :
    number.print ++ rest =
      (if number.negative then [45] else []) ++ (printNat number.whole ++
        (printFraction number.fraction ++ (printExponent number.exponent ++ rest))) := by
  unfold JsonNumber.print printFraction printExponent
  cases number.fraction <;> cases number.exponent <;> simp

/-- A printed number starts with a digit, after a sign if it is negative. -/
theorem printNat_head (value : Nat) (rest : Text) :
    ∃ digit rest', printNat value ++ rest = digitCode digit :: rest' := by
  obtain ⟨digits, hprint, -, -, -⟩ := exists_digits value
  rw [hprint]
  exact ⟨digits.head, digits.tail.map digitCode ++ rest, rfl⟩

theorem scanNumber_append {limits : JsonLimits} (number : JsonNumber) (hwithin : number.Within limits)
    {rest : Text} (hrest : EndsNumber rest) :
    scanNumber limits (number.print ++ rest) = .ok (.number number, rest) := by
  have hscan := scanMagnitude_append number hwithin hrest
  rw [JsonNumber.print_append]
  cases hnegative : number.negative with
  | true =>
      rw [hnegative] at hscan
      exact hscan
  | false =>
      rw [hnegative] at hscan
      obtain ⟨digit, rest', htext⟩ := printNat_head number.whole
        (printFraction number.fraction ++ (printExponent number.exponent ++ rest))
      rw [htext] at hscan
      simp only [Bool.false_eq_true, if_false, List.nil_append, htext]
      unfold scanNumber
      split
      · rename_i hminus
        have := (List.cons.inj hminus).1
        unfold digitCode at this
        omega
      · exact hscan

/-! ### Strings and literals -/

/-- Printable ASCII. -/
def Plain (text : Text) : Prop := ∀ code ∈ text, 32 ≤ code ∧ code ≤ 126

theorem Plain.isUnicode {text : Text} (h : Plain text) : isUnicode text = true := by
  unfold IiotMonitoring.isUnicode
  rw [List.all_eq_true]
  intro code hcode
  rw [decide_eq_true_eq, Nat.isValidChar]
  have := h code hcode
  omega

theorem readHex_hexCode {digit : Nat} (h : digit < 16) : readHex (hexCode digit) = some digit := by
  unfold readHex hexCode
  by_cases hten : digit < 10
  · rw [if_pos hten, if_pos (by omega), Nat.add_sub_cancel_left]
  · rw [if_neg hten, if_neg (by omega), if_pos (by omega), Nat.add_sub_cancel_left]

theorem scanUnits_escapeUnit {unit : Nat} (h : unit < 65536) (rest : Text) :
    scanUnits (escapeUnit unit ++ rest) =
      (scanUnits rest).map fun read => (⟨true, unit⟩ :: read.1, read.2) := by
  have hunit : readUnit (hexCode (unit / 4096 % 16)) (hexCode (unit / 256 % 16))
      (hexCode (unit / 16 % 16)) (hexCode (unit % 16)) = some unit := by
    have hdigits : 4096 * (unit / 4096 % 16) + 256 * (unit / 256 % 16) + 16 * (unit / 16 % 16) +
        unit % 16 = unit := by omega
    unfold readUnit
    rw [readHex_hexCode (Nat.mod_lt _ (by decide)), readHex_hexCode (Nat.mod_lt _ (by decide)),
      readHex_hexCode (Nat.mod_lt _ (by decide)), readHex_hexCode (Nat.mod_lt _ (by decide))]
    exact congrArg some hdigits
  unfold escapeUnit
  cases hrest : scanUnits rest with
  | none => simp [scanUnits, hunit, hrest]
  | some read => simp [scanUnits, hunit, hrest]

/-- How a code point is written in a string. -/
def stringUnits (code : Nat) : List StringUnit :=
  if code < 127 ∧ (32 ≤ code ∨ code = 8 ∨ code = 9 ∨ code = 10 ∨ code = 12 ∨ code = 13) then
    [⟨false, code⟩]
  else if code < 0x10000 then
    [⟨true, code⟩]
  else
    [⟨true, 0xd800 + (code - 0x10000) / 1024⟩, ⟨true, 0xdc00 + (code - 0x10000) % 1024⟩]

theorem scanUnits_short {code letter : Nat} (hletter : letter ≠ 117)
    (hread : readEscape letter = some code) (rest : Text) :
    scanUnits (92 :: letter :: rest) =
      (scanUnits rest).map fun read => (⟨false, code⟩ :: read.1, read.2) := by
  cases hrest : scanUnits rest with
  | none => simp [scanUnits, hletter, hread, hrest]
  | some read => simp [scanUnits, hletter, hread, hrest]

theorem scanUnits_plain {code : Nat} (hquote : code ≠ 34) (hbackslash : code ≠ 92) (hlow : 32 ≤ code)
    (rest : Text) :
    scanUnits (code :: rest) = (scanUnits rest).map fun read => (⟨false, code⟩ :: read.1, read.2) := by
  have hcontrol : ¬code < 32 := Nat.not_lt.mpr hlow
  cases hrest : scanUnits rest with
  | none => simp [scanUnits, hbackslash, hcontrol, hrest]
  | some read => simp [scanUnits, hbackslash, hcontrol, hrest]

theorem scanUnits_escapeCode {code : Nat} (hvalid : code < 0x110000) (rest : Text) :
    scanUnits (escapeCode code ++ rest) =
      (scanUnits rest).map fun read => (stringUnits code ++ read.1, read.2) := by
  have hshort : ∀ short, short = 8 ∨ short = 9 ∨ short = 10 ∨ short = 12 ∨ short = 13 →
      stringUnits short = [⟨false, short⟩] := by
    intro short hcase
    exact if_pos ⟨by omega, .inr hcase⟩
  unfold escapeCode
  split_ifs with hquoted hback htab hline hform hreturn hplain hsmall
  · have hunits : stringUnits code = [⟨false, code⟩] := if_pos ⟨by omega, .inl (by omega)⟩
    rw [hunits]
    apply scanUnits_short (by omega)
    rcases hquoted with rfl | rfl <;> rfl
  · rw [hback, hshort 8 (by omega)]
    exact scanUnits_short (by decide) rfl rest
  · rw [htab, hshort 9 (by omega)]
    exact scanUnits_short (by decide) rfl rest
  · rw [hline, hshort 10 (by omega)]
    exact scanUnits_short (by decide) rfl rest
  · rw [hform, hshort 12 (by omega)]
    exact scanUnits_short (by decide) rfl rest
  · rw [hreturn, hshort 13 (by omega)]
    exact scanUnits_short (by decide) rfl rest
  · have hunits : stringUnits code = [⟨false, code⟩] := if_pos ⟨by omega, .inl hplain.1⟩
    rw [hunits]
    exact scanUnits_plain (by omega) (by omega) hplain.1 rest
  · have hunits : stringUnits code = [⟨true, code⟩] := by
      unfold stringUnits
      rw [if_neg (by omega), if_pos hsmall]
    rw [hunits]
    exact scanUnits_escapeUnit hsmall rest
  · have hunits : stringUnits code =
        [⟨true, 0xd800 + (code - 0x10000) / 1024⟩, ⟨true, 0xdc00 + (code - 0x10000) % 1024⟩] := by
      unfold stringUnits
      rw [if_neg (by omega), if_neg hsmall]
    rw [hunits, List.append_assoc, scanUnits_escapeUnit (by omega), scanUnits_escapeUnit (by omega)]
    cases scanUnits rest with
    | none => rfl
    | some read => rfl

theorem scanUnits_text {text : Text} (htext : isUnicode text = true) (rest : Text) :
    scanUnits (text.flatMap escapeCode ++ 34 :: rest) = some (text.flatMap stringUnits, rest) := by
  unfold isUnicode at htext
  rw [List.all_eq_true] at htext
  induction text with
  | nil => simp [scanUnits]
  | cons code text ih =>
      have hcode := htext code List.mem_cons_self
      rw [decide_eq_true_eq, Nat.isValidChar] at hcode
      have htail := ih fun code' hcode' => htext code' (.tail _ hcode')
      rw [List.flatMap_cons, List.append_assoc, scanUnits_escapeCode (by omega), htail]
      rfl

/-- A unit that is no high surrogate is a character of its own. -/
theorem joinUnits_cons {unit : StringUnit} (h : isHighSurrogate unit.code = false)
    (units : List StringUnit) : joinUnits (unit :: units) = unit.code :: joinUnits units := by
  cases units with
  | nil => rfl
  | cons next units =>
      rw [joinUnits, h]
      simp

theorem joinUnits_text {text : Text} (htext : isUnicode text = true) :
    joinUnits (text.flatMap stringUnits) = text := by
  unfold isUnicode at htext
  rw [List.all_eq_true] at htext
  induction text with
  | nil => rfl
  | cons code text ih =>
      have hcode := htext code List.mem_cons_self
      rw [decide_eq_true_eq, Nat.isValidChar] at hcode
      have htail := ih fun code' hcode' => htext code' (.tail _ hcode')
      have hsingle : code < 0x10000 → isHighSurrogate code = false := by
        intro hsmall
        unfold isHighSurrogate
        rw [Bool.and_eq_false_iff, decide_eq_false_iff_not, decide_eq_false_iff_not]
        omega
      rw [List.flatMap_cons]
      by_cases hshort : code < 127 ∧ (32 ≤ code ∨ code = 8 ∨ code = 9 ∨ code = 10 ∨ code = 12 ∨ code = 13)
      · have hunits : stringUnits code = [⟨false, code⟩] := if_pos hshort
        rw [hunits, List.singleton_append, joinUnits_cons (hsingle (by omega)), htail]
      · by_cases hsmall : code < 0x10000
        · have hunits : stringUnits code = [⟨true, code⟩] := (if_neg hshort).trans (if_pos hsmall)
          rw [hunits, List.singleton_append, joinUnits_cons (hsingle hsmall), htail]
        · have hunits : stringUnits code = [⟨true, 0xd800 + (code - 0x10000) / 1024⟩,
              ⟨true, 0xdc00 + (code - 0x10000) % 1024⟩] := (if_neg hshort).trans (if_neg hsmall)
          have hhigh : isHighSurrogate (0xd800 + (code - 0x10000) / 1024) = true := by
            unfold isHighSurrogate
            rw [Bool.and_eq_true, decide_eq_true_eq, decide_eq_true_eq]
            omega
          have hlow : isLowSurrogate (0xdc00 + (code - 0x10000) % 1024) = true := by
            unfold isLowSurrogate
            rw [Bool.and_eq_true, decide_eq_true_eq, decide_eq_true_eq]
            omega
          have hjoin : joinSurrogates (0xd800 + (code - 0x10000) / 1024)
              (0xdc00 + (code - 0x10000) % 1024) = code := by
            unfold joinSurrogates
            omega
          rw [hunits, List.cons_append, List.singleton_append, joinUnits, hhigh, hlow]
          simp only [Bool.and_self, if_true, hjoin, htail]

theorem scanString_print {text : Text} (htext : isUnicode text = true) (rest : Text) :
    scanString (text.flatMap escapeCode ++ 34 :: rest) = .ok (text, rest) := by
  unfold scanString
  rw [scanUnits_text htext]
  dsimp only
  rw [joinUnits_text htext]

theorem printString_append (text rest : Text) :
    printString text ++ rest = 34 :: (text.flatMap escapeCode ++ 34 :: rest) := by
  unfold printString
  simp

/-- No literal starts with a digit, or with a minus and a digit. -/
theorem scanLiteral_number (number : JsonNumber) (rest : Text) :
    scanLiteral (number.print ++ rest) = none := by
  obtain ⟨digit, rest', htext⟩ := printNat_head number.whole
    (printFraction number.fraction ++ (printExponent number.exponent ++ rest))
  have hdigit : 48 ≤ digitCode digit ∧ digitCode digit ≤ 57 := by
    unfold digitCode
    omega
  have hfirst : ∀ code, code < 48 ∨ 57 < code → code ≠ digitCode digit := by
    intro code hcode
    omega
  rw [JsonNumber.print_append, htext]
  unfold scanLiteral literals
  cases number.negative with
  | true => simp [codes, afterLiteral, hfirst]
  | false => simp [codes, afterLiteral, hfirst]

/-! ### Values -/
mutual

/-- Plain ASCII, within the limits. -/
def Json.Readable (limits : JsonLimits) : Nat → Json → Prop
  | _, .null => True
  | _, .bool _ => True
  | _, .number number => number.Within limits
  | _, .nonFinite _ => True
  | _, .string text => Plain text
  | nesting, .array items => 0 < nesting ∧ ReadableItems limits (nesting - 1) items
  | nesting, .object members => 0 < nesting ∧ ReadableMembers limits (nesting - 1) members

def ReadableItems (limits : JsonLimits) : Nat → List Json → Prop
  | _, [] => True
  | nesting, item :: items => item.Readable limits nesting ∧ ReadableItems limits nesting items

def ReadableMembers (limits : JsonLimits) : Nat → List (Text × Json) → Prop
  | _, [] => True
  | nesting, (key, value) :: members =>
      Plain key ∧ value.Readable limits nesting ∧ ReadableMembers limits nesting members

end

mutual

/-- Texts without surrogates, within the limits. -/
def Json.Restorable (limits : JsonLimits) : Nat → Json → Prop
  | _, .null => True
  | _, .bool _ => True
  | _, .number number => number.Within limits
  | _, .nonFinite _ => True
  | _, .string text => isUnicode text = true
  | nesting, .array items => 0 < nesting ∧ RestorableItems limits (nesting - 1) items
  | nesting, .object members => 0 < nesting ∧ RestorableMembers limits (nesting - 1) members

def RestorableItems (limits : JsonLimits) : Nat → List Json → Prop
  | _, [] => True
  | nesting, item :: items => item.Restorable limits nesting ∧ RestorableItems limits nesting items

def RestorableMembers (limits : JsonLimits) : Nat → List (Text × Json) → Prop
  | _, [] => True
  | nesting, (key, value) :: members =>
      isUnicode key = true ∧ value.Restorable limits nesting ∧ RestorableMembers limits nesting members

end

mutual

theorem Json.Readable.restorable {limits : JsonLimits} {nesting : Nat} :
    ∀ {value : Json}, value.Readable limits nesting → value.Restorable limits nesting
  | .null, _ => trivial
  | .bool _, _ => trivial
  | .number _, h => h
  | .nonFinite _, _ => trivial
  | .string _, h => Plain.isUnicode h
  | .array _, h => ⟨h.1, restorable_items h.2⟩
  | .object _, h => ⟨h.1, restorable_members h.2⟩

theorem restorable_items {limits : JsonLimits} {nesting : Nat} :
    ∀ {items : List Json}, ReadableItems limits nesting items → RestorableItems limits nesting items
  | [], _ => trivial
  | _ :: _, h => ⟨h.1.restorable, restorable_items h.2⟩

theorem restorable_members {limits : JsonLimits} {nesting : Nat} :
    ∀ {members : List (Text × Json)}, ReadableMembers limits nesting members →
      RestorableMembers limits nesting members
  | [], _ => trivial
  | (_, _) :: _, h => ⟨h.1.isUnicode, h.2.1.restorable, restorable_members h.2.2⟩

end

theorem readDigit_space {code : Nat} (h : isSpace code = true) : readDigit code = none := by
  unfold isSpace at h
  simp only [Bool.or_eq_true, decide_eq_true_eq] at h
  unfold readDigit
  rw [dif_neg (by omega)]

/-- A value starts with a character that is neither a space nor a closing bracket or brace. -/
theorem Json.layOut_head (layout : JsonLayout) (depth : Nat) (value : Json) :
    ∃ code rest, value.layOut layout depth = code :: rest ∧ isSpace code = false ∧ code ≠ 93 ∧
      code ≠ 125 := by
  cases value with
  | null => exact ⟨110, codes "ull", rfl, rfl, by omega, by omega⟩
  | bool value =>
      cases value with
      | false => exact ⟨102, codes "alse", rfl, rfl, by omega, by omega⟩
      | true => exact ⟨116, codes "rue", rfl, rfl, by omega, by omega⟩
  | number number =>
      have hprint := JsonNumber.print_append number []
      obtain ⟨digit, rest, htext⟩ := printNat_head number.whole
        (printFraction number.fraction ++ (printExponent number.exponent ++ []))
      rw [List.append_nil, htext] at hprint
      unfold Json.layOut
      rw [hprint]
      cases number.negative with
      | true => exact ⟨45, digitCode digit :: rest, rfl, rfl, by omega, by omega⟩
      | false =>
          refine ⟨digitCode digit, rest, rfl, ?_, ?_, ?_⟩
          · apply Bool.eq_false_iff.mpr
            intro hspace
            have hnone := readDigit_space hspace
            rw [readDigit_digitCode] at hnone
            cases hnone
          · unfold digitCode
            omega
          · unfold digitCode
            omega
  | nonFinite literal =>
      cases literal with
      | nan => exact ⟨78, codes "aN", rfl, rfl, by omega, by omega⟩
      | infinity => exact ⟨73, codes "nfinity", rfl, rfl, by omega, by omega⟩
      | negativeInfinity => exact ⟨45, codes "Infinity", rfl, rfl, by omega, by omega⟩
  | string text => exact ⟨34, text.flatMap escapeCode ++ [34], rfl, rfl, by omega, by omega⟩
  | array items => exact ⟨91, layOutItems layout depth items ++ [93], rfl, rfl, by omega, by omega⟩
  | object members =>
      exact ⟨123, layOutMembers layout depth members ++ [125], rfl, rfl, by omega, by omega⟩

theorem skipSpaces_of_head {code : Nat} (rest : Text) (h : isSpace code = false) :
    skipSpaces (code :: rest) = code :: rest := by
  unfold skipSpaces
  rw [if_neg (by simp [h])]

theorem skipSpaces_blank {blank : Text} (hblank : Blank blank) (rest : Text) :
    skipSpaces (blank ++ rest) = skipSpaces rest := by
  induction blank with
  | nil => rfl
  | cons code blank ih =>
      rw [List.cons_append, skipSpaces, if_pos (hblank code List.mem_cons_self)]
      exact ih fun code' hcode' => hblank code' (.tail _ hcode')

/-- White space before a character that is none. -/
theorem skipSpaces_before {blank : Text} (hblank : Blank blank) {code : Nat} (rest : Text)
    (h : isSpace code = false) : skipSpaces (blank ++ code :: rest) = code :: rest := by
  rw [skipSpaces_blank hblank, skipSpaces_of_head rest h]

theorem skipSpaces_layOut (layout : JsonLayout) (depth : Nat) (value : Json) (rest : Text) :
    skipSpaces (value.layOut layout depth ++ rest) = value.layOut layout depth ++ rest := by
  obtain ⟨code, rest', hprint, hspace, -⟩ := value.layOut_head layout depth
  rw [hprint, List.cons_append, skipSpaces_of_head _ hspace]

theorem endsNumber_of_head {code : Nat} (rest : Text) (h : code = 44 ∨ code = 93 ∨ code = 125) :
    EndsNumber (code :: rest) := by
  intro code' hcode'
  obtain rfl := Option.some.inj hcode'
  refine ⟨?_, by omega, by omega, by omega⟩
  unfold readDigit
  rw [dif_neg (by omega)]

theorem endsNumber_of_blank {blank rest : Text} (hblank : Blank blank) (hrest : EndsNumber rest) :
    EndsNumber (blank ++ rest) := by
  cases blank with
  | nil => exact hrest
  | cons code blank =>
      intro code' hcode'
      obtain rfl := Option.some.inj hcode'
      have hspace := hblank code List.mem_cons_self
      refine ⟨readDigit_space hspace, ?_⟩
      unfold isSpace at hspace
      simp only [Bool.or_eq_true, decide_eq_true_eq] at hspace
      omega

section ReadBack

variable {limits : JsonLimits} {nesting fuel : Nat}

theorem scanValue_atom {code : Nat} (rest : Text) (hquote : code ≠ 34) (hbrace : code ≠ 123)
    (hbracket : code ≠ 91) :
    scanValue limits (fuel + 1) nesting (code :: rest) = scanAtom limits (code :: rest) := by
  unfold scanValue
  split
  · rename_i h
    exact absurd (List.cons.inj h).1 hquote
  · rename_i h
    exact absurd (List.cons.inj h).1 hbrace
  · rename_i h
    exact absurd (List.cons.inj h).1 hbracket
  · rfl

theorem scanValue_literal {literal : Text} {value : Json} (rest : Text)
    (hmem : (literal, value) ∈ literals) :
    scanValue limits (fuel + 1) nesting (literal ++ rest) = .ok (value, rest) := by
  unfold literals at hmem
  simp only [List.mem_cons, List.not_mem_nil, or_false, Prod.mk.injEq] at hmem
  rcases hmem with ⟨rfl, rfl⟩ | ⟨rfl, rfl⟩ | ⟨rfl, rfl⟩ | ⟨rfl, rfl⟩ | ⟨rfl, rfl⟩ | ⟨rfl, rfl⟩
  all_goals
    simp [codes, scanValue_atom, scanAtom, scanLiteral, literals, afterLiteral]

theorem scanValue_number (number : JsonNumber) (hwithin : number.Within limits) {rest : Text}
    (hrest : EndsNumber rest) :
    scanValue limits (fuel + 1) nesting (number.print ++ rest) = .ok (.number number, rest) := by
  have hscan : scanAtom limits (number.print ++ rest) = .ok (.number number, rest) := by
    unfold scanAtom
    rw [scanLiteral_number]
    exact scanNumber_append number hwithin hrest
  obtain ⟨digit, rest', htext⟩ := printNat_head number.whole
    (printFraction number.fraction ++ (printExponent number.exponent ++ rest))
  rw [JsonNumber.print_append, htext] at hscan ⊢
  cases hnegative : number.negative with
  | true =>
      rw [hnegative] at hscan
      rw [← hscan]
      exact scanValue_atom _ (by omega) (by omega) (by omega)
  | false =>
      rw [hnegative] at hscan
      rw [← hscan]
      unfold digitCode
      exact scanValue_atom _ (by omega) (by omega) (by omega)

theorem scanValue_string {text : Text} (htext : isUnicode text = true) (rest : Text) :
    scanValue limits (fuel + 1) nesting (printString text ++ rest) = .ok (.string text, rest) := by
  rw [printString_append]
  simp only [scanValue, scanString_print htext]

theorem scanItems_last {item : Json} {text closing rest : Text} (hclosing : Blank closing)
    (hitem : scanValue limits fuel nesting text = .ok (item, closing ++ 93 :: rest)) :
    scanItems limits (fuel + 1) nesting text = .ok ([item], rest) := by
  have hbracket := skipSpaces_before hclosing rest (show isSpace 93 = false from rfl)
  simp [scanItems, hitem, hbracket]

theorem scanItems_more {item : Json} {items : List Json} {text between more rest : Text}
    (hbetween : Blank between)
    (hitem : scanValue limits fuel nesting text = .ok (item, 44 :: (between ++ more)))
    (hmore : skipSpaces more = more)
    (hitems : scanItems limits fuel nesting more = .ok (items, rest)) :
    scanItems limits (fuel + 1) nesting text = .ok (item :: items, rest) := by
  have hcomma : skipSpaces (44 :: (between ++ more)) = 44 :: (between ++ more) :=
    skipSpaces_of_head _ rfl
  have hspaces := (skipSpaces_blank hbetween more).trans hmore
  simp [scanItems, hitem, hcomma, hspaces, hitems]

theorem scanMembers_last {key colon text closing rest : Text} {value : Json}
    (hkey : isUnicode key = true) (hcolon : Blank colon) (htext : skipSpaces text = text)
    (hclosing : Blank closing)
    (hvalue : scanValue limits fuel nesting text = .ok (value, closing ++ 125 :: rest)) :
    scanMembers limits (fuel + 1) nesting (printString key ++ 58 :: (colon ++ text)) =
      .ok ([(key, value)], rest) := by
  have hseparator : skipSpaces (58 :: (colon ++ text)) = 58 :: (colon ++ text) :=
    skipSpaces_of_head _ rfl
  have hspaces := (skipSpaces_blank hcolon text).trans htext
  have hbrace := skipSpaces_before hclosing rest (show isSpace 125 = false from rfl)
  rw [printString_append]
  simp [scanMembers, scanString_print hkey, hseparator, hspaces, hvalue, hbrace]

theorem scanMembers_more {key colon text between more rest : Text} {value : Json}
    {members : List (Text × Json)} (hkey : isUnicode key = true) (hcolon : Blank colon)
    (htext : skipSpaces text = text) (hbetween : Blank between)
    (hvalue : scanValue limits fuel nesting text = .ok (value, 44 :: (between ++ more)))
    (hmore : skipSpaces more = more)
    (hmembers : scanMembers limits fuel nesting more = .ok (members, rest)) :
    scanMembers limits (fuel + 1) nesting (printString key ++ 58 :: (colon ++ text)) =
      .ok ((key, value) :: members, rest) := by
  have hseparator : skipSpaces (58 :: (colon ++ text)) = 58 :: (colon ++ text) :=
    skipSpaces_of_head _ rfl
  have hspaces := (skipSpaces_blank hcolon text).trans htext
  have hcomma : skipSpaces (44 :: (between ++ more)) = 44 :: (between ++ more) :=
    skipSpaces_of_head _ rfl
  have hnext := (skipSpaces_blank hbetween more).trans hmore
  rw [printString_append]
  simp [scanMembers, scanString_print hkey, hseparator, hspaces, hvalue, hcomma, hnext, hmembers]

theorem scanValue_array {code : Nat} {items : List Json} {opening text rest : Text}
    (hopening : Blank opening) (hspaces : isSpace code = false) (hcode : code ≠ 93)
    (hitems : scanItems limits fuel nesting (code :: text) = .ok (items, rest)) :
    scanValue limits (fuel + 1) (nesting + 1) (91 :: (opening ++ code :: text)) =
      .ok (.array items, rest) := by
  have hskip := skipSpaces_before hopening text hspaces
  simp [scanValue, hskip, hcode, hitems]

theorem scanValue_object {code : Nat} {members : List (Text × Json)} {opening text rest : Text}
    (hopening : Blank opening) (hspaces : isSpace code = false) (hcode : code ≠ 125)
    (hmembers : scanMembers limits fuel nesting (code :: text) = .ok (members, rest)) :
    scanValue limits (fuel + 1) (nesting + 1) (123 :: (opening ++ code :: text)) =
      .ok (.object members, rest) := by
  have hskip := skipSpaces_before hopening text hspaces
  simp [scanValue, hskip, hcode, hmembers]

end ReadBack

/-- What follows an item up to the closing bracket. -/
theorem endsNumber_moreItems (layout : JsonLayout) (depth : Nat) (items : List Json) (rest : Text) :
    EndsNumber (layOutMoreItems layout depth items ++ 93 :: rest) := by
  cases items with
  | nil => exact endsNumber_of_blank (layout.blank_line depth) (endsNumber_of_head rest (by omega))
  | cons item items => exact endsNumber_of_head _ (by omega)

theorem endsNumber_moreMembers (layout : JsonLayout) (depth : Nat) (members : List (Text × Json))
    (rest : Text) : EndsNumber (layOutMoreMembers layout depth members ++ 125 :: rest) := by
  cases members with
  | nil => exact endsNumber_of_blank (layout.blank_line depth) (endsNumber_of_head rest (by omega))
  | cons member members => exact endsNumber_of_head _ (by omega)

mutual

/-- **A laid out value is read back.** -/
theorem scanValue_layOut (limits : JsonLimits) (layout : JsonLayout) :
    ∀ (fuel depth nesting : Nat) (value : Json) (rest : Text), value.Restorable limits nesting →
      EndsNumber rest → 2 * (value.layOut layout depth ++ rest).length < fuel →
      scanValue limits fuel nesting (value.layOut layout depth ++ rest) = .ok (value, rest)
  | 0, _, _, _, _, _, _, hfuel => absurd hfuel (Nat.not_lt_zero _)
  | fuel + 1, depth, nesting, value, rest, hvalue, hrest, hfuel => by
      cases value with
      | null => exact scanValue_literal rest (by simp [literals, Json.layOut])
      | bool value => cases value <;> exact scanValue_literal rest (by simp [literals, Json.layOut])
      | number number => exact scanValue_number number hvalue hrest
      | nonFinite literal =>
          cases literal <;> exact scanValue_literal rest (by simp [literals, Json.layOut, NonFinite.print])
      | string text => exact scanValue_string hvalue rest
      | array items =>
          obtain ⟨hnesting, hitems⟩ := hvalue
          obtain ⟨inner, rfl⟩ : ∃ inner, nesting = inner + 1 := ⟨nesting - 1, by omega⟩
          cases items with
          | nil => simp [Json.layOut, layOutItems, scanValue, skipSpaces, isSpace]
          | cons item items =>
              have htext : (Json.array (item :: items)).layOut layout depth ++ rest =
                  91 :: (layout.line (depth + 1) ++ (item.layOut layout (depth + 1) ++
                    (layOutMoreItems layout depth items ++ 93 :: rest))) := by
                simp [Json.layOut, layOutItems]
              rw [htext] at hfuel ⊢
              simp only [List.length_cons, List.length_append] at hfuel
              have hread := scanItems_layOut limits layout fuel depth inner item items rest hitems
                (by simp only [List.length_cons, List.length_append]; omega)
              obtain ⟨code, more, hprint, hspace, hclose, -⟩ := item.layOut_head layout (depth + 1)
              rw [hprint, List.cons_append] at hread ⊢
              exact scanValue_array (layout.blank_line _) hspace hclose hread
      | object members =>
          obtain ⟨hnesting, hmembers⟩ := hvalue
          obtain ⟨inner, rfl⟩ : ∃ inner, nesting = inner + 1 := ⟨nesting - 1, by omega⟩
          cases members with
          | nil => simp [Json.layOut, layOutMembers, scanValue, skipSpaces, isSpace]
          | cons member members =>
              obtain ⟨key, value⟩ := member
              have htext : (Json.object ((key, value) :: members)).layOut layout depth ++ rest =
                  123 :: (layout.line (depth + 1) ++ (printString key ++ 58 :: (layout.colon ++
                    (value.layOut layout (depth + 1) ++
                      (layOutMoreMembers layout depth members ++ 125 :: rest))))) := by
                simp [Json.layOut, layOutMembers]
              rw [htext] at hfuel ⊢
              simp only [List.length_cons, List.length_append] at hfuel
              have hread := scanMembers_layOut limits layout fuel depth inner key value members rest
                hmembers (by simp only [List.length_cons, List.length_append]; omega)
              rw [printString_append] at hread ⊢
              exact scanValue_object (layout.blank_line _) rfl (by omega) hread

theorem scanItems_layOut (limits : JsonLimits) (layout : JsonLayout) :
    ∀ (fuel depth nesting : Nat) (item : Json) (items : List Json) (rest : Text),
      RestorableItems limits nesting (item :: items) →
      2 * (item.layOut layout (depth + 1) ++
        (layOutMoreItems layout depth items ++ 93 :: rest)).length + 1 < fuel →
      scanItems limits fuel nesting (item.layOut layout (depth + 1) ++
        (layOutMoreItems layout depth items ++ 93 :: rest)) = .ok (item :: items, rest)
  | 0, _, _, _, _, _, _, hfuel => absurd hfuel (Nat.not_lt_zero _)
  | fuel + 1, depth, nesting, item, items, rest, hall, hfuel => by
      obtain ⟨hitem, hitems⟩ := hall
      have hread := scanValue_layOut limits layout fuel (depth + 1) nesting item
        (layOutMoreItems layout depth items ++ 93 :: rest) hitem
        (endsNumber_moreItems layout depth items rest) (by omega)
      cases items with
      | nil => exact scanItems_last (layout.blank_line depth) hread
      | cons next items =>
          have htext : layOutMoreItems layout depth (next :: items) ++ 93 :: rest =
              44 :: (layout.line (depth + 1) ++ (next.layOut layout (depth + 1) ++
                (layOutMoreItems layout depth items ++ 93 :: rest))) := by
            simp [layOutMoreItems]
          rw [htext] at hfuel hread ⊢
          simp only [List.length_cons, List.length_append] at hfuel
          exact scanItems_more (layout.blank_line (depth + 1)) hread (skipSpaces_layOut layout _ next _)
            (scanItems_layOut limits layout fuel depth nesting next items rest hitems
              (by simp only [List.length_cons, List.length_append]; omega))

theorem scanMembers_layOut (limits : JsonLimits) (layout : JsonLayout) :
    ∀ (fuel depth nesting : Nat) (key : Text) (value : Json) (members : List (Text × Json))
      (rest : Text),
      RestorableMembers limits nesting ((key, value) :: members) →
      2 * (printString key ++ 58 :: (layout.colon ++ (value.layOut layout (depth + 1) ++
        (layOutMoreMembers layout depth members ++ 125 :: rest)))).length + 1 < fuel →
      scanMembers limits fuel nesting (printString key ++ 58 :: (layout.colon ++
        (value.layOut layout (depth + 1) ++
          (layOutMoreMembers layout depth members ++ 125 :: rest)))) =
        .ok ((key, value) :: members, rest)
  | 0, _, _, _, _, _, _, _, hfuel => absurd hfuel (Nat.not_lt_zero _)
  | fuel + 1, depth, nesting, key, value, members, rest, hall, hfuel => by
      obtain ⟨hkey, hvalue, hmembers⟩ := hall
      simp only [List.length_cons, List.length_append] at hfuel
      have hread := scanValue_layOut limits layout fuel (depth + 1) nesting value
        (layOutMoreMembers layout depth members ++ 125 :: rest) hvalue
        (endsNumber_moreMembers layout depth members rest)
        (by simp only [List.length_cons, List.length_append]; omega)
      have hskip := skipSpaces_layOut layout (depth + 1) value
        (layOutMoreMembers layout depth members ++ 125 :: rest)
      cases members with
      | nil => exact scanMembers_last hkey layout.blank_colon hskip (layout.blank_line depth) hread
      | cons next members =>
          obtain ⟨nextKey, nextValue⟩ := next
          have htext : layOutMoreMembers layout depth ((nextKey, nextValue) :: members) ++ 125 :: rest =
              44 :: (layout.line (depth + 1) ++ (printString nextKey ++ 58 :: (layout.colon ++
                (nextValue.layOut layout (depth + 1) ++
                  (layOutMoreMembers layout depth members ++ 125 :: rest))))) := by
            simp [layOutMoreMembers]
          have hlength := congrArg List.length htext
          simp only [List.length_cons, List.length_append] at hlength
          rw [htext] at hread hskip ⊢
          have hquote : skipSpaces (printString nextKey ++ 58 :: (layout.colon ++
              (nextValue.layOut layout (depth + 1) ++
                (layOutMoreMembers layout depth members ++ 125 :: rest)))) =
              printString nextKey ++ 58 :: (layout.colon ++ (nextValue.layOut layout (depth + 1) ++
                (layOutMoreMembers layout depth members ++ 125 :: rest))) := by
            rw [printString_append]
            exact skipSpaces_of_head _ rfl
          exact scanMembers_more hkey layout.blank_colon hskip (layout.blank_line (depth + 1)) hread hquote
            (scanMembers_layOut limits layout fuel depth nesting nextKey nextValue members rest hmembers
              (by simp only [List.length_cons, List.length_append]; omega))

end

/-- A document is read back from its text with white space after it. -/
theorem parseJson_layOut {limits : JsonLimits} (layout : JsonLayout) {value : Json}
    (hvalue : value.Restorable limits limits.nesting) {closing : Text} (hclosing : Blank closing) :
    parseJson limits (value.layOut layout 0 ++ closing) = .ok value := by
  have hends : EndsNumber closing := by
    have hnil : EndsNumber [] := by
      intro code hcode
      cases hcode
    have hblank := endsNumber_of_blank hclosing hnil
    rwa [List.append_nil] at hblank
  have hread := scanValue_layOut limits layout (2 * (value.layOut layout 0 ++ closing).length + 1) 0
    limits.nesting value closing hvalue hends (by omega)
  have hskip := skipSpaces_blank hclosing []
  rw [List.append_nil] at hskip
  unfold parseJson
  rw [skipSpaces_layOut, hread]
  dsimp only
  rw [hskip]
  rfl

end IiotMonitoring
