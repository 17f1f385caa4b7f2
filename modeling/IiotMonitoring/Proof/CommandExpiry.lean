import IiotMonitoring.Firmware.UtcTime
import Mathlib.Algebra.Order.Field.Basic
import Mathlib.Data.List.Induction
import Mathlib.Data.Nat.Log

/-!
# Where a command's expiry is decided exactly

The accepted texts are those of the grammar, and no read leaves the string. The comparison of two
texts is that of their dates and times. It leaves the fraction of a second out, and takes any fraction
for a later instant, also one of zeros.
-/

namespace IiotMonitoring

/-! ### The grammar -/

/-- The shape of a UTC text, with `d` for a digit. -/
def utcShape (fraction : Nat) : List Char :=
  ['d', 'd', 'd', 'd', '-', 'd', 'd', '-', 'd', 'd', 'T', 'd', 'd', ':', 'd', 'd', ':', 'd', 'd'] ++
    ((if fraction = 0 then [] else '.' :: List.replicate fraction 'd') ++ ['Z'])

def FitsPlace (place character : Char) : Prop :=
  if place = 'd' then character.isDigit = true else character = place

def FitsShape (shape text : List Char) : Prop := List.Forall₂ FitsPlace shape text

theorem readChar_charAt {value : String} {index : Nat} (h : index ≤ value.toList.length) :
    readChar value index = some (charAt value index) := by
  unfold readChar charAt
  rcases Nat.lt_or_eq_of_le h with hlt | rfl
  · rw [List.getElem?_append_left hlt, List.getD_eq_getElem?_getD, List.getElem?_eq_getElem hlt]
    rfl
  · rw [List.getElem?_append_right (Nat.le_refl _), Nat.sub_self,
      List.getD_eq_getElem?_getD, List.getElem?_eq_none (Nat.le_refl _)]
    rfl

/-- A loop of reads inside the string comes to its test on the characters. -/
theorem allM_reads {α : Type} {items : List α} {read : α → Option Bool} (test : α → Bool)
    (h : ∀ item ∈ items, read item = some (test item)) : items.allM read = some (items.all test) := by
  induction items with
  | nil => rfl
  | cons item items ih =>
      rw [List.allM, h item (List.mem_cons_self ..), List.all_cons]
      cases test item with
      | false => rfl
      | true => exact ih fun item hitem => h item (List.mem_cons_of_mem _ hitem)

section Reads

variable {value : String}

theorem separatorsRead_eq (hlength : 20 ≤ value.toList.length) :
    separatorsRead value = some (charAt value 4 = '-' && (charAt value 7 = '-' &&
      (charAt value 10 = 'T' && (charAt value 13 = ':' && (charAt value 16 = ':' &&
        charAt value (value.toList.length - 1) = 'Z'))))) := by
  rw [separatorsRead, allM_reads fun place => charAt value place.1 = place.2]
  · simp only [List.all_cons, List.all_nil, Bool.and_true]
  · intro place hplace
    rw [readChar_charAt]
    · rfl
    · simp only [List.mem_cons, List.not_mem_nil, or_false] at hplace
      rcases hplace with rfl | rfl | rfl | rfl | rfl | rfl <;> dsimp only <;> omega

theorem digitsRead_eq (hlength : 20 ≤ value.toList.length) :
    digitsRead value = some ((List.range 19).all fun index =>
      index = 4 || index = 7 || index = 10 || index = 13 || index = 16 ||
        (charAt value index).isDigit) := by
  refine allM_reads _ ?_
  intro index hindex
  rw [List.mem_range] at hindex
  split_ifs with hseparator
  · rcases hseparator with rfl | rfl | rfl | rfl | rfl <;> rfl
  · rw [readChar_charAt (by omega)]
    simp only [not_or] at hseparator
    simp [hseparator]

theorem fractionRead_eq (hlength : 20 ≤ value.toList.length) :
    fractionRead value = some ((List.range' 20 (value.toList.length - 21)).all fun index =>
      (charAt value index).isDigit) := by
  refine allM_reads _ ?_
  intro index hindex
  rw [List.mem_range'_1] at hindex
  rw [readChar_charAt (by omega)]
  rfl

/-- The reads end with the verdict on the text. -/
theorem utcValueReads_eq (value : String) : utcValueReads value = some (utcValueIsValid value) := by
  unfold utcValueReads utcValueIsValid
  dsimp only
  by_cases hbounds : value.toList.length < 20 ∨ value.toList.length > 30
  · rcases hbounds with h | h <;> simp [h]
  rw [not_or, Nat.not_lt, gt_iff_lt, Nat.not_lt] at hbounds
  have hshort : ¬ value.toList.length < 20 := by omega
  have hlong : ¬ value.toList.length > 30 := by omega
  rw [separatorsRead_eq hbounds.1, digitsRead_eq hbounds.1, fractionRead_eq hbounds.1,
    readChar_charAt (by omega)]
  generalize ((List.range 19).all _) = digits
  generalize ((List.range' 20 (value.toList.length - 21)).all fun index =>
    (charAt value index).isDigit) = fraction
  simp only [hshort, hlong, Option.bind_eq_bind, Option.bind_some, Option.pure_def, or_self, if_false,
    ne_eq, decide_not, decide_false, Bool.false_or]
  split_ifs <;> simp_all only [Bool.not_and, Bool.or_eq_true, Bool.not_eq_true', Option.some_inj] <;> grind

end Reads

section Shape

variable {value : String}

theorem length_utcShape (fraction : Nat) :
    (utcShape fraction).length = if fraction = 0 then 20 else 21 + fraction := by
  unfold utcShape
  split_ifs with h
  · rfl
  · simp only [List.length_append, List.length_cons, List.length_nil, List.length_replicate]
    omega

/-- The characters from an index on, in their order. -/
theorem drop_charAt (start count : Nat) (h : start + count ≤ value.toList.length) :
    value.toList.drop start =
      (List.range' start count).map (charAt value) ++ value.toList.drop (start + count) := by
  induction count generalizing start with
  | zero => rfl
  | succ count ih =>
      have hlt : start < value.toList.length := by omega
      have hchar : charAt value start = value.toList[start] := by
        rw [charAt, List.getD_eq_getElem?_getD, List.getElem?_eq_getElem hlt]
        rfl
      rw [List.range'_succ, List.map_cons, List.cons_append, hchar,
        ← Nat.succ_add_eq_add_succ start count, List.drop_eq_getElem_cons hlt, ih (start + 1) (by omega)]

theorem fits_zulu {text : List Char} : FitsShape ['Z'] text ↔ text = ['Z'] := by
  rw [FitsShape, List.forall₂_cons_left_iff]
  simp [FitsPlace]

theorem fits_digits (start count : Nat) (text : List Char) :
    FitsShape (List.replicate count 'd' ++ ['Z'])
        ((List.range' start count).map (charAt value) ++ text) ↔
      (∀ index ∈ List.range' start count, (charAt value index).isDigit = true) ∧ text = ['Z'] := by
  induction count generalizing start with
  | zero => simpa using fits_zulu
  | succ count ih =>
      rw [List.replicate_succ, List.range'_succ, List.map_cons, List.cons_append, List.cons_append,
        FitsShape, List.forall₂_cons, List.forall_mem_cons, and_assoc]
      exact and_congr (Iff.of_eq (if_pos rfl)) (ih (start + 1))

/-- The first nineteen places of the shape. -/
theorem fits_date (rest text : List Char) :
    FitsShape (['d', 'd', 'd', 'd', '-', 'd', 'd', '-', 'd', 'd', 'T', 'd', 'd', ':', 'd', 'd', ':',
        'd', 'd'] ++ rest) ((List.range' 0 19).map (charAt value) ++ text) ↔
      (charAt value 4 = '-' ∧ charAt value 7 = '-' ∧ charAt value 10 = 'T' ∧ charAt value 13 = ':' ∧
        charAt value 16 = ':') ∧
      (List.range 19).all (fun index => index = 4 || index = 7 || index = 10 || index = 13 ||
        index = 16 || (charAt value index).isDigit) = true ∧
      FitsShape rest text := by
  have hplaces : List.range' 0 19 =
      [0, 1, 2, 3, 4, 5, 6, 7, 8, 9, 10, 11, 12, 13, 14, 15, 16, 17, 18] := rfl
  have hrange : List.range 19 =
      [0, 1, 2, 3, 4, 5, 6, 7, 8, 9, 10, 11, 12, 13, 14, 15, 16, 17, 18] := rfl
  simp only [hplaces, hrange, FitsShape, List.map_cons, List.map_nil, List.cons_append, List.nil_append,
    List.forall₂_cons, FitsPlace, List.all_cons, List.all_nil]
  simp
  constructor <;> intro h <;> simp only [h, and_self]

theorem drop_last (index : Nat) (h : index + 1 = value.toList.length) :
    value.toList.drop index = [charAt value index] := by
  rw [drop_charAt index 1 (by omega), List.drop_eq_nil_of_le (by omega)]
  rfl

/-- The characters after the nineteenth. -/
theorem drop_nineteen (hlow : 20 ≤ value.toList.length) (hdigits : value.toList.length ≠ 21) :
    value.toList.drop 19 = (if value.toList.length - 21 = 0 then [] else
      charAt value 19 :: (List.range' 20 (value.toList.length - 21)).map (charAt value)) ++
        [charAt value (value.toList.length - 1)] := by
  rcases Nat.eq_or_lt_of_le hlow with heq | hlong
  · rw [← heq, if_pos rfl, List.nil_append, drop_last 19 heq]
  · have hpoint : value.toList.drop 19 = charAt value 19 :: value.toList.drop 20 :=
      drop_charAt 19 1 (by omega)
    rw [if_neg (by omega), hpoint, drop_charAt 20 (value.toList.length - 21) (by omega),
      ← drop_last (value.toList.length - 1) (by omega), List.cons_append]
    congr 3
    omega

/-- The places after the nineteenth. -/
theorem fits_fraction (hlow : 20 ≤ value.toList.length) (hdigits : value.toList.length ≠ 21) :
    FitsShape ((if value.toList.length - 21 = 0 then [] else
        '.' :: List.replicate (value.toList.length - 21) 'd') ++ ['Z']) (value.toList.drop 19) ↔
      charAt value (value.toList.length - 1) = 'Z' ∧
        (value.toList.length ≤ 20 ∨ charAt value 19 = '.' ∧
          ∀ index ∈ List.range' 20 (value.toList.length - 21), (charAt value index).isDigit = true) := by
  rw [drop_nineteen hlow hdigits]
  split_ifs with hlong
  · rw [List.nil_append, List.nil_append, fits_zulu, List.singleton_inj]
    exact ⟨fun h => ⟨h, Or.inl (by omega)⟩, fun h => h.1⟩
  · have hfits := @fits_digits value 20 (value.toList.length - 21)
      [charAt value (value.toList.length - 1)]
    rw [FitsShape, List.singleton_inj] at hfits
    rw [List.cons_append, List.cons_append, FitsShape, List.forall₂_cons, hfits]
    constructor
    · rintro ⟨hpoint, hdigits, hzulu⟩
      exact ⟨hzulu, Or.inr ⟨hpoint, hdigits⟩⟩
    · rintro ⟨hzulu, hshort | ⟨hpoint, hdigits⟩⟩
      · omega
      · exact ⟨hpoint, hdigits, hzulu⟩

/-- The shape in terms of the characters. -/
theorem fits_utcShape (hlow : 20 ≤ value.toList.length) (hdigits : value.toList.length ≠ 21) :
    FitsShape (utcShape (value.toList.length - 21)) value.toList ↔
      (charAt value 4 = '-' ∧ charAt value 7 = '-' ∧ charAt value 10 = 'T' ∧ charAt value 13 = ':' ∧
        charAt value 16 = ':') ∧
      (List.range 19).all (fun index => index = 4 || index = 7 || index = 10 || index = 13 ||
        index = 16 || (charAt value index).isDigit) = true ∧
      charAt value (value.toList.length - 1) = 'Z' ∧
        (value.toList.length ≤ 20 ∨ charAt value 19 = '.' ∧
          ∀ index ∈ List.range' 20 (value.toList.length - 21),
            (charAt value index).isDigit = true) := by
  have htext := @drop_charAt value 0 19 (by omega)
  rw [List.drop_zero] at htext
  have hdate := @fits_date value ((if value.toList.length - 21 = 0 then [] else
    '.' :: List.replicate (value.toList.length - 21) 'd') ++ ['Z']) (value.toList.drop 19)
  rwa [← htext, fits_fraction hlow hdigits] at hdate

/-- The verdict is that of the shape for the text's length. -/
theorem utcValueIsValid_iff_fits (value : String) :
    utcValueIsValid value = true ↔
      20 ≤ value.toList.length ∧ value.toList.length ≤ 30 ∧ value.toList.length ≠ 21 ∧
        FitsShape (utcShape (value.toList.length - 21)) value.toList := by
  by_cases hbounds : 20 ≤ value.toList.length ∧ value.toList.length ≤ 30 ∧ value.toList.length ≠ 21
  · obtain ⟨hlow, hhigh, hdigits⟩ := hbounds
    rw [fits_utcShape hlow hdigits, utcValueIsValid]
    generalize (List.range 19).all _ = digits
    generalize charAt value = char
    simp only [ne_eq, Bool.and_eq_true, Bool.or_eq_true, Bool.not_eq_true', Bool.or_eq_false_iff,
      decide_eq_true_eq, decide_eq_false_iff_not, not_not, List.all_eq_true, Nat.not_lt,
      gt_iff_lt, hlow, hhigh, hdigits, true_and, not_false_eq_true]
    grind
  · have hrefused : utcValueIsValid value = false := by
      rw [utcValueIsValid]
      grind
    rw [hrefused]
    simp only [Bool.false_eq_true, false_iff]
    exact fun h => hbounds ⟨h.1, h.2.1, h.2.2.1⟩

theorem utcValueIsValid_iff_shape (value : String) :
    utcValueIsValid value = true ↔ ∃ fraction ≤ 9, FitsShape (utcShape fraction) value.toList := by
  rw [utcValueIsValid_iff_fits]
  constructor
  · rintro ⟨hlow, hhigh, hdigits, hfits⟩
    exact ⟨value.toList.length - 21, by omega, hfits⟩
  · rintro ⟨fraction, hfraction, hfits⟩
    have hlength := hfits.length_eq
    rw [length_utcShape] at hlength
    have hcount : value.toList.length - 21 = fraction := by
      split_ifs at hlength <;> omega
    rw [hcount]
    split_ifs at hlength with hzero
    · exact ⟨by omega, by omega, by omega, hfits⟩
    · exact ⟨by omega, by omega, by omega, hfits⟩

end Shape

/-! ### The numbers of a text -/

theorem length_fixedDigits (width value : Nat) : (fixedDigits width value).length = width := by
  induction width generalizing value with
  | zero => rfl
  | succ width ih => rw [fixedDigits, List.length_append, ih, List.length_singleton]

theorem toNat_digitChar {digit : Nat} (h : digit < 10) : (Nat.digitChar digit).toNat = 48 + digit := by
  revert digit
  decide

theorem exists_digitChar {character : Char} (h : character.isDigit = true) :
    ∃ digit < 10, character = Nat.digitChar digit := by
  obtain ⟨hlow, hhigh⟩ : 48 ≤ character.toNat ∧ character.toNat ≤ 57 := Char.isDigit_iff_toNat.mp h
  have hdigit : character.toNat - 48 < 10 := by omega
  refine ⟨character.toNat - 48, hdigit, Char.toNat_inj.mp ?_⟩
  rw [toNat_digitChar hdigit]
  omega

/-- Digits are the digits of a number. -/
theorem exists_fixedDigits (text : List Char)
    (h : ∀ character ∈ text, character.isDigit = true) :
    ∃ value < 10 ^ text.length, text = fixedDigits text.length value := by
  induction text using List.reverseRecOn with
  | nil => exact ⟨0, by decide, rfl⟩
  | append_singleton text last ih =>
      obtain ⟨value, hvalue, htext⟩ := ih fun character hmem =>
        h character (List.mem_append_left _ hmem)
      obtain ⟨digit, hdigit, rfl⟩ := exists_digitChar (h last (List.mem_append_right _ (by simp)))
      refine ⟨10 * value + digit, ?_, ?_⟩
      · rw [List.length_append, List.length_singleton, Nat.pow_succ]
        omega
      · have hdiv : (10 * value + digit) / 10 = value := by omega
        have hmod : (10 * value + digit) % 10 = digit := by omega
        rw [List.length_append, List.length_singleton, fixedDigits, hdiv, hmod, ← htext]

/-- What a UTC text says, fixed width by fixed width. -/
structure UtcParts where
  year : Nat
  month : Nat
  day : Nat
  hour : Nat
  minute : Nat
  second : Nat
  fractionDigits : Nat
  fraction : Nat
  year_lt : year < 10 ^ 4
  month_lt : month < 10 ^ 2
  day_lt : day < 10 ^ 2
  hour_lt : hour < 10 ^ 2
  minute_lt : minute < 10 ^ 2
  second_lt : second < 10 ^ 2
  fractionDigits_le : fractionDigits ≤ 9
  fraction_lt : fraction < 10 ^ fractionDigits

def UtcParts.endText (parts : UtcParts) : List Char :=
  (if parts.fractionDigits = 0 then [] else
    '.' :: fixedDigits parts.fractionDigits parts.fraction) ++ ['Z']

def UtcParts.text (parts : UtcParts) : List Char :=
  fixedDigits 4 parts.year ++
    (timeText parts.month parts.day parts.hour parts.minute parts.second ++ parts.endText)

theorem exists_twoDigits {first second : Char} (hfirst : first.isDigit = true)
    (hsecond : second.isDigit = true) : ∃ value < 10 ^ 2, [first, second] = fixedDigits 2 value :=
  exists_fixedDigits [first, second] (by simp [hfirst, hsecond])

/-- An accepted text says a date, a time and a fraction of a second. -/
theorem exists_parts {value : String} (h : utcValueIsValid value = true) :
    ∃ parts : UtcParts, value.toList = parts.text := by
  obtain ⟨hlow, hhigh, hlength, hfits⟩ := (utcValueIsValid_iff_fits value).mp h
  obtain ⟨⟨h4, h7, h10, h13, h16⟩, hdigits, hzulu, hfraction⟩ := (fits_utcShape hlow hlength).mp hfits
  have hdigit : ∀ index ∈ [0, 1, 2, 3, 5, 6, 8, 9, 11, 12, 14, 15, 17, 18],
      (charAt value index).isDigit = true := by
    intro index hindex
    have hplace := List.all_eq_true.mp hdigits index (by simp at hindex ⊢; omega)
    simp only [Bool.or_eq_true, decide_eq_true_eq] at hplace
    rcases hplace with ((((rfl | rfl) | rfl) | rfl) | rfl) | hdigit
    all_goals first | exact hdigit | exact absurd hindex (by decide)
  obtain ⟨year, hyear, hyears⟩ := exists_fixedDigits
    [charAt value 0, charAt value 1, charAt value 2, charAt value 3] (by simp [hdigit])
  obtain ⟨month, hmonth, hmonths⟩ :=
    exists_twoDigits (hdigit 5 (by decide)) (hdigit 6 (by decide))
  obtain ⟨day, hday, hdays⟩ := exists_twoDigits (hdigit 8 (by decide)) (hdigit 9 (by decide))
  obtain ⟨hour, hhour, hhours⟩ := exists_twoDigits (hdigit 11 (by decide)) (hdigit 12 (by decide))
  obtain ⟨minute, hminute, hminutes⟩ :=
    exists_twoDigits (hdigit 14 (by decide)) (hdigit 15 (by decide))
  obtain ⟨second, hsecond, hseconds⟩ :=
    exists_twoDigits (hdigit 17 (by decide)) (hdigit 18 (by decide))
  obtain ⟨fractionDigits, hcount, fraction, hfraction, hfractions⟩ :
      ∃ fractionDigits ≤ 9, ∃ fraction < 10 ^ fractionDigits,
        value.toList.drop (0 + 19) = (if fractionDigits = 0 then [] else
          '.' :: fixedDigits fractionDigits fraction) ++ ['Z'] := by
    rw [drop_nineteen hlow hlength, hzulu]
    refine ⟨value.toList.length - 21, by omega, ?_⟩
    split_ifs with hlong
    · exact ⟨0, Nat.pow_pos (by decide), rfl⟩
    · obtain ⟨hpoint, hdigits⟩ := hfraction.resolve_left (by omega)
      have hall : ∀ character ∈ (List.range' 20 (value.toList.length - 21)).map (charAt value),
          character.isDigit = true := by
        intro character hmem
        obtain ⟨index, hindex, rfl⟩ := List.mem_map.mp hmem
        exact hdigits index hindex
      obtain ⟨fraction, hlt, htext⟩ := exists_fixedDigits _ hall
      rw [List.length_map, List.length_range'] at hlt htext
      exact ⟨fraction, hlt, by rw [hpoint, htext]⟩
  refine ⟨⟨year, month, day, hour, minute, second, fractionDigits, fraction, hyear, hmonth, hday, hhour,
    hminute, hsecond, hcount, hfraction⟩, ?_⟩
  have htext := @drop_charAt value 0 19 (by omega)
  have hplaces : List.range' 0 19 =
      [0, 1, 2, 3, 4, 5, 6, 7, 8, 9, 10, 11, 12, 13, 14, 15, 16, 17, 18] := rfl
  rw [List.drop_zero, hfractions, hplaces] at htext
  rw [htext, UtcParts.text, UtcParts.endText, timeText]
  dsimp only
  rw [← hmonths, ← hdays, ← hhours, ← hminutes, ← hseconds]
  simp only [List.map_cons, List.map_nil, h4, h7, h10, h13, h16]
  exact congrArg (· ++ _) hyears

/-! ### Comparing texts -/

theorem strncmp_cons (first second : Char) (left right : List Char) (count : Nat) :
    strncmp (first :: left) (second :: right) (count + 1) =
      (compare first.toNat second.toNat).then (strncmp left right count) := rfl

theorem strncmp_append {left right : List Char} (h : left.length = right.length)
    (rest rest' : List Char) (count : Nat) :
    strncmp (left ++ rest) (right ++ rest') (left.length + count) =
      (strncmp left right left.length).then (strncmp rest rest' count) := by
  induction left generalizing right with
  | nil =>
      obtain rfl := List.length_eq_zero_iff.mp h.symm
      rw [List.length_nil, Nat.zero_add]
      cases rest with
      | nil => rfl
      | cons _ _ => rfl
  | cons first left ih =>
      obtain ⟨first', right, rfl⟩ := List.exists_cons_of_length_eq_add_one h.symm
      rw [List.length_cons, Nat.add_right_comm, List.cons_append, List.cons_append, strncmp_cons,
        strncmp_cons, ih (Nat.succ.inj h), Ordering.then_assoc]

/-- Digits compare as their numbers do. -/
theorem strncmp_fixedDigits {width left right : Nat} (hleft : left < 10 ^ width)
    (hright : right < 10 ^ width) :
    strncmp (fixedDigits width left) (fixedDigits width right) width = compare left right := by
  induction width generalizing left right with
  | zero =>
      rw [Nat.lt_one_iff.mp hleft, Nat.lt_one_iff.mp hright]
      rfl
  | succ width ih =>
      rw [Nat.pow_succ] at hleft hright
      have hlength := length_fixedDigits width (left / 10)
      have happend := strncmp_append
        (hlength.trans (length_fixedDigits width (right / 10)).symm)
        [Nat.digitChar (left % 10)] [Nat.digitChar (right % 10)] 1
      rw [hlength, ih (by omega) (by omega)] at happend
      rw [fixedDigits, fixedDigits, happend, strncmp_cons, toNat_digitChar (by omega),
        toNat_digitChar (by omega), compare_add_left, strncmp, Ordering.then_eq, compare_div_mod (by decide)]

theorem strncmp_field {separator : Char} {left right : Nat} {rest rest' : List Char}
    (hleft : left < 10 ^ 2) (hright : right < 10 ^ 2) (count : Nat) :
    strncmp (separator :: fixedDigits 2 left ++ rest) (separator :: fixedDigits 2 right ++ rest')
        (count + 3) =
      (compare left right).then (strncmp rest rest' count) := by
  have happend := strncmp_append
    ((length_fixedDigits 2 left).trans (length_fixedDigits 2 right).symm) rest rest' count
  rw [length_fixedDigits, strncmp_fixedDigits hleft hright, Nat.add_comm] at happend
  rw [List.cons_append, List.cons_append, strncmp_cons, happend, Nat.compare_eq_eq.mpr rfl]
  rfl

theorem strncmp_timeText {month day hour minute second month' day' hour' minute' second' : Nat}
    {rest rest' : List Char} (hmonth : month < 10 ^ 2) (hday : day < 10 ^ 2) (hhour : hour < 10 ^ 2)
    (hminute : minute < 10 ^ 2) (hsecond : second < 10 ^ 2) (hmonth' : month' < 10 ^ 2)
    (hday' : day' < 10 ^ 2) (hhour' : hour' < 10 ^ 2) (hminute' : minute' < 10 ^ 2)
    (hsecond' : second' < 10 ^ 2) :
    strncmp (timeText month day hour minute second ++ rest)
        (timeText month' day' hour' minute' second' ++ rest') 15 =
      (compare month month').then ((compare day day').then ((compare hour hour').then
        ((compare minute minute').then (compare second second')))) := by
  unfold timeText
  simp only [List.append_assoc]
  rw [strncmp_field hmonth hmonth', strncmp_field hday hday', strncmp_field hhour hhour',
    strncmp_field hminute hminute', strncmp_field hsecond hsecond', strncmp, Ordering.then_eq]

/-! ### The year -/

theorem toDigits_eq_fixedDigits {width value : Nat} (hlow : 10 ^ width ≤ value)
    (hhigh : value < 10 ^ (width + 1)) : Nat.toDigits 10 value = fixedDigits (width + 1) value := by
  induction width generalizing value with
  | zero =>
      have hdigit : value < 10 := hhigh
      rw [Nat.toDigits_of_lt_base hdigit, fixedDigits, fixedDigits, Nat.mod_eq_of_lt hdigit]
      rfl
  | succ width ih =>
      rw [Nat.pow_succ] at hlow hhigh
      have hdigit : value % 10 < 10 := Nat.mod_lt _ (by decide)
      have hpow : 0 < 10 ^ width := Nat.pow_pos (by decide)
      have happend := Nat.toDigits_append_toDigits (by decide : 1 < 10)
        (by omega : 0 < value / 10) hdigit
      rw [Nat.div_add_mod, ih (by omega) (by omega), Nat.toDigits_of_lt_base hdigit] at happend
      exact happend.symm

theorem fixedDigits_add (width count value : Nat) :
    fixedDigits (width + count) value =
      fixedDigits width (value / 10 ^ count) ++ fixedDigits count value := by
  induction count generalizing value with
  | zero => rw [Nat.pow_zero, Nat.div_one, fixedDigits, List.append_nil, Nat.add_zero]
  | succ count ih =>
      rw [← Nat.add_assoc, fixedDigits, ih, fixedDigits, List.append_assoc, Nat.div_div_eq_div_mul,
        Nat.pow_succ, Nat.mul_comm 10]

theorem isDigit_fixedDigits {width value : Nat} {character : Char}
    (h : character ∈ fixedDigits width value) : character.isDigit = true := by
  induction width generalizing value with
  | zero => cases h
  | succ width ih =>
      rw [fixedDigits, List.mem_append, List.mem_singleton] at h
      rcases h with h | rfl
      · exact ih h
      · rw [Nat.isDigit_digitChar]
        exact decide_eq_true (Nat.mod_lt _ (by decide))

/-- The first four digits of a year. -/
def leadingYear (year : Nat) : Nat := year / 10 ^ (Nat.log 10 year - 3)

theorem toDigits_year {year : Nat} (hlow : 1000 ≤ year) (hhigh : year < 10000) :
    Nat.toDigits 10 year = fixedDigits 4 year := toDigits_eq_fixedDigits hlow hhigh

/-- A year of more than four digits has a digit where a shorter one has a dash. -/
theorem toDigits_longYear {year : Nat} (hlong : 10000 ≤ year) :
    ∃ digit rest, digit.isDigit = true ∧ leadingYear year < 10 ^ 4 ∧
      Nat.toDigits 10 year = fixedDigits 4 (leadingYear year) ++ digit :: rest := by
  have hlog : 4 ≤ Nat.log 10 year := Nat.le_log_of_pow_le (by decide) hlong
  have hlow : 10 ^ Nat.log 10 year ≤ year := Nat.pow_log_le_self 10 (by omega)
  have hhigh : year < 10 ^ (Nat.log 10 year + 1) := Nat.lt_pow_succ_log_self (by decide) year
  obtain ⟨count, hcount⟩ : ∃ count, Nat.log 10 year = 4 + count := ⟨Nat.log 10 year - 4, by omega⟩
  have hleading : leadingYear year = year / 10 ^ (count + 1) := by
    rw [leadingYear, hcount]
    congr 2
    omega
  have hlt : leadingYear year < 10 ^ 4 := by
    rw [hleading]
    apply Nat.div_lt_of_lt_mul
    rw [← Nat.pow_add]
    rw [hcount] at hhigh
    convert hhigh using 2
    omega
  have htext : Nat.toDigits 10 year =
      fixedDigits 4 (leadingYear year) ++ fixedDigits (count + 1) year := by
    rw [toDigits_eq_fixedDigits hlow hhigh, hleading, ← fixedDigits_add, hcount, Nat.add_assoc]
  obtain ⟨digit, rest, hcons⟩ := List.exists_cons_of_length_eq_add_one
    (length_fixedDigits (count + 1) year)
  refine ⟨digit, rest, @isDigit_fixedDigits (count + 1) year _ ?_, hlt, ?_⟩
  · rw [hcons]
    exact List.mem_cons_self ..
  · rw [htext, hcons]

/-! ### Instants -/

/-- An instant of UTC. The last minute of a day may have a leap second. -/
@[ext]
structure UtcInstant where
  day : Nat
  minute : Nat
  second : ℚ

def UtcInstant.AtOrAfter (instant other : UtcInstant) : Prop :=
  other.day < instant.day ∨ other.day = instant.day ∧
    (other.minute < instant.minute ∨ other.minute = instant.minute ∧ other.second ≤ instant.second)

/-- The instant of a clock that counts the seconds since 1970. -/
def instantAt (time : Nat) : UtcInstant :=
  ⟨blockStart yearLength 1970 + time / 86400, time % 86400 / 60, (time % 60 : Nat)⟩

/-- The text denotes an instant of UTC: its date and its time of day exist. -/
def UtcParts.Denotes (parts : UtcParts) (instant : UtcInstant) : Prop :=
  ∃ date : CivilDate, date.year = parts.year ∧ date.month + 1 = parts.month ∧
    date.day + 1 = parts.day ∧ parts.hour < 24 ∧ parts.minute < 60 ∧
    (parts.second < 60 ∨ parts.hour = 23 ∧ parts.minute = 59 ∧ parts.second = 60) ∧
    instant = ⟨date.dayNumber, 60 * parts.hour + parts.minute,
      parts.second + parts.fraction / 10 ^ parts.fractionDigits⟩

/-- The year of the clock has four digits, and the text is not that of this very instant with a
fraction. Or the year has more digits, and the first four of them are not below the text's year. -/
def ExpiryExact (time : Nat) (parts : UtcParts) (instant : UtcInstant) : Prop :=
  let year := (dateFrom 1970 (time / 86400)).year
  year < 10000 ∧ ¬ (parts.fractionDigits ≠ 0 ∧ instant = instantAt time) ∨
    10000 ≤ year ∧ parts.year ≤ leadingYear year

theorem gmtime_eq_some {time : Nat} {utc : UtcTime} (h : gmtime time = some utc) :
    utc.date = dateFrom 1970 (time / 86400) ∧ utc.date.dayNumber = (instantAt time).day ∧
      utc.hour < 24 ∧ utc.minute < 60 ∧ utc.second < 60 ∧
      60 * utc.hour + utc.minute = (instantAt time).minute ∧
      (utc.second : ℚ) = (instantAt time).second := by
  rw [gmtime, Option.ite_none_right_eq_some, Option.some_inj] at h
  obtain ⟨-, rfl⟩ := h
  refine ⟨rfl, dayNumber_dateFrom 1970 _, ?_, ?_, ?_, ?_, rfl⟩
  all_goals dsimp only [instantAt]
  all_goals omega

theorem gatewayUtcNow_eq_some {time : Int} {size : Nat} {now : String}
    (h : gatewayUtcNow time size = some now) :
    ∃ utc, gmtime time.toNat = some utc ∧ now.toList = strftimeUtc utc := by
  unfold gatewayUtcNow at h
  split at h
  · cases h
  cases hutc : gmtime time.toNat with
  | none =>
      rw [hutc] at h
      cases h
  | some utc =>
      rw [hutc] at h
      dsimp only at h
      rw [Option.ite_none_right_eq_some, Option.some_inj] at h
      exact ⟨utc, rfl, by rw [← h.2, String.toList_ofList]⟩

theorem length_timeText (month day hour minute second : Nat) :
    (timeText month day hour minute second).length = 15 := by
  simp only [timeText, List.length_append, List.length_cons, length_fixedDigits]

theorem charAt_zulu {value : String} {parts : UtcParts} (h : value.toList = parts.text) :
    charAt value 19 = 'Z' ↔ parts.fractionDigits = 0 := by
  have hlength : (fixedDigits 4 parts.year ++
      timeText parts.month parts.day parts.hour parts.minute parts.second).length = 19 := by
    rw [List.length_append, length_fixedDigits, length_timeText]
  rw [charAt, h, UtcParts.text, ← List.append_assoc, List.getD_eq_getElem?_getD,
    List.getElem?_append_right hlength.le, hlength, UtcParts.endText]
  split_ifs with hzero
  · exact iff_of_true rfl hzero
  · exact iff_of_false (show ¬ '.' = 'Z' by decide) hzero

section Comparison

variable {time : Nat} {utc : UtcTime} {parts : UtcParts} {instant : UtcInstant} {date : CivilDate}

/-- The comparison of the texts is that of the instants without the fraction. -/
theorem strncmp_instants (hutc : gmtime time = some utc) (hyear : utc.date.year < 10000)
    (hdateYear : date.year = parts.year) (hdateMonth : date.month + 1 = parts.month)
    (hdateDay : date.day + 1 = parts.day) (hminute : parts.minute < 60) :
    strncmp (strftimeUtc utc) parts.text 19 =
      (compare (instantAt time).day date.dayNumber).then
        ((compare (instantAt time).minute (60 * parts.hour + parts.minute)).then
          (compare utc.second parts.second)) := by
  obtain ⟨hdate, hday, hhour, hminute', hsecond, hminutes, -⟩ := gmtime_eq_some hutc
  have hlow : 1970 ≤ utc.date.year := by
    rw [hdate]
    exact le_year_dateFrom 1970 _
  have hmonth := utc.date.month_lt
  have hdayLength : utc.date.day < 31 :=
    utc.date.day_lt.trans_le (by unfold monthLength; split_ifs <;> decide)
  have hyears := strncmp_append
    ((length_fixedDigits 4 utc.date.year).trans (length_fixedDigits 4 parts.year).symm)
    (timeText (utc.date.month + 1) (utc.date.day + 1) utc.hour utc.minute utc.second ++ ['Z'])
    (timeText parts.month parts.day parts.hour parts.minute parts.second ++ parts.endText) 15
  rw [length_fixedDigits, strncmp_fixedDigits hyear parts.year_lt, strncmp_timeText (by omega)
    (by omega) (by omega) (by omega) (by omega) parts.month_lt parts.day_lt parts.hour_lt
    parts.minute_lt parts.second_lt] at hyears
  have hmonths : compare (utc.date.month + 1) parts.month = compare utc.date.month date.month := by
    rw [← hdateMonth, Nat.add_comm, Nat.add_comm date.month, compare_add_left]
  have hdays : compare (utc.date.day + 1) parts.day = compare utc.date.day date.day := by
    rw [← hdateDay, Nat.add_comm, Nat.add_comm date.day, compare_add_left]
  have hclock : compare (60 * utc.hour + utc.minute) (60 * parts.hour + parts.minute) =
      (compare utc.hour parts.hour).then (compare utc.minute parts.minute) := by
    rw [← blockStart_const, ← blockStart_const, compare_place hminute' hminute]
  rw [strftimeUtc, toDigits_year (by omega) hyear, UtcParts.text, hyears, hmonths, hdays, ← hdateYear,
    ← hday, ← hminutes, CivilDate.compare_dayNumber, hclock]
  simp only [Ordering.then_assoc]

/-- A year of more than four digits is compared by its first four. -/
theorem strncmp_longYear (hlong : 10000 ≤ utc.date.year) :
    strncmp (strftimeUtc utc) parts.text 19 =
      (compare (leadingYear utc.date.year) parts.year).then .gt := by
  obtain ⟨digit, rest, hdigit, hlt, htext⟩ := toDigits_longYear hlong
  have hgt : compare digit.toNat '-'.toNat = .gt := by
    have hlow := (Char.isDigit_iff_toNat.mp hdigit).1
    exact Nat.compare_eq_gt.mpr (Nat.lt_of_lt_of_le (by decide) hlow)
  have hyears := strncmp_append
    ((length_fixedDigits 4 (leadingYear utc.date.year)).trans (length_fixedDigits 4 parts.year).symm)
    (digit :: (rest ++ (timeText (utc.date.month + 1) (utc.date.day + 1) utc.hour utc.minute
      utc.second ++ ['Z'])))
    (timeText parts.month parts.day parts.hour parts.minute parts.second ++ parts.endText) 15
  rw [length_fixedDigits, strncmp_fixedDigits hlt parts.year_lt] at hyears
  obtain ⟨clock, hdash⟩ : ∃ clock, timeText parts.month parts.day parts.hour parts.minute parts.second =
    '-' :: clock := ⟨_, rfl⟩
  rw [strftimeUtc, htext, List.append_assoc, UtcParts.text, List.cons_append, hyears, hdash,
    List.cons_append, strncmp_cons, hgt]
  rfl

/-- Between whole seconds, a fraction keeps the order of the seconds. -/
theorem fraction_le_iff {second second' : Nat} {fraction : ℚ} (hlow : 0 ≤ fraction)
    (hhigh : fraction < 1) :
    (second' : ℚ) + fraction ≤ second ↔ second' < second ∨ second' = second ∧ fraction = 0 := by
  constructor
  · intro h
    have hle : (second' : ℚ) ≤ second := by linarith
    rcases (Nat.cast_le.mp hle).lt_or_eq with hlt | rfl
    · exact Or.inl hlt
    · exact Or.inr ⟨rfl, by linarith⟩
  · rintro (hlt | ⟨rfl, hzero⟩)
    · have hstep : (second' : ℚ) + 1 ≤ second := by exact_mod_cast hlt
      linarith
    · rw [hzero, add_zero]

theorem fraction_eq_iff {second second' : Nat} {fraction : ℚ} (hlow : 0 ≤ fraction)
    (hhigh : fraction < 1) :
    (second' : ℚ) + fraction = second ↔ second' = second ∧ fraction = 0 := by
  constructor
  · intro h
    rcases (fraction_le_iff hlow hhigh).mp h.le with hlt | hsame
    · have hstep : (second' : ℚ) + 1 ≤ second := by exact_mod_cast hlt
      linarith
    · exact hsame
  · rintro ⟨rfl, hzero⟩
    rw [hzero, add_zero]

theorem UtcParts.fraction_bounds (parts : UtcParts) :
    0 ≤ (parts.fraction : ℚ) / 10 ^ parts.fractionDigits ∧
      (parts.fraction : ℚ) / 10 ^ parts.fractionDigits < 1 := by
  have hpos : (0 : ℚ) < 10 ^ parts.fractionDigits := by positivity
  refine ⟨by positivity, (div_lt_one hpos).mpr ?_⟩
  exact_mod_cast parts.fraction_lt

theorem UtcParts.fraction_zero {parts : UtcParts} (h : parts.fractionDigits = 0) :
    (parts.fraction : ℚ) / 10 ^ parts.fractionDigits = 0 := by
  have hlt := parts.fraction_lt
  rw [h, Nat.pow_zero, Nat.lt_one_iff] at hlt
  rw [hlt, Nat.cast_zero, zero_div]

/-- A clock with a year of four digits. -/
theorem expired_iff_year {now value : String} (hnow : now.toList = strftimeUtc utc)
    (hvalue : value.toList = parts.text) (hutc : gmtime time = some utc)
    (hyear : utc.date.year < 10000) (hdenotes : parts.Denotes instant) :
    (utcExpired now value = true ↔ (instantAt time).AtOrAfter instant) ↔
      ¬ (parts.fractionDigits ≠ 0 ∧ instant = instantAt time) := by
  obtain ⟨date, hdateYear, hdateMonth, hdateDay, -, hminute, -, rfl⟩ := hdenotes
  obtain ⟨hlow, hhigh⟩ := parts.fraction_bounds
  have hsecond := (gmtime_eq_some hutc).2.2.2.2.2.2
  have hcompare := strncmp_instants hutc hyear hdateYear hdateMonth hdateDay hminute
  have hexpired : utcExpired now value = true ↔
      strncmp (strftimeUtc utc) parts.text 19 = .gt ∨
        strncmp (strftimeUtc utc) parts.text 19 = .eq ∧ parts.fractionDigits = 0 := by
    rw [← charAt_zulu hvalue, utcExpired, hnow, hvalue]
    simp
  rw [hexpired, hcompare, UtcInstant.AtOrAfter]
  simp only [Ordering.then_eq_gt, Ordering.then_eq_eq, Nat.compare_eq_gt, Nat.compare_eq_eq]
  have hinstant : UtcInstant.mk date.dayNumber (60 * parts.hour + parts.minute)
      (parts.second + parts.fraction / 10 ^ parts.fractionDigits) = instantAt time ↔
      date.dayNumber = (instantAt time).day ∧
        60 * parts.hour + parts.minute = (instantAt time).minute ∧ parts.second = utc.second ∧
        (parts.fraction : ℚ) / 10 ^ parts.fractionDigits = 0 := by
    rw [← fraction_eq_iff hlow hhigh, hsecond]
    exact UtcInstant.ext_iff
  have hzero : parts.fractionDigits = 0 → (parts.fraction : ℚ) / 10 ^ parts.fractionDigits = 0 :=
    UtcParts.fraction_zero
  rw [← hsecond, fraction_le_iff hlow hhigh, hinstant]
  clear hcompare hexpired hinstant hsecond hlow hhigh hvalue
  generalize (parts.fraction : ℚ) / 10 ^ parts.fractionDigits = fraction at hzero ⊢
  grind

/-- A clock with a longer year. -/
theorem expired_iff_longYear {now value : String} (hnow : now.toList = strftimeUtc utc)
    (hvalue : value.toList = parts.text) (hutc : gmtime time = some utc)
    (hlong : 10000 ≤ utc.date.year) (hdenotes : parts.Denotes instant) :
    (utcExpired now value = true ↔ (instantAt time).AtOrAfter instant) ↔
      parts.year ≤ leadingYear utc.date.year := by
  obtain ⟨date, hdateYear, -, -, -, -, -, rfl⟩ := hdenotes
  have hafter : date.dayNumber < (instantAt time).day := by
    rw [← (gmtime_eq_some hutc).2.1]
    apply CivilDate.dayNumber_lt
    have hlt := parts.year_lt
    omega
  rw [iff_true_right (show UtcInstant.AtOrAfter _ _ from Or.inl hafter), utcExpired, hnow, hvalue,
    strncmp_longYear hlong, Nat.le_iff_lt_or_eq, ← Nat.compare_eq_gt,
    @eq_comm _ parts.year, ← Nat.compare_eq_eq]
  have hverdict : ∀ (order : Ordering) (zulu : Bool), (decide (order.then .gt = .gt) ||
      decide (order.then .gt = .eq) && zulu) = true ↔ order = .gt ∨ order = .eq := by
    decide
  exact hverdict _ _

end Comparison

/-- **The expiry of a command.** A text is accepted exactly if it has the shape, and no read leaves
it. An accepted text says a date and a time, and where they are an instant of UTC, the verdict on its
expiry is right exactly if the clock has a year of four digits and the text is not this very instant
with a fraction, or the year is longer and starts with no less than the text's. -/
theorem command_expiry (value : String) :
    utcValueReads value = some (utcValueIsValid value) ∧
      (utcValueIsValid value = true ↔
        ∃ fraction ≤ 9, FitsShape (utcShape fraction) value.toList) ∧
      (utcValueIsValid value = true → ∃ parts : UtcParts, value.toList = parts.text) ∧
      ∀ (time : Int) (now : String), gatewayUtcNow time 32 = some now →
        ∀ parts : UtcParts, value.toList = parts.text →
        ∀ instant, parts.Denotes instant →
          ((utcExpired now value = true ↔ (instantAt time.toNat).AtOrAfter instant) ↔
            ExpiryExact time.toNat parts instant) := by
  refine ⟨utcValueReads_eq value, utcValueIsValid_iff_shape value, exists_parts, ?_⟩
  intro time now hnow parts hvalue instant hdenotes
  obtain ⟨utc, hutc, htext⟩ := gatewayUtcNow_eq_some hnow
  have hdate := (gmtime_eq_some hutc).1
  rw [ExpiryExact, ← hdate]
  rcases Nat.lt_or_ge utc.date.year 10000 with hyear | hlong
  · rw [expired_iff_year htext hvalue hutc hyear hdenotes]
    simp only [hyear, true_and, Nat.not_le.mpr hyear, false_and, or_false]
  · rw [expired_iff_longYear htext hvalue hutc hlong hdenotes]
    simp only [hlong, true_and, Nat.not_lt.mpr hlong, false_and, false_or]

section NewYear

def newYearParts : UtcParts where
  year := 2026
  month := 1
  day := 1
  hour := 0
  minute := 0
  second := 0
  fractionDigits := 3
  fraction := 0
  year_lt := by decide
  month_lt := by decide
  day_lt := by decide
  hour_lt := by decide
  minute_lt := by decide
  second_lt := by decide
  fractionDigits_le := by decide
  fraction_lt := by decide

theorem newYear_text : "2026-01-01T00:00:00.000Z".toList = newYearParts.text := by decide

theorem newYear_now : gatewayUtcNow 1767225600 32 = some "2026-01-01T00:00:00Z" := by decide

theorem newYear_denotes : newYearParts.Denotes (instantAt 1767225600) := by
  refine ⟨dateFrom 1970 20454, by decide, by decide, by decide, by decide,
    by decide, Or.inl (by decide), ?_⟩
  rw [dayNumber_dateFrom]
  apply UtcInstant.ext
  · rfl
  · rfl
  · norm_num [instantAt, newYearParts]

theorem command_expiry_newYear :
    (utcExpired "2026-01-01T00:00:00Z" "2026-01-01T00:00:00.000Z" = true ↔
        (instantAt 1767225600).AtOrAfter (instantAt 1767225600)) ↔
      ExpiryExact 1767225600 newYearParts (instantAt 1767225600) :=
  (command_expiry "2026-01-01T00:00:00.000Z").2.2.2 1767225600 _ newYear_now newYearParts newYear_text _
    newYear_denotes

/-- At the instant of its expiry, written with a fraction of zeros, a command is not expired. -/
theorem zero_fraction_not_expired :
    ¬ ∀ value : String, utcValueIsValid value = true →
      ∀ (time : Int) (now : String), gatewayUtcNow time 32 = some now →
        ∀ parts : UtcParts, value.toList = parts.text → ∀ instant, parts.Denotes instant →
          (utcExpired now value = true ↔ (instantAt time.toNat).AtOrAfter instant) := by
  intro h
  have hnow := (h "2026-01-01T00:00:00.000Z" (by decide) 1767225600 _ newYear_now newYearParts
    newYear_text _ newYear_denotes).mpr (Or.inr ⟨rfl, Or.inr ⟨rfl, le_rfl⟩⟩)
  revert hnow
  decide

end NewYear

end IiotMonitoring
