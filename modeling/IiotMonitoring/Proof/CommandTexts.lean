import IiotMonitoring.Proof.CommandExpiry
import IiotMonitoring.Server.CommandPayload

/-!
# The times and ids of an issued command

The text of an expiry is one that the gateway accepts, and it says the instant. A clock that is behind
this instant by its second finds the command unexpired.
-/

namespace IiotMonitoring

/-! ### Replacing -/

theorem replaceFrom_skip (old new skipped rest : List Char) :
    replaceFrom old new skipped.length (skipped ++ rest) = replaceFrom old new 0 rest := by
  induction skipped with
  | nil => rfl
  | cons first skipped ih => exact ih

/-- Nothing is replaced where the first character of `old` does not stand. -/
theorem replaceFrom_other {first : Char} {old new text : List Char} (rest : List Char)
    (h : first ∉ text) :
    replaceFrom (first :: old) new 0 (text ++ rest) = text ++ replaceFrom (first :: old) new 0 rest := by
  induction text with
  | nil => rfl
  | cons head text ih =>
      obtain ⟨hhead, htext⟩ := not_or.mp (mt List.mem_cons.mpr h)
      rw [List.cons_append, List.cons_append, replaceFrom, if_neg (by simp [hhead]), ih htext]

theorem replaceText_end {first : Char} {old new text : List Char} (h : first ∉ text) :
    replaceText (first :: old) new (text ++ first :: old) = text ++ new := by
  have hskip := replaceFrom_skip (first :: old) new old []
  rw [List.append_nil] at hskip
  unfold replaceText
  rw [replaceFrom_other _ h, replaceFrom, if_pos (by simp), List.length_cons, Nat.add_sub_cancel, hskip,
    replaceFrom, List.append_nil]

/-! ### Accepted texts -/

theorem fitsShape_append {shape shape' text text' : List Char} (h : FitsShape shape text)
    (h' : FitsShape shape' text') : FitsShape (shape ++ shape') (text ++ text') :=
  List.rel_append h h'

theorem fitsShape_fixedDigits (width value : Nat) :
    FitsShape (List.replicate width 'd') (fixedDigits width value) := by
  induction width generalizing value with
  | zero => exact .nil
  | succ width ih =>
      rw [List.replicate_succ', fixedDigits]
      apply fitsShape_append (ih _)
      refine .cons ?_ .nil
      rw [FitsPlace, if_pos rfl, Nat.isDigit_digitChar]
      exact decide_eq_true (Nat.mod_lt value (by decide))

theorem fitsShape_character {character : Char} (h : character ≠ 'd') {shape text : List Char}
    (hrest : FitsShape shape text) : FitsShape (character :: shape) (character :: text) :=
  .cons (by rw [FitsPlace, if_neg h]) hrest

theorem UtcParts.fits (parts : UtcParts) : FitsShape (utcShape parts.fractionDigits) parts.text := by
  have hend : FitsShape ((if parts.fractionDigits = 0 then [] else
      '.' :: List.replicate parts.fractionDigits 'd') ++ ['Z']) parts.endText := by
    unfold UtcParts.endText
    apply fitsShape_append
    · split_ifs
      · exact .nil
      · exact fitsShape_character (by decide) (fitsShape_fixedDigits _ _)
    · exact fitsShape_character (by decide) .nil
  have hpair : ∀ {separator : Char} (value : Nat) {shape text : List Char}, separator ≠ 'd' →
      FitsShape shape text → FitsShape (separator :: (List.replicate 2 'd' ++ shape))
        (separator :: (fixedDigits 2 value ++ text)) := fun value _ _ hseparator hrest =>
    fitsShape_character hseparator (fitsShape_append (fitsShape_fixedDigits 2 value) hrest)
  have htime := hpair parts.month (show '-' ≠ 'd' by decide)
    (hpair parts.day (show '-' ≠ 'd' by decide) (hpair parts.hour (show 'T' ≠ 'd' by decide)
      (hpair parts.minute (show ':' ≠ 'd' by decide)
        (hpair parts.second (show ':' ≠ 'd' by decide) hend))))
  have htext := fitsShape_append (fitsShape_fixedDigits 4 parts.year) htime
  unfold UtcParts.text timeText
  simpa [utcShape, List.append_assoc] using htext

theorem UtcParts.valid (parts : UtcParts) {value : String} (h : value.toList = parts.text) :
    utcValueIsValid value = true := by
  rw [utcValueIsValid_iff_shape, h]
  exact ⟨parts.fractionDigits, parts.fractionDigits_le, parts.fits⟩

/-! ### Times -/

theorem blockStart_1970 : blockStart yearLength 1970 = 719528 := by
  have hdays := blockStart_yearLength 1970
  omega

/-- The instant of a time in microseconds since 1970. -/
def zuluInstant (value : Int) : UtcInstant :=
  let microsecond := (value % 86400000000).toNat
  ⟨(value / 86400000000 + 719528).toNat, microsecond / 60000000,
    (microsecond % 60000000 : Nat) / 1000000⟩

section Zulu

variable {value : Int}

theorem year_zulu_lt (hmax : value ≤ datetimeMax) :
    (dateFrom 0 (value / 86400000000 + 719528).toNat).year < 10000 := by
  apply year_dateFrom_lt
  have hend := blockStart_yearLength 10000
  unfold datetimeMax at hmax
  rw [blockStart]
  omega

/-- What the text of a time says. -/
def zuluParts (value : Int) (hmax : value ≤ datetimeMax) : UtcParts :=
  let date := dateFrom 0 (value / 86400000000 + 719528).toNat
  let microsecond := (value % 86400000000).toNat
  let second := microsecond / 1000000
  have hday : date.day < 31 := date.day_lt.trans_le (by unfold monthLength; split_ifs <;> decide)
  have hmonth := date.month_lt
  { year := date.year
    month := date.month + 1
    day := date.day + 1
    hour := second / 3600
    minute := second % 3600 / 60
    second := second % 60
    fractionDigits := if microsecond % 1000000 = 0 then 0 else 6
    fraction := microsecond % 1000000
    year_lt := year_zulu_lt hmax
    month_lt := by omega
    day_lt := by omega
    hour_lt := by omega
    minute_lt := by omega
    second_lt := by omega
    fractionDigits_le := by split_ifs <;> decide
    fraction_lt := by split_ifs <;> omega }

theorem plus_notMem (width number : Nat) : '+' ∉ fixedDigits width number := by
  intro h
  have hdigit := isDigit_fixedDigits h
  revert hdigit
  decide

theorem zuluText_eq (hmax : value ≤ datetimeMax) :
    (zuluText value).toList = (zuluParts value hmax).text := by
  have hplus : '+' ∉ fixedDigits 4 (zuluParts value hmax).year ++
      (timeText (zuluParts value hmax).month (zuluParts value hmax).day (zuluParts value hmax).hour
        (zuluParts value hmax).minute (zuluParts value hmax).second ++
          if (value % 86400000000).toNat % 1000000 = 0 then [] else
            '.' :: fixedDigits 6 ((value % 86400000000).toNat % 1000000)) := by
    unfold timeText
    split_ifs
    · simp [plus_notMem]
    · simp [plus_notMem]
  have hreplace := @replaceText_end '+' ['0', '0', ':', '0', '0'] ['Z'] _ hplus
  have hend : (zuluParts value hmax).endText = (if (value % 86400000000).toNat % 1000000 = 0 then []
      else '.' :: fixedDigits 6 ((value % 86400000000).toNat % 1000000)) ++ ['Z'] := by
    unfold UtcParts.endText zuluParts
    by_cases hzero : (value % 86400000000).toNat % 1000000 = 0
    · simp [hzero]
    · simp [hzero]
  rw [zuluText, String.toList_ofList, UtcParts.text, hend]
  rw [List.append_assoc, List.append_assoc] at hreplace
  exact hreplace

theorem zuluParts_denotes (hmax : value ≤ datetimeMax) :
    (zuluParts value hmax).Denotes (zuluInstant value) := by
  refine ⟨dateFrom 0 (value / 86400000000 + 719528).toNat, rfl, rfl, rfl, ?_, ?_, .inl ?_, ?_⟩
  · dsimp only [zuluParts]
    omega
  · dsimp only [zuluParts]
    omega
  · dsimp only [zuluParts]
    omega
  · rw [dayNumber_dateFrom, blockStart, Nat.zero_add]
    apply UtcInstant.ext
    · rfl
    · dsimp only [zuluParts, zuluInstant]
      omega
    · dsimp only [zuluParts, zuluInstant]
      have hsplit : (value % 86400000000).toNat % 60000000 =
          1000000 * ((value % 86400000000).toNat / 1000000 % 60) +
            (value % 86400000000).toNat % 1000000 := by omega
      rw [hsplit]
      split_ifs with hzero
      · rw [hzero]
        push_cast
        ring
      · push_cast
        ring

/-- A clock behind the time by its second is before the instant. -/
theorem not_atOrAfter_zulu (hmin : datetimeMin ≤ value) {time : Nat} (h : time * 1000000 < value) :
    ¬ (instantAt time).AtOrAfter (zuluInstant value) := by
  unfold datetimeMin at hmin
  have hsecond : ((value % 86400000000).toNat % 60000000 : ℕ) / (1000000 : ℚ) ≤ ((time % 60 : ℕ) : ℚ) ↔
      (value % 86400000000).toNat % 60000000 ≤ time % 60 * 1000000 := by
    rw [div_le_iff₀ (by norm_num)]
    norm_cast
  unfold UtcInstant.AtOrAfter instantAt zuluInstant
  dsimp only
  rw [hsecond, blockStart_1970]
  omega

/-- A clock behind the time by its second finds no expiry. -/
theorem not_expired_zulu (hmin : datetimeMin ≤ value) (hmax : value ≤ datetimeMax) {time : Int}
    (h : time * 1000000 < value) {now : String} (hnow : gatewayUtcNow time 32 = some now) :
    utcExpired now (zuluText value) = false := by
  obtain ⟨utc, hutc, htext⟩ := gatewayUtcNow_eq_some hnow
  have htime : 0 ≤ time := by
    unfold gatewayUtcNow at hnow
    split_ifs at hnow with hunsynchronized
    omega
  have hbehind : (time.toNat : Int) * 1000000 < value := by omega
  have hnot := not_atOrAfter_zulu hmin hbehind
  have hyear : utc.date.year < 10000 := by
    rw [(gmtime_eq_some hutc).1]
    apply year_dateFrom_lt
    have hend := blockStart_yearLength 10000
    unfold datetimeMax at hmax
    rw [blockStart_1970]
    omega
  have hexpired := expired_iff_year htext (zuluText_eq hmax) hutc hyear (zuluParts_denotes hmax)
  rw [iff_false_right hnot, Bool.not_eq_true] at hexpired
  apply hexpired.mpr
  rintro ⟨-, hsame⟩
  rw [hsame] at hnot
  exact hnot (.inr ⟨rfl, .inr ⟨rfl, le_rfl⟩⟩)

theorem zuluText_valid (hmax : value ≤ datetimeMax) : utcValueIsValid (zuluText value) = true :=
  (zuluParts value hmax).valid (zuluText_eq hmax)

end Zulu

/-- The text of a time in whole seconds. -/
theorem zuluText_seconds {value : Int} (hmax : value ≤ datetimeMax) {second : Nat}
    (hsecond : (value % 86400000000).toNat = second * 1000000) {date : CivilDate}
    (hdate : dateFrom 0 (value / 86400000000 + 719528).toNat = date) :
    (zuluText value).toList = fixedDigits 4 date.year ++
      (timeText (date.month + 1) (date.day + 1) (second / 3600) (second % 3600 / 60) (second % 60) ++
        ['Z']) := by
  subst hdate
  have hdigits : (zuluParts value hmax).fractionDigits = 0 := by
    dsimp only [zuluParts]
    rw [if_pos (by omega)]
  have hhour : (zuluParts value hmax).hour = second / 3600 := by
    dsimp only [zuluParts]
    omega
  have hminute : (zuluParts value hmax).minute = second % 3600 / 60 := by
    dsimp only [zuluParts]
    omega
  have hseconds : (zuluParts value hmax).second = second % 60 := by
    dsimp only [zuluParts]
    omega
  rw [zuluText_eq hmax, UtcParts.text, UtcParts.endText, if_pos hdigits, hhour, hminute, hseconds,
    List.nil_append]
  rfl

/-- The clock's text is that of its time. -/
theorem gatewayUtcNow_zulu {time : Int} (hmax : time * 1000000 ≤ datetimeMax) {now : String}
    (hnow : gatewayUtcNow time 32 = some now) : now = zuluText (time * 1000000) := by
  obtain ⟨utc, hutc, htext⟩ := gatewayUtcNow_eq_some hnow
  have htime : 0 ≤ time := by
    unfold gatewayUtcNow at hnow
    split_ifs at hnow with hunsynchronized
    omega
  obtain ⟨seconds, rfl⟩ := Int.eq_ofNat_of_zero_le htime
  have hdays : ((seconds : Int) * 1000000 / 86400000000 + 719528).toNat = 719528 + seconds / 86400 := by
    omega
  have hdate : dateFrom 0 ((seconds : Int) * 1000000 / 86400000000 + 719528).toNat =
      dateFrom 1970 (seconds / 86400) := by
    rw [dateFrom_later 1970, blockStart_1970]
    exact congrArg (dateFrom 0) hdays
  have hlow := le_year_dateFrom 1970 (seconds / 86400)
  have hhigh := year_zulu_lt hmax
  have htime := @zuluText_seconds _ hmax (seconds % 86400) (by omega) _ hdate
  rw [hdate] at hhigh
  rw [Int.toNat_natCast, gmtime, Option.ite_none_right_eq_some, Option.some_inj] at hutc
  obtain ⟨-, rfl⟩ := hutc
  have hminute : seconds % 86400 % 3600 / 60 = seconds % 3600 / 60 := by omega
  have hsecond : seconds % 86400 % 60 = seconds % 60 := by omega
  rw [hminute, hsecond] at htime
  apply String.toList_inj.mp
  rw [htext, htime]
  unfold strftimeUtc
  dsimp only
  rw [toDigits_year (by omega) hhigh]

/-! ### Reading a time back -/

/-- The number in some digits. -/
def readNumber (text : Text) (start count : Nat) : Nat :=
  ((text.drop start).take count).foldl (fun number code => 10 * number + (code - 48)) 0

/-- The time that stands in a text with a fraction of six digits, or with none. -/
def zuluTime (text : Text) : Int :=
  let year := readNumber text 0 4
  let days := blockStart yearLength year + (blockStart (monthLength year) (readNumber text 5 2 - 1) +
    (readNumber text 8 2 - 1))
  let second := 3600 * readNumber text 11 2 + 60 * readNumber text 14 2 + readNumber text 17 2
  let microsecond := if text.length = 27 then readNumber text 20 6 else 0
  ((days : Int) - 719528) * 86400000000 + (1000000 * second + microsecond : Nat)

def readZulu (text : Text) : Option Int :=
  if codes (zuluText (zuluTime text)) = text then some (zuluTime text) else none

theorem readNumber_fixedDigits {width value : Nat} (hvalue : value < 10 ^ width) (before after : List Char) :
    readNumber ((before ++ (fixedDigits width value ++ after)).map Char.toNat) before.length width = value := by
  have hfold : ∀ (width value : Nat), ((fixedDigits width value).map Char.toNat).foldl
      (fun number code => 10 * number + (code - 48)) 0 = value % 10 ^ width := by
    intro width
    induction width with
    | zero => exact fun value => (Nat.mod_one value).symm
    | succ width ih =>
        intro value
        have hdigit := toNat_digitChar (Nat.mod_lt value (show 0 < 10 by decide))
        rw [fixedDigits, List.map_append, List.foldl_append, ih, List.map_singleton, List.foldl_cons,
          List.foldl_nil, hdigit, Nat.pow_succ', Nat.mod_mul]
        omega
  unfold readNumber
  rw [List.map_append, ← List.length_map Char.toNat, List.drop_left, List.map_append,
    List.take_left' (by rw [List.length_map, length_fixedDigits]), hfold, Nat.mod_eq_of_lt hvalue]

theorem UtcParts.number_at (parts : UtcParts) {width value start : Nat} (before after : List Char)
    (hvalue : value < 10 ^ width) (hstart : before.length = start)
    (htext : parts.text = before ++ (fixedDigits width value ++ after)) :
    readNumber (parts.text.map Char.toNat) start width = value := by
  rw [htext, ← hstart]
  exact readNumber_fixedDigits hvalue before after

/-- The numbers of a text stand at their places. -/
theorem UtcParts.numbers (parts : UtcParts) :
    readNumber (parts.text.map Char.toNat) 0 4 = parts.year ∧
      readNumber (parts.text.map Char.toNat) 5 2 = parts.month ∧
      readNumber (parts.text.map Char.toNat) 8 2 = parts.day ∧
      readNumber (parts.text.map Char.toNat) 11 2 = parts.hour ∧
      readNumber (parts.text.map Char.toNat) 14 2 = parts.minute ∧
      readNumber (parts.text.map Char.toNat) 17 2 = parts.second := by
  refine ⟨?_, ?_, ?_, ?_, ?_, ?_⟩
  · exact parts.number_at [] _ parts.year_lt rfl rfl
  · apply parts.number_at (fixedDigits 4 parts.year ++ ['-']) _ parts.month_lt
    · simp [length_fixedDigits]
    · simp [UtcParts.text, timeText]
      rfl
  · apply parts.number_at (fixedDigits 4 parts.year ++ '-' :: fixedDigits 2 parts.month ++ ['-']) _ parts.day_lt
    · simp [length_fixedDigits]
    · simp [UtcParts.text, timeText]
      rfl
  · apply parts.number_at (fixedDigits 4 parts.year ++ '-' :: fixedDigits 2 parts.month ++
      '-' :: fixedDigits 2 parts.day ++ ['T']) _ parts.hour_lt
    · simp [length_fixedDigits]
    · simp [UtcParts.text, timeText]
      rfl
  · apply parts.number_at (fixedDigits 4 parts.year ++ '-' :: fixedDigits 2 parts.month ++
      '-' :: fixedDigits 2 parts.day ++ 'T' :: fixedDigits 2 parts.hour ++ [':']) _ parts.minute_lt
    · simp [length_fixedDigits]
    · simp [UtcParts.text, timeText]
      rfl
  · apply parts.number_at (fixedDigits 4 parts.year ++ '-' :: fixedDigits 2 parts.month ++
      '-' :: fixedDigits 2 parts.day ++ 'T' :: fixedDigits 2 parts.hour ++
      ':' :: fixedDigits 2 parts.minute ++ [':']) parts.endText parts.second_lt
    · simp [length_fixedDigits]
    · simp [UtcParts.text, timeText]

theorem zuluTime_zuluText {value : Int} (hmin : datetimeMin ≤ value) (hmax : value ≤ datetimeMax) :
    zuluTime (codes (zuluText value)) = value := by
  unfold datetimeMin at hmin
  obtain ⟨hyear, hmonth, hday, hhour, hminute, hsecond⟩ := (zuluParts value hmax).numbers
  have hlength := (zuluParts value hmax).fits.length_eq
  rw [length_utcShape] at hlength
  have hfraction : (if ((zuluParts value hmax).text.map Char.toNat).length = 27 then
      readNumber ((zuluParts value hmax).text.map Char.toNat) 20 6 else 0) =
      (value % 86400000000).toNat % 1000000 := by
    rw [List.length_map, ← hlength]
    by_cases hzero : (value % 86400000000).toNat % 1000000 = 0
    · simp [zuluParts, hzero]
    · have hdigits : (zuluParts value hmax).fractionDigits = 6 := if_neg hzero
      rw [hdigits, if_pos (by decide)]
      apply (zuluParts value hmax).number_at (fixedDigits 4 (zuluParts value hmax).year ++
        (timeText (zuluParts value hmax).month (zuluParts value hmax).day (zuluParts value hmax).hour
          (zuluParts value hmax).minute (zuluParts value hmax).second ++ ['.'])) ['Z']
      · omega
      · simp [length_fixedDigits, length_timeText]
      · rw [UtcParts.text, UtcParts.endText, if_neg (by rw [hdigits]; decide), hdigits]
        simp
        rfl
  have hnumber := dayNumber_dateFrom 0 (value / 86400000000 + 719528).toNat
  unfold CivilDate.dayNumber CivilDate.yearDay at hnumber
  unfold zuluTime codes
  rw [zuluText_eq hmax, hyear, hmonth, hday, hhour, hminute, hsecond, hfraction]
  dsimp only [zuluParts]
  rw [Nat.add_sub_cancel, Nat.add_sub_cancel, hnumber, blockStart]
  omega

theorem readZulu_zuluText {value : Int} (hmin : datetimeMin ≤ value) (hmax : value ≤ datetimeMax) :
    readZulu (codes (zuluText value)) = some value := by
  rw [readZulu, zuluTime_zuluText hmin hmax, if_pos rfl]

/-! ### Ids -/

theorem isXdigit_of_isLowerHex {character : Char} (h : isLowerHex character = true) :
    isXdigit character = true := by
  unfold isXdigit
  unfold isLowerHex at h
  rw [h]
  rfl

/-- The gateway takes the text of a UUID for one. -/
theorem uuidIsValid_of_isUuidText {text : String} (h : isUuidText text.toList = true) :
    uuidIsValid text = true := by
  unfold isUuidText at h
  rw [Bool.and_eq_true, decide_eq_true_eq, List.all_eq_true] at h
  obtain ⟨hlength, hplaces⟩ := h
  unfold uuidIsValid
  rw [Bool.and_eq_true, decide_eq_true_eq, List.all_eq_true]
  refine ⟨hlength, ?_⟩
  intro index hindex
  have hlt : index < text.toList.length := by
    rw [hlength]
    exact List.mem_range.mp hindex
  have hchar : charAt text index = text.toList[index] := by
    unfold charAt
    rw [List.getD_eq_getElem?_getD, List.getElem?_eq_getElem hlt, Option.getD_some]
  have hplace := hplaces (text.toList[index], index)
    (List.mk_mem_zipIdx_iff_getElem?.mpr (List.getElem?_eq_getElem hlt))
  unfold uuidPlace at hplace
  rw [hchar]
  split_ifs with hhyphen
  · rwa [if_pos hhyphen] at hplace
  · rw [if_neg hhyphen] at hplace
    exact isXdigit_of_isLowerHex hplace

end IiotMonitoring
