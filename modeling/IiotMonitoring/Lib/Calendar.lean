import Mathlib.Data.Nat.Basic

/-!
# Days and dates

A timeline of blocks laid end to end, where a place is a block and an offset in it. The days of the
proleptic Gregorian calendar are such a timeline of years, and a year is one of months. Comparing two
places is comparing their blocks and then their offsets, so that dates compare as their days do.
-/

namespace IiotMonitoring

/-! ### Blocks laid end to end -/

/-- Where a block starts. -/
def blockStart (length : Nat → Nat) : Nat → Nat
  | 0 => 0
  | block + 1 => blockStart length block + length block

/-- The block of a place and the offset in it, for an offset counted from the start of a block. -/
def locate (length : Nat → Nat) : (fuel block offset : Nat) → Nat × Nat
  | 0, block, offset => (block, offset)
  | fuel + 1, block, offset =>
      if offset < length block then (block, offset)
      else locate length fuel (block + 1) (offset - length block)

theorem compare_add_left (start left right : Nat) :
    compare (start + left) (start + right) = compare left right := by
  simp only [Nat.compare_eq_ite_lt, Nat.add_lt_add_iff_left]

section Blocks

variable {length : Nat → Nat}

theorem blockStart_mono {first second : Nat} (h : first ≤ second) :
    blockStart length first ≤ blockStart length second := by
  induction h with
  | refl => exact Nat.le_refl _
  | step _ ih => exact Nat.le_trans ih (Nat.le_add_right _ _)

/-- A place lies before the start of every later block. -/
theorem place_lt {first second offset : Nat} (h : first < second) (hoffset : offset < length first) :
    blockStart length first + offset < blockStart length second :=
  calc blockStart length first + offset < blockStart length (first + 1) :=
        Nat.add_lt_add_left hoffset _
    _ ≤ blockStart length second := blockStart_mono h

theorem compare_place {first second offset offset' : Nat} (hoffset : offset < length first)
    (hoffset' : offset' < length second) :
    compare (blockStart length first + offset) (blockStart length second + offset') =
      (compare first second).then (compare offset offset') := by
  rcases Nat.lt_trichotomy first second with h | rfl | h
  · have hlt := place_lt h hoffset
    rw [Nat.compare_eq_lt.mpr (by omega), Nat.compare_eq_lt.mpr h]
    rfl
  · rw [Nat.compare_eq_eq.mpr rfl, Ordering.eq_then, compare_add_left]
  · have hgt := place_lt h hoffset'
    rw [Nat.compare_eq_gt.mpr (by omega), Nat.compare_eq_gt.mpr h]
    rfl

theorem blockStart_const (size block : Nat) : blockStart (fun _ => size) block = size * block := by
  induction block with
  | zero => rfl
  | succ block ih => rw [blockStart, ih, Nat.mul_succ]

/-- Numbers compare as their quotients and then their remainders. -/
theorem compare_div_mod {size : Nat} (hsize : 0 < size) (left right : Nat) :
    (compare (left / size) (right / size)).then (compare (left % size) (right % size)) =
      compare left right := by
  rw [← @compare_place (fun _ => size) _ _ _ _ (Nat.mod_lt left hsize) (Nat.mod_lt right hsize),
    blockStart_const, blockStart_const, Nat.div_add_mod, Nat.div_add_mod]

theorem locate_place {fuel offset : Nat} (hpositive : ∀ block, 0 < length block) (block : Nat)
    (hfuel : offset ≤ fuel) :
    (locate length fuel block offset).2 < length (locate length fuel block offset).1 ∧
      blockStart length (locate length fuel block offset).1 + (locate length fuel block offset).2 =
        blockStart length block + offset := by
  induction fuel generalizing block offset with
  | zero =>
      obtain rfl : offset = 0 := Nat.le_zero.mp hfuel
      exact ⟨hpositive block, rfl⟩
  | succ fuel ih =>
      rw [locate]
      split_ifs with h
      · exact ⟨h, rfl⟩
      · have hstep := hpositive block
        have hrest := ih (block + 1) (show offset - length block ≤ fuel by omega)
        refine ⟨hrest.1, hrest.2.trans ?_⟩
        rw [blockStart]
        omega

theorem le_locate (fuel block offset : Nat) : block ≤ (locate length fuel block offset).1 := by
  induction fuel generalizing block offset with
  | zero => exact Nat.le_refl _
  | succ fuel ih =>
      rw [locate]
      split_ifs
      · exact Nat.le_refl _
      · exact Nat.le_of_succ_le (ih (block + 1) (offset - length block))

end Blocks

/-! ### Dates -/

def isLeap (year : Nat) : Bool := year % 4 = 0 && (year % 100 ≠ 0 || year % 400 = 0)

/-- The days of a month, with January for month 0. -/
def monthLength (year month : Nat) : Nat :=
  if month = 1 then (if isLeap year then 29 else 28)
  else if month = 3 ∨ month = 5 ∨ month = 8 ∨ month = 10 then 30
  else 31

def yearLength (year : Nat) : Nat := blockStart (monthLength year) 12

theorem monthLength_pos (year month : Nat) : 0 < monthLength year month := by
  unfold monthLength
  split_ifs <;> decide

theorem yearLength_eq (year : Nat) : yearLength year = if isLeap year then 366 else 365 := by
  cases h : isLeap year with
  | false => simp [yearLength, blockStart, monthLength, h]
  | true => simp [yearLength, blockStart, monthLength, h]

theorem yearLength_pos (year : Nat) : 0 < yearLength year := by
  rw [yearLength_eq]
  split_ifs <;> decide

/-- The multiples of a number that are below the next one. -/
theorem multiples_step {size : Nat} (hsize : 0 < size) (year : Nat) :
    (year + size) / size = (year + (size - 1)) / size + if year % size = 0 then 1 else 0 := by
  obtain ⟨size, rfl⟩ : ∃ less, size = less + 1 := ⟨size - 1, by omega⟩
  have hmultiple : size + 1 ∣ year + size + 1 ↔ year % (size + 1) = 0 :=
    Nat.dvd_add_self_right.trans Nat.dvd_iff_mod_eq_zero
  rw [Nat.add_sub_cancel, ← Nat.add_assoc, Nat.succ_div]
  simp only [hmultiple]

/-- The days before a year, with the leap days by their rule. -/
theorem blockStart_yearLength (year : Nat) :
    blockStart yearLength year + (year + 99) / 100 =
      365 * year + (year + 3) / 4 + (year + 399) / 400 := by
  induction year with
  | zero => rfl
  | succ year ih =>
      have hfour : (year + 4) / 4 = _ := multiples_step (by decide) year
      have hhundred : (year + 100) / 100 = _ := multiples_step (by decide) year
      have hcycle : (year + 400) / 400 = _ := multiples_step (by decide) year
      have hrefine : year % 100 = 0 → year % 4 = 0 := by omega
      have hrefine' : year % 400 = 0 → year % 100 = 0 := by omega
      have hlength : yearLength year + (if year % 100 = 0 then 1 else 0) =
          365 + (if year % 4 = 0 then 1 else 0) + if year % 400 = 0 then 1 else 0 := by
        rw [yearLength_eq, isLeap]
        by_cases hcycle : year % 400 = 0
        · simp [hcycle, hrefine' hcycle, hrefine (hrefine' hcycle)]
        · by_cases hhundred : year % 100 = 0
          · simp [hcycle, hhundred, hrefine hhundred]
          · by_cases hfour : year % 4 = 0
            · simp [hcycle, hhundred, hfour]
            · simp [hcycle, hhundred, hfour]
      rw [blockStart]
      omega

/-- A date, with January for month 0 and the first of a month for day 0. -/
structure CivilDate where
  year : Nat
  month : Nat
  day : Nat
  month_lt : month < 12
  day_lt : day < monthLength year month
  deriving DecidableEq

namespace CivilDate

def yearDay (date : CivilDate) : Nat := blockStart (monthLength date.year) date.month + date.day

/-- Days since the first of January of year 0. -/
def dayNumber (date : CivilDate) : Nat := blockStart yearLength date.year + date.yearDay

theorem yearDay_lt (date : CivilDate) : date.yearDay < yearLength date.year :=
  place_lt date.month_lt date.day_lt

theorem compare_dayNumber (date date' : CivilDate) :
    compare date.dayNumber date'.dayNumber =
      (compare date.year date'.year).then
        ((compare date.month date'.month).then (compare date.day date'.day)) := by
  rw [dayNumber, dayNumber, compare_place date.yearDay_lt date'.yearDay_lt]
  by_cases hyear : date.year = date'.year
  · have hday := date.day_lt
    rw [hyear] at hday
    rw [yearDay, yearDay, hyear, compare_place hday date'.day_lt]
  · have hne : compare date.year date'.year ≠ .eq := fun h => hyear (Nat.compare_eq_eq.mp h)
    cases h : compare date.year date'.year with
    | eq => exact absurd h hne
    | lt => rfl
    | gt => rfl

/-- A date of an earlier year has a smaller number. -/
theorem dayNumber_lt {date date' : CivilDate} (h : date.year < date'.year) :
    date.dayNumber < date'.dayNumber :=
  Nat.lt_of_lt_of_le (place_lt h date.yearDay_lt) (Nat.le_add_right _ _)

end CivilDate

/-- The place in a year is a month and a day of it. -/
theorem locate_month {year yearDay : Nat} (h : yearDay < yearLength year) :
    (locate (monthLength year) yearDay 0 yearDay).1 < 12 ∧
      (locate (monthLength year) yearDay 0 yearDay).2 <
        monthLength year (locate (monthLength year) yearDay 0 yearDay).1 := by
  obtain ⟨hoffset, hplace⟩ := locate_place (monthLength_pos year) 0 (Nat.le_refl yearDay)
  refine ⟨?_, hoffset⟩
  by_contra hlast
  have hstart := @blockStart_mono (monthLength year) _ _ (Nat.not_lt.mp hlast)
  rw [yearLength] at h
  rw [blockStart, Nat.zero_add] at hplace
  omega

/-- The date some days after the first of January of a year. -/
def dateFrom (year days : Nat) : CivilDate :=
  let place := locate yearLength days year days
  have hplace : place.2 < yearLength place.1 := (locate_place yearLength_pos year (Nat.le_refl days)).1
  let date := locate (monthLength place.1) place.2 0 place.2
  { year := place.1
    month := date.1
    day := date.2
    month_lt := (locate_month hplace).1
    day_lt := (locate_month hplace).2 }

theorem le_year_dateFrom (year days : Nat) : year ≤ (dateFrom year days).year :=
  le_locate days year days

theorem dayNumber_dateFrom (year days : Nat) :
    (dateFrom year days).dayNumber = blockStart yearLength year + days := by
  obtain ⟨-, hyear⟩ := locate_place yearLength_pos year (Nat.le_refl days)
  obtain ⟨-, hmonth⟩ := locate_place
    (monthLength_pos (locate yearLength days year days).1) 0
    (Nat.le_refl (locate yearLength days year days).2)
  rw [blockStart, Nat.zero_add] at hmonth
  calc (dateFrom year days).dayNumber =
        blockStart yearLength (locate yearLength days year days).1 +
          (locate yearLength days year days).2 := congrArg (_ + ·) hmonth
    _ = blockStart yearLength year + days := hyear

/-- A place before the start of a year is in an earlier one. -/
theorem year_dateFrom_lt {start days year : Nat}
    (h : blockStart yearLength start + days < blockStart yearLength year) :
    (dateFrom start days).year < year := by
  by_contra hlate
  have hmono := @blockStart_mono yearLength _ _ (Nat.not_lt.mp hlate)
  have hnumber := dayNumber_dateFrom start days
  unfold CivilDate.dayNumber at hnumber
  omega
/-- A day is that of one date. -/
theorem CivilDate.dayNumber_injective : Function.Injective CivilDate.dayNumber := by
  intro date date' h
  have hcompare := date.compare_dayNumber date'
  rw [h, Nat.compare_eq_eq.mpr rfl, eq_comm, Ordering.then_eq_eq, Ordering.then_eq_eq,
    Nat.compare_eq_eq, Nat.compare_eq_eq, Nat.compare_eq_eq] at hcompare
  obtain ⟨year, month, day, hmonth, hday⟩ := date
  obtain ⟨year', month', day', hmonth', hday'⟩ := date'
  obtain ⟨rfl, rfl, rfl⟩ := hcompare
  rfl

theorem dateFrom_later (start days : Nat) :
    dateFrom start days = dateFrom 0 (blockStart yearLength start + days) := by
  apply CivilDate.dayNumber_injective
  rw [dayNumber_dateFrom, dayNumber_dateFrom, blockStart, Nat.zero_add]

/-! ### Texts -/

/-- The decimal digits of a number, in a fixed width. -/
def fixedDigits : Nat → Nat → List Char
  | 0, _ => []
  | width + 1, value => fixedDigits width (value / 10) ++ [Nat.digitChar (value % 10)]

/-- What a UTC text has between its year and the fraction of its second. -/
def timeText (month day hour minute second : Nat) : List Char :=
  '-' :: fixedDigits 2 month ++ ('-' :: fixedDigits 2 day ++ ('T' :: fixedDigits 2 hour ++
    (':' :: fixedDigits 2 minute ++ ':' :: fixedDigits 2 second)))

end IiotMonitoring
