import OlympusMetrics.Library.DigitTexts
import OlympusMetrics.Library.SortedRows
import OlympusMetrics.Publisher.ArtifactStore
import OlympusMetrics.Publisher.DateRanges
import Mathlib.Tactic.IntervalCases

/-!
Dates, their texts and their day numbers.

The texts of the dates of the years 0 to 9999 are ordered like their day
numbers, and both directions of the translation are inverse to each other.
-/

namespace OlympusMetrics.Publisher

open Calendar

/-! ### Months -/

/-- Months since the first January. -/
def monthIndex (date : CivilDate) : ℕ := 12 * date.year + (date.month - 1)

def monthLength (month : ℕ) : ℕ := daysInMonth (month / 12) (month % 12 + 1)

/-- Days from the first of March of the year -2000, to the first of a month of a year that starts in
March. -/
def marchStart (year marchMonth : ℕ) : ℕ :=
  365 * year + year / 4 - year / 100 + year / 400 + (153 * marchMonth + 2) / 5

/-- Days from the first of March of the year -2000 to the first of a month. -/
def monthStart (month : ℕ) : ℕ := marchStart ((month + 23998) / 12) ((month + 23998) % 12)

/-- A day that the calendar has. -/
structure CivilDate.Valid (date : CivilDate) : Prop where
  month_pos : 1 ≤ date.month
  month_le : date.month ≤ 12
  day_pos : 1 ≤ date.day
  day_le : date.day ≤ daysInMonth date.year date.month

theorem isLeapYear_iff (year : ℕ) :
    isLeapYear year = true ↔ year % 4 = 0 ∧ (year % 100 ≠ 0 ∨ year % 400 = 0) := by
  simp [isLeapYear]

theorem monthLength_pos (month : ℕ) : 1 ≤ monthLength month := by
  unfold monthLength daysInMonth
  split_ifs <;> omega

theorem marchStart_february (year : ℕ) :
    marchStart (year + 2000) 0 = marchStart (year + 1999) 11 + daysInMonth year 2 := by
  have hdays : daysInMonth year 2 = if isLeapYear year then 29 else 28 := rfl
  have h4 := Nat.succ_div (a := year + 1999) (b := 4)
  have h100 := Nat.succ_div (a := year + 1999) (b := 100)
  have h400 := Nat.succ_div (a := year + 1999) (b := 400)
  have hm4 : 4 ∣ year + 1999 + 1 ↔ year % 4 = 0 := by omega
  have hm100 : 100 ∣ year + 1999 + 1 ↔ year % 100 = 0 := by omega
  have hm400 : 400 ∣ year + 1999 + 1 ↔ year % 400 = 0 := by omega
  have hdvd : year % 400 = 0 → year % 100 = 0 := by omega
  have hdvd' : year % 100 = 0 → year % 4 = 0 := by omega
  have hle : (year + 1999) / 100 ≤ (year + 1999) / 4 := by omega
  simp only [hm4] at h4
  simp only [hm100] at h100
  simp only [hm400] at h400
  rw [hdays]
  simp only [isLeapYear_iff]
  unfold marchStart
  rw [show year + 2000 = year + 1999 + 1 from rfl, h4, h100, h400]
  generalize (year + 1999) / 4 = a at *
  generalize (year + 1999) / 100 = b at *
  generalize (year + 1999) / 400 = c at *
  by_cases c4 : year % 4 = 0 <;> by_cases c100 : year % 100 = 0 <;>
    by_cases c400 : year % 400 = 0 <;> simp [c4, c100, c400] at hdvd hdvd' ⊢ <;> omega

theorem monthStart_succ (month : ℕ) :
    monthStart (month + 1) = monthStart month + monthLength month := by
  obtain ⟨year, r, hr, rfl⟩ : ∃ year r, r < 12 ∧ month = 12 * year + r :=
    ⟨month / 12, month % 12, Nat.mod_lt _ (by decide), by omega⟩
  have hyear : (12 * year + r) / 12 = year := by omega
  have hmonth : (12 * year + r) % 12 = r := by omega
  unfold monthStart monthLength
  rw [hyear, hmonth]
  by_cases hfeb : r = 1
  · have hnow : (12 * year + r + 23998) / 12 = year + 1999 ∧ (12 * year + r + 23998) % 12 = 11 := by
      omega
    have hnext : (12 * year + r + 1 + 23998) / 12 = year + 2000 ∧
        (12 * year + r + 1 + 23998) % 12 = 0 := by omega
    rw [hnow.1, hnow.2, hnext.1, hnext.2, hfeb]
    exact marchStart_february year
  · have hnext : (12 * year + r + 1 + 23998) / 12 = (12 * year + r + 23998) / 12 ∧
        (12 * year + r + 1 + 23998) % 12 = (12 * year + r + 23998) % 12 + 1 := by omega
    have hmod : (12 * year + r + 23998) % 12 = (r + 10) % 12 := by omega
    rw [hnext.1, hnext.2, hmod]
    generalize (12 * year + r + 23998) / 12 = y
    unfold marchStart daysInMonth
    rw [if_neg (by omega)]
    interval_cases r <;> simp at hfeb ⊢

theorem monthStart_add_le {month month' : ℕ} (h : month < month') :
    monthStart month + monthLength month ≤ monthStart month' := by
  induction month', h using Nat.le_induction with
  | base => exact (monthStart_succ month).ge
  | succ month' _ ih =>
      rw [monthStart_succ month']
      omega

theorem monthStart_ge (month : ℕ) : 730425 ≤ monthStart month := by
  have hzero : monthStart 0 = 730425 := by decide
  rcases Nat.eq_zero_or_pos month with rfl | hpos
  · exact hzero.ge
  · have := monthStart_add_le hpos
    omega

theorem monthIndex_div {date : CivilDate} (h : CivilDate.Valid date) :
    monthIndex date / 12 = date.year ∧ monthIndex date % 12 + 1 = date.month := by
  have := h.month_pos
  have := h.month_le
  unfold monthIndex
  omega

theorem day_le_monthLength {date : CivilDate} (h : CivilDate.Valid date) :
    date.day ≤ monthLength (monthIndex date) := by
  unfold monthLength
  rw [(monthIndex_div h).1, (monthIndex_div h).2]
  exact h.day_le

theorem dayNumber_eq_marchStart (date : CivilDate) :
    dayNumber date = (if date.month ≤ 2 then marchStart (date.year + 1999) (date.month + 9)
      else marchStart (date.year + 2000) (date.month - 3)) + date.day - 1 - 719468 := by
  unfold dayNumber
  by_cases h : date.month ≤ 2
  · rw [if_pos h, if_pos h, if_pos h]
    rfl
  · rw [if_neg h, if_neg h, if_neg h]
    rfl

theorem dayNumber_eq {date : CivilDate} (h : CivilDate.Valid date) :
    dayNumber date + 719469 = monthStart (monthIndex date) + date.day := by
  have hmonth := h.month_pos
  have hmonth' := h.month_le
  have hday := h.day_pos
  have hge := monthStart_ge (monthIndex date)
  have hstart : monthStart (monthIndex date) =
      if date.month ≤ 2 then marchStart (date.year + 1999) (date.month + 9)
      else marchStart (date.year + 2000) (date.month - 3) := by
    unfold monthStart
    split
    · have hmarch : (monthIndex date + 23998) / 12 = date.year + 1999 ∧
          (monthIndex date + 23998) % 12 = date.month + 9 := by
        unfold monthIndex
        omega
      rw [hmarch.1, hmarch.2]
    · have hmarch : (monthIndex date + 23998) / 12 = date.year + 2000 ∧
          (monthIndex date + 23998) % 12 = date.month - 3 := by
        unfold monthIndex
        omega
      rw [hmarch.1, hmarch.2]
  rw [dayNumber_eq_marchStart, ← hstart]
  omega

/-! ### From day numbers to dates -/

/-- The year of an era of 400 years that a day of it lies in. -/
def yearOfEra (dayOfEra : ℕ) : ℕ :=
  (dayOfEra - dayOfEra / 1460 + dayOfEra / 36524 - dayOfEra / 146096) / 365

theorem yearOfEra_le_succ {day : ℕ} (h : day + 1 < 146097) : yearOfEra day ≤ yearOfEra (day + 1) := by
  unfold yearOfEra
  refine Nat.div_le_div_right ?_
  omega

theorem yearOfEra_mono {day day' : ℕ} (h : day ≤ day') (hday' : day' < 146097) :
    yearOfEra day ≤ yearOfEra day' := by
  induction day', h using Nat.le_induction with
  | base => exact le_refl _
  | succ day' _ ih => exact (ih (by omega)).trans (yearOfEra_le_succ hday')

theorem yearOfEra_ends : ∀ year < 400, yearOfEra (marchStart year 0) = year ∧
    yearOfEra (marchStart (year + 1) 0 - 1) = year := by decide +kernel

theorem marchStart_mono {year year' : ℕ} (h : year ≤ year') :
    marchStart year 0 ≤ marchStart year' 0 := by
  have hmono : Monotone (fun y => marchStart y 0) := by
    refine monotone_nat_of_le_succ (fun y => ?_)
    unfold marchStart
    omega
  exact hmono h

/-- A day of an era lies in the year that `yearOfEra` says. -/
theorem yearOfEra_spec {day : ℕ} (hday : day < 146097) : yearOfEra day < 400 ∧
    marchStart (yearOfEra day) 0 ≤ day ∧ day < marchStart (yearOfEra day + 1) 0 := by
  have hera : marchStart 400 0 = 146097 := by decide
  have hzero : marchStart 0 0 = 0 := by decide
  obtain ⟨year, hyear, hle, hlt⟩ : ∃ year < 400, marchStart year 0 ≤ day ∧
      day < marchStart (year + 1) 0 := by
    by_contra hnone
    push Not at hnone
    have hall : ∀ year ≤ 400, marchStart year 0 ≤ day := by
      intro year hyear
      induction year with
      | zero => omega
      | succ year ih => exact hnone year (by omega) (ih (by omega))
    have := hall 400 (le_refl _)
    omega
  have hlast : marchStart (year + 1) 0 ≤ 146097 := hera ▸ marchStart_mono (by omega)
  obtain ⟨hfirst, hfinal⟩ := yearOfEra_ends year hyear
  have hlow := yearOfEra_mono hle hday
  have hhigh : yearOfEra day ≤ yearOfEra (marchStart (year + 1) 0 - 1) :=
    yearOfEra_mono (by omega) (by omega)
  have heq : yearOfEra day = year := by omega
  rw [heq]
  exact ⟨hyear, hle, hlt⟩

/-- Eras of 400 years have the same calendar. -/
theorem marchStart_era (year era marchMonth : ℕ) :
    marchStart (year + era * 400) marchMonth = marchStart year marchMonth + 146097 * era := by
  unfold marchStart
  omega

theorem marchStart_month (year marchMonth : ℕ) :
    marchStart year marchMonth = marchStart year 0 + (153 * marchMonth + 2) / 5 := by
  unfold marchStart
  omega

/-- The month of a year that starts in March, and the day of the month, of a day of the year. -/
theorem marchMonth_spec {dayOfYear : ℕ} (h : dayOfYear < 366) :
    (5 * dayOfYear + 2) / 153 ≤ 11 ∧ (153 * ((5 * dayOfYear + 2) / 153) + 2) / 5 ≤ dayOfYear ∧
      dayOfYear < (153 * ((5 * dayOfYear + 2) / 153 + 1) + 2) / 5 := by
  omega

/-- The date of a year that starts in March. -/
def ofMarch (year marchMonth day : ℕ) : CivilDate where
  year := (if (if marchMonth < 10 then marchMonth + 3 else marchMonth - 9) ≤ 2 then year + 1
    else year) - 2000
  month := if marchMonth < 10 then marchMonth + 3 else marchMonth - 9
  day := day

theorem ofMarch_early {year marchMonth day : ℕ} (h : marchMonth < 10) :
    ofMarch year marchMonth day = ⟨year - 2000, marchMonth + 3, day⟩ := by
  have hmonth : ¬ marchMonth + 3 ≤ 2 := by omega
  unfold ofMarch
  rw [if_pos h, if_neg hmonth]

theorem ofMarch_late {year marchMonth day : ℕ} (h : 10 ≤ marchMonth) (h' : marchMonth ≤ 11) :
    ofMarch year marchMonth day = ⟨year + 1 - 2000, marchMonth - 9, day⟩ := by
  have hmonth : marchMonth - 9 ≤ 2 := by omega
  unfold ofMarch
  rw [if_neg (Nat.not_lt.mpr h), if_pos hmonth]

/-- The day number of a date of a year that starts in March. -/
theorem dayNumber_ofMarch {year marchMonth day : ℕ} (hmonth : marchMonth ≤ 11)
    (hyear : 2000 ≤ year ∨ (year = 1999 ∧ 10 ≤ marchMonth)) :
    dayNumber (ofMarch year marchMonth day) = marchStart year marchMonth + day - 1 - 719468 := by
  rw [dayNumber_eq_marchStart]
  by_cases h : marchMonth < 10
  · have hy : year - 2000 + 2000 = year := by omega
    have hm : ¬ marchMonth + 3 ≤ 2 := by omega
    rw [ofMarch_early h]
    dsimp only
    rw [if_neg hm, hy, Nat.add_sub_cancel]
  · have hy : year + 1 - 2000 + 1999 = year := by omega
    have hm : marchMonth - 9 ≤ 2 := by omega
    have hm' : marchMonth - 9 + 9 = marchMonth := by omega
    rw [ofMarch_late (by omega) hmonth]
    dsimp only
    rw [if_pos hm, hy, hm']

theorem valid_ofMarch {year marchMonth day : ℕ} (hmonth : marchMonth ≤ 11) (hday : 1 ≤ day)
    (hyear : 2000 ≤ year ∨ (year = 1999 ∧ 10 ≤ marchMonth))
    (hle : day + (153 * marchMonth + 2) / 5 ≤ (153 * (marchMonth + 1) + 2) / 5)
    (hfeb : marchStart year marchMonth + day ≤ marchStart (year + 1) 0) :
    CivilDate.Valid (ofMarch year marchMonth day) := by
  by_cases hlast : marchMonth = 11
  · subst hlast
    rw [ofMarch_late (by decide) (by decide)]
    refine ⟨by dsimp only; omega, by dsimp only; omega, hday, ?_⟩
    have hlength := marchStart_february (year + 1 - 2000)
    have hy : year + 1 - 2000 + 1999 = year := by omega
    have hy' : year + 1 - 2000 + 2000 = year + 1 := by omega
    rw [hy, hy'] at hlength
    change day ≤ daysInMonth (year + 1 - 2000) 2
    omega
  · by_cases h : marchMonth < 10
    · rw [ofMarch_early h]
      refine ⟨by dsimp only; omega, by dsimp only; omega, hday, ?_⟩
      dsimp only
      unfold daysInMonth
      rw [if_neg (by omega)]
      interval_cases marchMonth <;> simp at hle ⊢ <;> omega
    · obtain rfl : marchMonth = 10 := by omega
      rw [ofMarch_late (by decide) (by decide)]
      refine ⟨by dsimp only; omega, by dsimp only; omega, hday, ?_⟩
      change day ≤ 31
      omega

theorem ofDayNumber_eq_ofMarch (number : ℕ) :
    let dayOfEra := (number + 719468) % 146097
    let year := yearOfEra dayOfEra
    let dayOfYear := dayOfEra - marchStart year 0
    ofDayNumber number = ofMarch (year + (number + 719468) / 146097 * 400)
      ((5 * dayOfYear + 2) / 153) (dayOfYear - (153 * ((5 * dayOfYear + 2) / 153) + 2) / 5 + 1) := by
  intro dayOfEra year dayOfYear
  have hyear := (yearOfEra_spec (Nat.mod_lt (number + 719468) (show 0 < 146097 by decide))).1
  have hstart : 365 * year + year / 4 - year / 100 = marchStart year 0 := by
    have : year < 400 := hyear
    unfold marchStart
    omega
  have hday : dayOfYear = dayOfEra - (365 * year + year / 4 - year / 100) := by rw [hstart]
  rw [hday]
  rfl

/-- Every number from the first day of the year 0 on is the number of its date. -/
theorem ofDayNumber_spec {number : ℕ} (h : 10957 ≤ number) :
    CivilDate.Valid (ofDayNumber number) ∧ dayNumber (ofDayNumber number) = number := by
  obtain ⟨hyear, hle, hlt⟩ :=
    yearOfEra_spec (Nat.mod_lt (number + 719468) (show 0 < 146097 by decide))
  have heq := ofDayNumber_eq_ofMarch number
  dsimp only at heq
  have hdays : number + 719468 =
      (number + 719468) % 146097 + 146097 * ((number + 719468) / 146097) := by omega
  generalize (number + 719468) / 146097 = era at heq hdays
  generalize (number + 719468) % 146097 = dayOfEra at *
  generalize yearOfEra dayOfEra = year at *
  have hlength : marchStart (year + 1) 0 ≤ marchStart year 0 + 366 := by
    unfold marchStart
    omega
  obtain ⟨dayOfYear, hday⟩ : ∃ d, dayOfEra = marchStart year 0 + d :=
    ⟨dayOfEra - marchStart year 0, by omega⟩
  have hsub : dayOfEra - marchStart year 0 = dayOfYear := by omega
  rw [hsub] at heq
  obtain ⟨hmonth, hmonthle, hmonthlt⟩ := @marchMonth_spec dayOfYear (by omega)
  generalize (5 * dayOfYear + 2) / 153 = marchMonth at *
  have hstart := marchStart_month (year + era * 400) marchMonth
  have hera := marchStart_era year era 0
  have hnext := marchStart_era (year + 1) era 0
  have hsucc : year + 1 + era * 400 = year + era * 400 + 1 := by omega
  rw [hsucc] at hnext
  have hmin : 2000 ≤ year + era * 400 ∨ (year + era * 400 = 1999 ∧ 10 ≤ marchMonth) := by
    by_contra hnone
    have h1999 : marchStart 1999 0 = 730119 := by decide
    by_cases hy : year + era * 400 + 1 ≤ 1999
    · have := marchStart_mono hy
      omega
    · have hy' : year + era * 400 = 1999 := by omega
      rw [hy'] at hera
      omega
  rw [heq]
  refine ⟨valid_ofMarch hmonth (by omega) hmin (by omega) (by omega), ?_⟩
  rw [dayNumber_ofMarch hmonth hmin]
  omega

/-! ### The order of dates -/

theorem dayNumber_lt_iff {date date' : CivilDate} (h : CivilDate.Valid date)
    (h' : CivilDate.Valid date') : dayNumber date < dayNumber date' ↔
      monthIndex date < monthIndex date' ∨
        (monthIndex date = monthIndex date' ∧ date.day < date'.day) := by
  have heq := dayNumber_eq h
  have heq' := dayNumber_eq h'
  have hday := day_le_monthLength h
  have hday' := day_le_monthLength h'
  have := h.day_pos
  have := h'.day_pos
  rcases Nat.lt_trichotomy (monthIndex date) (monthIndex date') with hlt | hmonth | hgt
  · have := monthStart_add_le hlt
    exact iff_of_true (by omega) (Or.inl hlt)
  · rw [hmonth] at heq ⊢
    omega
  · have := monthStart_add_le hgt
    exact iff_of_false (by omega) (by omega)

theorem CivilDate.eq_of_month_day {date date' : CivilDate} (h : CivilDate.Valid date)
    (h' : CivilDate.Valid date') (hmonth : monthIndex date = monthIndex date')
    (hday : date.day = date'.day) : date = date' := by
  obtain ⟨hy, hm⟩ := monthIndex_div h
  obtain ⟨hy', hm'⟩ := monthIndex_div h'
  rw [hmonth] at hy hm
  cases date
  cases date'
  simp only [CivilDate.mk.injEq]
  exact ⟨hy.symm.trans hy', hm.symm.trans hm', hday⟩

theorem dayNumber_inj {date date' : CivilDate} (h : CivilDate.Valid date)
    (h' : CivilDate.Valid date') (heq : dayNumber date = dayNumber date') : date = date' := by
  have hlt := dayNumber_lt_iff h h'
  have hgt := dayNumber_lt_iff h' h
  exact CivilDate.eq_of_month_day h h' (by omega) (by omega)

theorem dayNumber_ge {date : CivilDate} (h : CivilDate.Valid date) : 10957 ≤ dayNumber date := by
  have heq := dayNumber_eq h
  have hstart := monthStart_ge (monthIndex date)
  have := h.day_pos
  omega

theorem ofDayNumber_dayNumber {date : CivilDate} (h : CivilDate.Valid date) :
    ofDayNumber (dayNumber date) = date := by
  obtain ⟨hvalid, hnumber⟩ := ofDayNumber_spec (dayNumber_ge h)
  exact dayNumber_inj hvalid h hnumber

/-! ### The texts of dates -/

theorem daysInMonth_le (year month : ℕ) : daysInMonth year month ≤ 31 := by
  unfold daysInMonth
  split_ifs <;> omega

theorem iso_toList {date : CivilDate} (hyear : date.year ≤ 9999) :
    date.iso.toList = (padded 4 date.year).toList ++ '-' :: ((padded 2 date.month).toList ++
      '-' :: (padded 2 date.day).toList) := by
  unfold CivilDate.iso
  rw [if_pos hyear]
  simp only [String.toList_append, List.append_assoc]
  rfl

theorem length_iso_parts {date : CivilDate} (h : CivilDate.Valid date) (hyear : date.year ≤ 9999) :
    (padded 4 date.year).toList.length = 4 ∧ (padded 2 date.month).toList.length = 2 ∧
      (padded 2 date.day).toList.length = 2 := by
  have := h.month_le
  have := h.day_le
  have := daysInMonth_le date.year date.month
  exact ⟨length_padded (by decide) (by omega), length_padded (by decide) (by omega),
    length_padded (by decide) (by omega)⟩

theorem hyphen_lt_iff {xs ys : List Char} : '-' :: xs < '-' :: ys ↔ xs < ys := by
  rw [List.cons_lt_cons_iff]
  simp

/-- Dates compare like their texts. -/
theorem iso_lt_iff {date date' : CivilDate} (h : CivilDate.Valid date)
    (h' : CivilDate.Valid date') (hyear : date.year ≤ 9999) (hyear' : date'.year ≤ 9999) :
    date.iso < date'.iso ↔ dayNumber date < dayNumber date' := by
  obtain ⟨hy, hm, hd⟩ := length_iso_parts h hyear
  obtain ⟨hy', hm', hd'⟩ := length_iso_parts h' hyear'
  have := h.month_le
  have := h'.month_le
  have := h.month_pos
  have := h'.month_pos
  have := h.day_le
  have := h'.day_le
  have := daysInMonth_le date.year date.month
  have := daysInMonth_le date'.year date'.month
  have hlists : date.iso < date'.iso ↔ date.iso.toList < date'.iso.toList := Iff.rfl
  have hyears : (padded 4 date.year).toList = (padded 4 date'.year).toList ↔
      date.year = date'.year := ⟨padded_inj, fun heq => by rw [heq]⟩
  have hmonths : (padded 2 date.month).toList = (padded 2 date'.month).toList ↔
      date.month = date'.month := ⟨padded_inj, fun heq => by rw [heq]⟩
  rw [hlists, iso_toList hyear, iso_toList hyear', append_lt_append_iff (hy.trans hy'.symm),
    hyphen_lt_iff, append_lt_append_iff (hm.trans hm'.symm), hyphen_lt_iff,
    padded_lt_iff (by decide) (by omega) (by omega), padded_lt_iff (by decide) (by omega)
      (by omega), padded_lt_iff (by decide) (by omega) (by omega), hyears, hmonths,
    dayNumber_lt_iff h h']
  unfold monthIndex
  omega

theorem digitsValue_eq_some {digits : List Char} {n : ℕ} (h : digitsValue digits = some n) :
    (∀ c ∈ digits, c.isDigit = true) ∧ digitsNumber digits = n := by
  unfold digitsValue at h
  split at h
  · next hdigits =>
      refine ⟨List.all_eq_true.mp hdigits, ?_⟩
      rw [digitsNumber, Nat.ofDigitChars_eq_foldl]
      exact Option.some.inj h
  · cases h

theorem digitsValue_padded (width n : ℕ) : digitsValue (padded width n).toList = some n := by
  have hdigits : (padded width n).toList.all Char.isDigit = true :=
    List.all_eq_true.mpr (fun _ => isDigit_of_mem_padded)
  unfold digitsValue
  rw [if_pos hdigits, ← Nat.ofDigitChars_eq_foldl]
  exact congrArg some (digitsNumber_padded width n)

/-- Only the text of a date parses as the date. -/
theorem iso_of_parseDate {value : String} {date : CivilDate} (h : parseDate value = .ok date) :
    CivilDate.Valid date ∧ date.year ≤ 9999 ∧ date.iso = value := by
  unfold parseDate at h
  split at h
  · next y1 y2 y3 y4 m1 m2 d1 d2 hchars =>
      split at h
      · next year month day hy hm hd =>
          split at h
          · next hrange =>
              obtain rfl := Except.ok.inj h
              obtain ⟨hydigits, rfl⟩ := digitsValue_eq_some hy
              obtain ⟨hmdigits, rfl⟩ := digitsValue_eq_some hm
              obtain ⟨hddigits, rfl⟩ := digitsValue_eq_some hd
              have hlt := digitsNumber_lt hydigits
              have hyear : digitsNumber [y1, y2, y3, y4] ≤ 9999 := by
                simp only [List.length_cons, List.length_nil] at hlt
                omega
              refine ⟨⟨hrange.1, hrange.2.1, hrange.2.2.1, hrange.2.2.2⟩, hyear, ?_⟩
              refine String.toList_injective ?_
              rw [iso_toList hyear, hchars]
              dsimp only
              have hyp := @padded_digitsNumber [y1, y2, y3, y4] (by simp) hydigits
              have hmp := @padded_digitsNumber [m1, m2] (by simp) hmdigits
              have hdp := @padded_digitsNumber [d1, d2] (by simp) hddigits
              simp only [List.length_cons, List.length_nil] at hyp hmp hdp
              rw [hyp, hmp, hdp]
              rfl
          · exact nomatch h
      · exact nomatch h
  · exact nomatch h

theorem parseDate_iso {date : CivilDate} (h : CivilDate.Valid date) (hyear : date.year ≤ 9999) :
    parseDate date.iso = .ok date := by
  obtain ⟨hy, hm, hd⟩ := length_iso_parts h hyear
  obtain ⟨y1, y2, y3, y4, hyears⟩ := List.length_eq_four.mp hy
  obtain ⟨m1, m2, hmonths⟩ := List.length_eq_two.mp hm
  obtain ⟨d1, d2, hdays⟩ := List.length_eq_two.mp hd
  have hyv := digitsValue_padded 4 date.year
  have hmv := digitsValue_padded 2 date.month
  have hdv := digitsValue_padded 2 date.day
  rw [hyears] at hyv
  rw [hmonths] at hmv
  rw [hdays] at hdv
  have hchars : date.iso.toList = [y1, y2, y3, y4, '-', m1, m2, '-', d1, d2] := by
    rw [iso_toList hyear, hyears, hmonths, hdays]
    rfl
  unfold parseDate
  rw [hchars]
  simp only [hyv, hmv, hdv]
  rw [if_pos ⟨h.month_pos, h.month_le, h.day_pos, h.day_le⟩]

/-! ### Days by their texts -/

/-- A text that `parseDate` accepts. -/
def IsDate (value : String) : Prop := ∃ date, parseDate value = .ok date

/-- The number of the day that a text writes. -/
def dayOf (value : String) : ℕ :=
  match parseDate value with
  | .ok date => dayNumber date
  | .error _ => 0

/-- The text of the day with a number. -/
def dateText (number : ℕ) : String := (ofDayNumber number).iso

/-- The month of the day with a number. -/
def monthOf (number : ℕ) : ℕ := monthIndex (ofDayNumber number)

/-- The last day of the year 9999. -/
def lastDayNumber : ℕ := 3663381

/-- The days of the years 0 to 9999. -/
structure InCalendar (number : ℕ) : Prop where
  ge : 10957 ≤ number
  le : number ≤ lastDayNumber

theorem year_le_iff {date : CivilDate} (h : CivilDate.Valid date) :
    date.year ≤ 9999 ↔ dayNumber date ≤ lastDayNumber := by
  have hlast : CivilDate.Valid ⟨9999, 12, 31⟩ := ⟨by decide, by decide, by decide, by decide⟩
  have hnumber : dayNumber ⟨9999, 12, 31⟩ = lastDayNumber := by decide
  have hlt := dayNumber_lt_iff hlast h
  have hmonth := h.month_le
  have hday := h.day_le
  have hdays := daysInMonth_le date.year date.month
  rw [hnumber] at hlt
  unfold monthIndex at hlt
  dsimp only at hlt
  omega

theorem parseDate_dateText {number : ℕ} (h : InCalendar number) :
    parseDate (dateText number) = .ok (ofDayNumber number) := by
  obtain ⟨hvalid, hnumber⟩ := ofDayNumber_spec h.ge
  exact parseDate_iso hvalid ((year_le_iff hvalid).mpr (hnumber.trans_le h.le))

theorem isDate_dateText {number : ℕ} (h : InCalendar number) : IsDate (dateText number) :=
  ⟨_, parseDate_dateText h⟩

theorem dayOf_eq {value : String} {date : CivilDate} (h : parseDate value = .ok date) :
    dayOf value = dayNumber date := by
  unfold dayOf
  rw [h]

@[simp] theorem dayOf_dateText {number : ℕ} (h : InCalendar number) :
    dayOf (dateText number) = number := by
  rw [dayOf_eq (parseDate_dateText h)]
  exact (ofDayNumber_spec h.ge).2

theorem IsDate.inCalendar {value : String} (h : IsDate value) : InCalendar (dayOf value) := by
  obtain ⟨date, hparse⟩ := h
  obtain ⟨hvalid, hyear, -⟩ := iso_of_parseDate hparse
  rw [dayOf_eq hparse]
  exact ⟨dayNumber_ge hvalid, (year_le_iff hvalid).mp hyear⟩

theorem IsDate.dateText_dayOf {value : String} (h : IsDate value) :
    dateText (dayOf value) = value := by
  obtain ⟨date, hparse⟩ := h
  obtain ⟨hvalid, -, hiso⟩ := iso_of_parseDate hparse
  rw [dayOf_eq hparse, dateText, ofDayNumber_dayNumber hvalid, hiso]

theorem IsDate.parseDate_eq {value : String} (h : IsDate value) :
    parseDate value = .ok (ofDayNumber (dayOf value)) := by
  have hparse := parseDate_dateText h.inCalendar
  rwa [h.dateText_dayOf] at hparse

theorem dateText_lt_iff {m n : ℕ} (hm : InCalendar m) (hn : InCalendar n) :
    dateText m < dateText n ↔ m < n := by
  obtain ⟨hvalid, hnumber⟩ := ofDayNumber_spec hm.ge
  obtain ⟨hvalid', hnumber'⟩ := ofDayNumber_spec hn.ge
  rw [dateText, dateText, iso_lt_iff hvalid hvalid'
    ((year_le_iff hvalid).mpr (hnumber.trans_le hm.le))
    ((year_le_iff hvalid').mpr (hnumber'.trans_le hn.le)), hnumber, hnumber']

theorem IsDate.lt_iff {s t : String} (hs : IsDate s) (ht : IsDate t) :
    s < t ↔ dayOf s < dayOf t := by
  have h := dateText_lt_iff hs.inCalendar ht.inCalendar
  rwa [hs.dateText_dayOf, ht.dateText_dayOf] at h

theorem IsDate.le_iff {s t : String} (hs : IsDate s) (ht : IsDate t) :
    s ≤ t ↔ dayOf s ≤ dayOf t := by
  rw [← not_lt, ht.lt_iff hs, Nat.not_lt]

/-! ### Months of days -/

theorem monthOf_mono {m n : ℕ} (hm : 10957 ≤ m) (h : m ≤ n) : monthOf m ≤ monthOf n := by
  obtain ⟨hvalid, hnumber⟩ := ofDayNumber_spec hm
  obtain ⟨hvalid', hnumber'⟩ := ofDayNumber_spec (hm.trans h)
  have hlt := dayNumber_lt_iff hvalid' hvalid
  unfold monthOf
  omega

theorem monthOf_succ_le {m : ℕ} (hm : 10957 ≤ m) : monthOf (m + 1) ≤ monthOf m + 1 := by
  obtain ⟨hvalid, hnumber⟩ := ofDayNumber_spec hm
  obtain ⟨hvalid', hnumber'⟩ := ofDayNumber_spec (show 10957 ≤ m + 1 by omega)
  have heq := dayNumber_eq hvalid
  have heq' := dayNumber_eq hvalid'
  have hday := day_le_monthLength hvalid
  have := hvalid'.day_pos
  have := hvalid.day_pos
  unfold monthOf
  by_contra hgt
  have h₁ := monthStart_add_le (show monthIndex (ofDayNumber m) < monthIndex (ofDayNumber m) + 1 by
    omega)
  have h₂ := monthStart_add_le (show monthIndex (ofDayNumber m) + 1 <
    monthIndex (ofDayNumber (m + 1)) by omega)
  have h₃ := monthLength_pos (monthIndex (ofDayNumber m) + 1)
  omega

theorem monthOf_lt {number : ℕ} (h : InCalendar number) : monthOf number < 120000 := by
  obtain ⟨hvalid, hnumber⟩ := ofDayNumber_spec h.ge
  have hyear := (year_le_iff hvalid).mpr (hnumber.trans_le h.le)
  have := hvalid.month_le
  unfold monthOf monthIndex
  omega

theorem toList_monthKey (month : ℕ) : (monthKey month).toList =
    (padded 4 (month / 12)).toList ++ '-' :: (padded 2 (month % 12 + 1)).toList := by
  unfold monthKey
  simp only [String.toList_append, List.append_assoc]
  rfl

theorem length_monthKey {month : ℕ} (h : month < 120000) : (monthKey month).toList.length = 7 := by
  rw [toList_monthKey, List.length_append, List.length_cons,
    length_padded (by decide) (by omega), length_padded (by decide) (by omega)]

theorem monthKey_inj {month month' : ℕ} (h : month < 120000) (h' : month' < 120000)
    (heq : monthKey month = monthKey month') : month = month' := by
  have hlist := congrArg String.toList heq
  rw [toList_monthKey, toList_monthKey] at hlist
  obtain ⟨hyear, hrest⟩ := List.append_inj hlist
    ((length_padded (by decide) (by omega)).trans (length_padded (by decide) (by omega)).symm)
  have hyears := padded_inj hyear
  have hmonths := padded_inj (List.cons.inj hrest).2
  omega

/-- A date begins with the key of its month. -/
theorem take_dateText {number : ℕ} (h : InCalendar number) :
    (dateText number).toList.take 7 = (monthKey (monthOf number)).toList := by
  obtain ⟨hvalid, hnumber⟩ := ofDayNumber_spec h.ge
  have hyear := (year_le_iff hvalid).mpr (hnumber.trans_le h.le)
  obtain ⟨hy, hm, -⟩ := length_iso_parts hvalid hyear
  obtain ⟨hdiv, hmod⟩ := monthIndex_div hvalid
  rw [dateText, iso_toList hyear, toList_monthKey, monthOf, hdiv, hmod]
  rw [List.take_append, hy, List.take_of_length_le (by omega)]
  refine congrArg _ ?_
  rw [List.take_succ_cons, List.take_append, hm, List.take_of_length_le (by omega)]
  simp

theorem startsWith_monthKey {number month : ℕ} (h : InCalendar number) (hmonth : month < 120000) :
    startsWith (dateText number) (monthKey month) = true ↔ monthOf number = month := by
  rw [startsWith, List.isPrefixOf_iff_prefix, List.prefix_iff_eq_take, length_monthKey hmonth,
    take_dateText h]
  constructor
  · intro heq
    exact (monthKey_inj hmonth (monthOf_lt h) (String.toList_injective heq)).symm
  · intro heq
    rw [heq]

/-! ### Months as `Date.UTC` reads them -/

theorem monthIndex_le_utcMonth (date : CivilDate) : monthIndex date ≤ utcMonth date := by
  unfold monthIndex utcMonth
  split_ifs <;> omega

theorem utcMonth_eq {date : CivilDate} (h : 100 ≤ date.year) : utcMonth date = monthIndex date := by
  unfold monthIndex utcMonth
  rw [if_neg (Nat.not_lt.mpr h)]

theorem utcMonth_lt {number : ℕ} (h : InCalendar number) : utcMonth (ofDayNumber number) < 120000 := by
  have hmonth := monthOf_lt h
  have hvalid := (ofDayNumber_spec h.ge).1
  have hle := hvalid.month_le
  unfold monthOf monthIndex at hmonth
  unfold utcMonth
  split_ifs <;> omega

theorem year_lt_iff {number : ℕ} (h : 10957 ≤ number) :
    (ofDayNumber number).year < 100 ↔ number < 47482 := by
  obtain ⟨hvalid, hnumber⟩ := ofDayNumber_spec h
  have hcentury : CivilDate.Valid ⟨100, 1, 1⟩ := ⟨by decide, by decide, by decide, by decide⟩
  have hday : dayNumber ⟨100, 1, 1⟩ = 47482 := by decide
  have hlt := dayNumber_lt_iff hvalid hcentury
  have hmonth := hvalid.month_le
  have hpos := hvalid.month_pos
  have hdaypos := hvalid.day_pos
  rw [hnumber, hday] at hlt
  rw [hlt]
  unfold monthIndex
  dsimp only
  omega

theorem utcMonth_of_lt {number : ℕ} (h : number < 47482) (hge : 10957 ≤ number) :
    22800 ≤ utcMonth (ofDayNumber number) := by
  have hyear := (year_lt_iff hge).mpr h
  unfold utcMonth
  rw [if_pos hyear]
  omega

theorem utcMonth_of_le {number : ℕ} (h : 47482 ≤ number) :
    utcMonth (ofDayNumber number) = monthOf number := by
  have hyear := (year_lt_iff (show 10957 ≤ number by omega)).not.mpr (Nat.not_lt.mpr h)
  exact utcMonth_eq (Nat.not_lt.mp hyear)

/-- The first months that a range of two dates reads and the last one. -/
theorem monthKeysForRange_eq {start stop : String} (hstart : IsDate start) (hstop : IsDate stop) :
    monthKeysForRange start stop = .ok ((SortedRows.between (utcMonth (ofDayNumber (dayOf start)))
      (utcMonth (ofDayNumber (dayOf stop)))).map monthKey) := by
  unfold monthKeysForRange
  rw [hstart.parseDate_eq, hstop.parseDate_eq, SortedRows.between, List.range'_eq_map_range,
    List.map_map]
  rfl

theorem isDate_of_monthKeysForRange {start stop : String} {months : List String}
    (h : monthKeysForRange start stop = .ok months) : IsDate start ∧ IsDate stop := by
  unfold monthKeysForRange at h
  cases hstart : parseDate start with
  | error e =>
      rw [hstart] at h
      exact nomatch h
  | ok startDate =>
      cases hstop : parseDate stop with
      | error e =>
          rw [hstart, hstop] at h
          exact nomatch h
      | ok stopDate => exact ⟨⟨startDate, hstart⟩, stopDate, hstop⟩

end OlympusMetrics.Publisher
