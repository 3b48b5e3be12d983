import Mathlib.Data.Nat.Basic
import Mathlib.Data.String.Basic

/-!
Proleptic Gregorian calendar dates counted in days from 1970-01-01, and the
texts that `Date.prototype.toISOString` writes for them.
-/

namespace OlympusMetrics.Calendar

structure CivilDate where
  year : ℕ
  month : ℕ
  day : ℕ
  deriving DecidableEq, Repr

/-- The date `days` days after 1970-01-01, by eras of 400 years that start in March. -/
def civilFromDays (days : ℕ) : CivilDate :=
  let shifted := days + 719468
  let era := shifted / 146097
  let dayOfEra := shifted % 146097
  let yearOfEra :=
    (dayOfEra - dayOfEra / 1460 + dayOfEra / 36524 - dayOfEra / 146096) / 365
  let dayOfYear := dayOfEra - (365 * yearOfEra + yearOfEra / 4 - yearOfEra / 100)
  let marchMonth := (5 * dayOfYear + 2) / 153
  let day := dayOfYear - (153 * marchMonth + 2) / 5 + 1
  let month := if marchMonth < 10 then marchMonth + 3 else marchMonth - 9
  let year := yearOfEra + era * 400
  { year := if month ≤ 2 then year + 1 else year, month := month, day := day }

/-- `n` in decimal, padded with zeros to `width` digits. -/
def padded (width n : ℕ) : String :=
  String.ofList (List.replicate (width - (Nat.toDigits 10 n).length) '0' ++ Nat.toDigits 10 n)

/-- The first ten characters of the ISO text: years above 9999 are written with a sign. -/
def CivilDate.iso (date : CivilDate) : String :=
  if date.year ≤ 9999 then
    padded 4 date.year ++ "-" ++ padded 2 date.month ++ "-" ++ padded 2 date.day
  else "+" ++ padded 6 date.year ++ "-" ++ padded 2 date.month

/-- Digits are the only characters of a padded number. -/
theorem isDigit_of_mem_padded {width n : ℕ} {c : Char} (h : c ∈ (padded width n).toList) :
    c.isDigit := by
  simp only [padded, String.toList_ofList, List.mem_append, List.mem_replicate] at h
  rcases h with ⟨-, rfl⟩ | h
  · decide
  · exact Nat.isDigit_of_mem_toDigits (by decide) (by decide) h

example : (civilFromDays 0).iso = "1970-01-01" := by decide
example : (civilFromDays 19782).iso = "2024-02-29" := by decide

end OlympusMetrics.Calendar
