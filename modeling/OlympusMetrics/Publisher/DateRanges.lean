import OlympusMetrics.Library.Calendar

/-!
Calendar dates as the publisher writes them, and ranges of them.
-/

namespace OlympusMetrics.Publisher

open Calendar

structure DateRange where
  start : String
  stop : String
  days : ℕ
  deriving DecidableEq

def isLeapYear (year : ℕ) : Bool := year % 4 == 0 && (year % 100 != 0 || year % 400 == 0)

def daysInMonth (year month : ℕ) : ℕ :=
  if month = 2 then if isLeapYear year then 29 else 28
  else if month = 4 ∨ month = 6 ∨ month = 9 ∨ month = 11 then 30
  else 31

/-- The number that decimal digits write. -/
def digitsValue (digits : List Char) : Option ℕ :=
  if digits.all Char.isDigit then
    some (digits.foldl (fun n c => 10 * n + (c.toNat - '0'.toNat)) 0)
  else none

/-- `parseDate`: the pattern of a date and a day that the calendar has. -/
def parseDate (value : String) : Except String CivilDate :=
  match value.toList with
  | [y1, y2, y3, y4, '-', m1, m2, '-', d1, d2] =>
      match digitsValue [y1, y2, y3, y4], digitsValue [m1, m2], digitsValue [d1, d2] with
      | some year, some month, some day =>
          if 1 ≤ month ∧ month ≤ 12 ∧ 1 ≤ day ∧ day ≤ daysInMonth year month then
            .ok { year := year, month := month, day := day }
          else .error ("Invalid date: " ++ value)
      | _, _, _ => .error ("Invalid date: " ++ value)
  | _ => .error ("Invalid date: " ++ value)

/-- Days since the first of January of the year -30, 2000 years before the epoch of the calendar,
so that every date of a year from zero on has a number. -/
def dayNumber (date : CivilDate) : ℕ :=
  let year := date.year + 2000 - (if date.month ≤ 2 then 1 else 0)
  let marchMonth := if date.month ≤ 2 then date.month + 9 else date.month - 3
  365 * year + year / 4 - year / 100 + year / 400 + (153 * marchMonth + 2) / 5 + date.day -
    1 - 719468

/-- The date with a number: 2000 years are a whole number of calendar cycles. -/
def ofDayNumber (number : ℕ) : CivilDate :=
  let date := civilFromDays number
  { date with year := date.year - 2000 }

example : (parseDate "2024-02-29").toOption.map (fun d => (ofDayNumber (dayNumber d + 1)).iso) =
    some "2024-03-01" := by decide

/-- `addDays`; a text that is no date makes `toISOString` throw. So does here a day from the 29th to
the 31st that its month lacks, as of `2024-02-30`, which V8 counts on into the next month. -/
def addDays (date : String) (days : ℤ) : Except String String :=
  match parseDate date with
  | .ok parsed => .ok (ofDayNumber ((dayNumber parsed : ℤ) + days).toNat).iso
  | .error _ => .error "Invalid time value"

/-- `Date.UTC(year, month, 1)` in months from year zero; it reads the years below 100 as those of
the twentieth century. -/
def utcMonth (date : CivilDate) : ℕ :=
  12 * (if date.year < 100 then date.year + 1900 else date.year) + (date.month - 1)

/-- The first seven characters of the first day of a month. -/
def monthKey (month : ℕ) : String := padded 4 (month / 12) ++ "-" ++ padded 2 (month % 12 + 1)

/-- `firstDayOfMonth`. -/
def firstDayOfMonth (date : String) : String := String.ofList (date.toList.take 7) ++ "-01"

/-- `firstDayOfPreviousMonth`, which fails where `addDays` does. -/
def firstDayOfPreviousMonth (date : String) : Except String String :=
  match parseDate date with
  | .ok parsed => .ok (monthKey (utcMonth parsed - 1) ++ "-01")
  | .error _ => .error "Invalid time value"

/-- `maxDate`. -/
def maxDate (a b : String) : String := if b < a then a else b

/-- `minDate`. -/
def minDate (a b : String) : String := if a < b then a else b

/-- `resolveDateRange`; the manifest only supplies the latest date. -/
def resolveDateRange (start : String) (stop : Option String) (latestDate : String)
    (maxRangeDays : Option ℕ) (enforceMaxRange : Bool) : Except String DateRange := do
  let stop := stop.getD latestDate
  let startDate ← parseDate start
  let stopDate ← parseDate stop
  if dayNumber stopDate < dayNumber startDate then
    .error "end must be greater than or equal to start"
  else
    let days := dayNumber stopDate - dayNumber startDate + 1
    match maxRangeDays with
    | some maxDays =>
        if enforceMaxRange && decide (maxDays < days) then
          .error ("Requested range is " ++ toString days ++ " days; maximum is " ++
            toString maxDays ++ " days.")
        else .ok { start := start, stop := stop, days := days }
    | none => .ok { start := start, stop := stop, days := days }

/-- `monthKeysForRange`. -/
def monthKeysForRange (start stop : String) : Except String (List String) := do
  let startDate ← parseDate start
  let stopDate ← parseDate stop
  .ok ((List.range (utcMonth stopDate + 1 - utcMonth startDate)).map
    (fun k => monthKey (utcMonth startDate + k)))

/-- The dates from `start` to `stop`, both included. -/
def datesOfRange (start stop : String) : Except String (List String) := do
  let startDate ← parseDate start
  let stopDate ← parseDate stop
  .ok ((List.range (dayNumber stopDate + 1 - dayNumber startDate)).map
    (fun k => (ofDayNumber (dayNumber startDate + k)).iso))

end OlympusMetrics.Publisher
