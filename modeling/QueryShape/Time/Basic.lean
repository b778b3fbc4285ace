/-!
# Dates and times

Days of the calendar from year 1 to year 9999, and times on them with microseconds and an optional
distance from universal time of less than a day.
-/

namespace QueryShape.Time

/-! ## The calendar -/

/-- The year has a 29th of February. -/
def isLeap (year : Nat) : Bool := year % 4 == 0 && (year % 100 != 0 || year % 400 == 0)

/-- The number of days of a month. -/
def daysInMonth (year month : Nat) : Nat :=
  if month = 2 then (if isLeap year then 29 else 28)
  else if month ∈ [4, 6, 9, 11] then 30
  else 31

/-- A year, month and day name a day of the calendar. -/
def isDay (year month day : Nat) : Bool :=
  (1 ≤ year && year ≤ 9999) && (1 ≤ month && month ≤ 12) &&
    (1 ≤ day && day ≤ daysInMonth year month)

/-- A day of the calendar. -/
structure Date where
  year : Nat
  month : Nat
  day : Nat
  valid : isDay year month day = true
  deriving DecidableEq

instance : Inhabited Date := ⟨⟨1, 1, 1, by decide⟩⟩

/-- The day of a year, month and day, if there is one. -/
def Date.ofParts? (year month day : Nat) : Option Date :=
  if h : isDay year month day = true then some ⟨year, month, day, h⟩ else none

/-- The number of days of the years before a year. -/
def daysBeforeYear (year : Nat) : Nat :=
  let y := year - 1
  y * 365 + y / 4 - y / 100 + y / 400

/-- The day that is so many days after the first day of a month of a year, which has so many months
left. -/
def dayAfter? (year : Nat) : (left : Nat) → (days : Nat) → Option Date
  | 0, _ => none
  | left + 1, days =>
    let month := 12 - left
    if days < daysInMonth year month then Date.ofParts? year month (days + 1)
    else dayAfter? year left (days - daysInMonth year month)

/-- The day with a number, counted from one for the first of January of year 1, if it is in a
year. -/
def dayOfYear? (number year : Nat) : Option Date :=
  let before := daysBeforeYear year
  if before < number then dayAfter? year 12 (number - before - 1) else none

/-- The weekday of the first of January, counted from Monday. -/
def firstWeekday (year : Nat) : Nat := daysBeforeYear year % 7

/-- The number of the Monday of the first week of a year: the week with the first Thursday. -/
def firstMonday (year : Nat) : Nat :=
  daysBeforeYear year + 1 + (if 3 < firstWeekday year then 7 else 0) - firstWeekday year

/-- The number of weeks of a year. -/
def weeksInYear (year : Nat) : Nat :=
  (firstMonday (year + 1) - firstMonday year) / 7

/-- The day in a week of a year, both counted from one. It can be in a year next to that. -/
def Date.ofWeek? (year week day : Nat) : Option Date :=
  if (1 ≤ year ∧ year ≤ 9999) ∧ (1 ≤ week ∧ week ≤ weeksInYear year) ∧ (1 ≤ day ∧ day ≤ 7) then
    let number := firstMonday year + 7 * (week - 1) + (day - 1)
    [year - 1, year, year + 1].findSome? (dayOfYear? number)
  else none

/-! ## Times -/

/-- The number of microseconds of a second, and of a day. -/
def microsPerSecond : Nat := 1000000

/-- The number of microseconds of a day. -/
def microsPerDay : Nat := 86400 * microsPerSecond

/-- A distance from universal time, in microseconds. -/
structure Offset where
  micros : Int
  valid : micros.natAbs < microsPerDay
  deriving DecidableEq

/-- The distance of a number of microseconds, if it is less than a day. -/
def Offset.ofMicros? (micros : Int) : Option Offset :=
  if h : micros.natAbs < microsPerDay then some ⟨micros, h⟩ else none

/-- An hour, minute, second and microsecond of a day. -/
structure Clock where
  hour : Nat
  minute : Nat
  second : Nat
  micro : Nat
  valid : hour < 24 ∧ minute < 60 ∧ second < 60 ∧ micro < microsPerSecond
  deriving DecidableEq

instance : Inhabited Clock := ⟨⟨0, 0, 0, 0, by decide⟩⟩

/-- The time of an hour, minute, second and microsecond, if there is one. -/
def Clock.ofParts? (hour minute second micro : Nat) : Option Clock :=
  if h : hour < 24 ∧ minute < 60 ∧ second < 60 ∧ micro < microsPerSecond then
    some ⟨hour, minute, second, micro, h⟩
  else none

/-- A time of a day. -/
structure DateTime where
  date : Date
  clock : Clock
  offset? : Option Offset := none
  deriving DecidableEq, Inhabited

/-- The number of a day, counted from one for the first of January of year 1. -/
def Date.number (d : Date) : Nat :=
  let before := daysBeforeYear d.year
  (List.range (d.month - 1)).foldl (fun n i => n + daysInMonth d.year (i + 1)) before + d.day

/-- The microseconds of a time from the beginning of the calendar on, in universal time if the
distance from it is known. -/
def DateTime.instant (t : DateTime) : Int :=
  let seconds := (t.clock.hour * 60 + t.clock.minute) * 60 + t.clock.second
  (t.date.number * microsPerDay + seconds * microsPerSecond + t.clock.micro : Nat) -
    ((t.offset?.map (·.micros)).getD 0)

end QueryShape.Time
