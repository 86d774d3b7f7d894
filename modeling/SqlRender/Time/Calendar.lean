/-!
# The proleptic Gregorian calendar

Dates with a year zero and years of either sign. A date is kept as year, month and day, and
its fields are bound to the lengths of the months; the weekday, the day of the year and the
ISO week are read off the count of days since 1970-01-01.
-/

namespace SqlRender

/-- Every fourth year is a leap year, except the centuries that no four hundred divides. -/
def isLeapYear (year : Int) : Bool :=
  year % 4 == 0 && (year % 100 != 0 || year % 400 == 0)

/-- The days of a month; the months are numbered from one. -/
def daysInMonth (year : Int) (month : Nat) : Nat :=
  if month = 2 then (if isLeapYear year then 29 else 28)
  else if month = 4 ∨ month = 6 ∨ month = 9 ∨ month = 11 then 30
  else 31

/-- No month is longer than thirty-one days. -/
theorem daysInMonth_le (year : Int) (month : Nat) : daysInMonth year month ≤ 31 := by
  unfold daysInMonth; split <;> (try split) <;> omega

/-- No month is shorter than twenty-eight days. -/
theorem le_daysInMonth (year : Int) (month : Nat) : 28 ≤ daysInMonth year month := by
  unfold daysInMonth; split <;> (try split) <;> omega

/-- The days of a year. -/
def daysInYear (year : Int) : Nat := if isLeapYear year then 366 else 365

/-- A day of the calendar. -/
structure Date where
  year : Int
  month : Nat
  day : Nat
  month_pos : 1 ≤ month := by decide
  month_le : month ≤ 12 := by decide
  day_pos : 1 ≤ day := by decide
  day_le : day ≤ daysInMonth year month := by decide
deriving DecidableEq

namespace Date

/-- The date with the given fields, if the calendar has it. -/
def of? (year : Int) (month day : Nat) : Option Date :=
  if h : 1 ≤ month ∧ month ≤ 12 ∧ 1 ≤ day ∧ day ≤ daysInMonth year month then
    some ⟨year, month, day, h.1, h.2.1, h.2.2.1, h.2.2.2⟩
  else none

/-- The day the count of days starts from. -/
def epoch : Date := { year := 1970, month := 1, day := 1 }

/-- The following day. -/
def next (d : Date) : Date :=
  if h : d.day + 1 ≤ daysInMonth d.year d.month then
    ⟨d.year, d.month, d.day + 1, d.month_pos, d.month_le, by omega, h⟩
  else if hm : d.month + 1 ≤ 12 then
    ⟨d.year, d.month + 1, 1, by omega, hm, by omega,
      Nat.le_trans (by decide) (le_daysInMonth d.year (d.month + 1))⟩
  else
    ⟨d.year + 1, 1, 1, by omega, by omega, by omega,
      Nat.le_trans (by decide) (le_daysInMonth (d.year + 1) 1)⟩

/-- The preceding day. -/
def previous (d : Date) : Date :=
  if h : 1 < d.day then
    ⟨d.year, d.month, d.day - 1, d.month_pos, d.month_le, by omega,
      Nat.le_trans (Nat.sub_le _ _) d.day_le⟩
  else if hm : 1 < d.month then
    ⟨d.year, d.month - 1, daysInMonth d.year (d.month - 1), by omega,
      Nat.le_trans (Nat.sub_le _ _) d.month_le,
      Nat.le_trans (by decide) (le_daysInMonth d.year (d.month - 1)), Nat.le_refl _⟩
  else
    ⟨d.year - 1, 12, daysInMonth (d.year - 1) 12, by omega, by omega,
      Nat.le_trans (by decide) (le_daysInMonth (d.year - 1) 12), Nat.le_refl _⟩

/-- The number of days in the first months of a year. -/
def daysInMonths (year : Int) : Nat → Nat
  | 0 => 0
  | month + 1 => daysInMonths year month + daysInMonth year (month + 1)

/-- The day of the year, from one. -/
def ordinal (d : Date) : Nat := daysInMonths d.year (d.month - 1) + d.day

/-- The count of days since 1970-01-01. -/
def dayNumber (d : Date) : Int :=
  let before := d.year - 1
  365 * before + before.fdiv 4 - before.fdiv 100 + before.fdiv 400 + d.ordinal - 719163

/-- The weekday, from zero on Sunday. -/
def weekday (d : Date) : Nat := ((d.dayNumber + 4) % 7).toNat

/-- The days since the last Monday. -/
def daysSinceMonday (d : Date) : Nat := (d.weekday + 6) % 7

/-- The quarter of the year, from one. -/
def quarter (d : Date) : Nat := (d.month - 1) / 3 + 1

/-- The week of the year when every week starts so many days before the given day; the days
before the first such start are in week zero. -/
def weekOfYear (d : Date) (daysSinceStart : Nat) : Nat := (d.ordinal + 6 - daysSinceStart) / 7

/-- The ISO year and week: a week belongs to the year of its Thursday. -/
def isoWeek (d : Date) : Int × Nat :=
  let thursday : Int := (d.ordinal : Int) + 3 - d.daysSinceMonday
  let size : Int := daysInYear d.year
  if thursday < 1 then
    (d.year - 1, ((thursday + daysInYear (d.year - 1) - 1) / 7).toNat + 1)
  else if size < thursday then (d.year + 1, ((thursday - size - 1) / 7).toNat + 1)
  else (d.year, ((thursday - 1) / 7).toNat + 1)

end Date

end SqlRender
