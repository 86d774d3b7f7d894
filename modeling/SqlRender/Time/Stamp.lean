import SqlRender.Text.Digits
import SqlRender.Time.Calendar

/-!
# Timestamps

A stamp is a date and the reading of a clock, to the nanosecond. A leap second is kept as the
second before it with a nanosecond past a whole second, so a clock that is moved stays in it. An
offset stamp adds how far that clock runs ahead of universal time, in seconds below one day.
-/

namespace SqlRender

/-- The reading of a clock; the nanoseconds past one second are those of a leap second. -/
structure Clock where
  hour : Nat
  minute : Nat
  second : Nat
  nanosecond : Nat
  hour_lt : hour < 24 := by decide
  minute_lt : minute < 60 := by decide
  second_lt : second < 60 := by decide
  nanosecond_lt : nanosecond < 2 * Nat.pow 10 9 := by decide
deriving DecidableEq

namespace Clock

/-- The clock that shows the given fields, if there is one; second sixty is a leap second. -/
def of? (hour minute second nanosecond : Nat) : Option Clock :=
  if h : hour < 24 ∧ minute < 60 ∧ second ≤ 60 ∧ nanosecond < Nat.pow 10 9 then
    some {
      hour
      minute
      second := second - second / 60
      nanosecond := second / 60 * Nat.pow 10 9 + nanosecond
      hour_lt := h.1
      minute_lt := h.2.1
      second_lt := by omega
      nanosecond_lt := by
        have hleap : second / 60 ≤ 1 := by omega
        have := Nat.mul_le_mul_right (Nat.pow 10 9) hleap
        omega }
  else none

/-- The start of a day. -/
def midnight : Clock := { hour := 0, minute := 0, second := 0, nanosecond := 0 }

/-- The second that a clock shows, which is the following one in a leap second. -/
def shownSecond (c : Clock) : Nat := c.second + c.nanosecond / Nat.pow 10 9

/-- The fraction of a second that a clock shows, in nanoseconds. -/
def fraction (c : Clock) : Nat := c.nanosecond % Nat.pow 10 9

/-- The seconds since midnight. -/
def seconds (c : Clock) : Nat := 3600 * c.hour + 60 * c.minute + c.second

/-- The same fraction of another second of the day. -/
def atSecond (c : Clock) (seconds : Nat) : Clock :=
  ⟨seconds / 3600 % 24, seconds / 60 % 60, seconds % 60, c.nanosecond, Nat.mod_lt _ (by decide),
    Nat.mod_lt _ (by decide), Nat.mod_lt _ (by decide), c.nanosecond_lt⟩

end Clock

/-- A date and the reading of a clock. -/
structure Stamp where
  date : Date
  clock : Clock
deriving DecidableEq

/-- A stamp together with the seconds its clock runs ahead of universal time. -/
structure OffsetStamp where
  /-- What the clock at the offset shows. -/
  stamp : Stamp
  offset : Int
  offset_lt : offset.natAbs < 86400 := by decide
deriving DecidableEq

namespace Stamp

/-- The start of a date. -/
def startOf (d : Date) : Stamp := ⟨d, .midnight⟩

/-- The stamp some seconds later or earlier, less than a day. -/
def shift (s : Stamp) (seconds : Int) : Stamp :=
  let total : Int := s.clock.seconds + seconds
  if total < 0 then ⟨s.date.previous, s.clock.atSecond (total + 86400).toNat⟩
  else if 86400 ≤ total then ⟨s.date.next, s.clock.atSecond (total - 86400).toNat⟩
  else ⟨s.date, s.clock.atSecond total.toNat⟩

/-- The seconds since the epoch when the clock shows universal time; a leap second counts as
the second before it. -/
def seconds (s : Stamp) : Int := 86400 * s.date.dayNumber + s.clock.seconds

/-- A year as four digits, or with a sign and at least four digits outside `0 .. 9999`. -/
def yearText (year : Int) : List Char :=
  if year < 0 then '-' :: Text.zeroPadded 4 year.natAbs
  else if 9999 < year then '+' :: Text.zeroPadded 4 year.natAbs
  else Text.zeroPadded 4 year.natAbs

/-- The date as year, month and day with hyphens. -/
def dateText (d : Date) : List Char :=
  yearText d.year ++ '-' :: Text.zeroPadded 2 d.month ++ '-' :: Text.zeroPadded 2 d.day

/-- The fraction of a second after a point, in the fewest of three, six or nine digits that
are exact; nothing for a whole second. -/
def fractionText (nanosecond : Nat) : List Char :=
  if nanosecond = 0 then []
  else if nanosecond % 1000000 = 0 then '.' :: Text.zeroPadded 3 (nanosecond / 1000000)
  else if nanosecond % 1000 = 0 then '.' :: Text.zeroPadded 6 (nanosecond / 1000)
  else '.' :: Text.zeroPadded 9 nanosecond

/-- The clock as hour, minute and second with colons, and the fraction. -/
def clockText (c : Clock) : List Char :=
  Text.zeroPadded 2 c.hour ++ ':' :: Text.zeroPadded 2 c.minute ++
    ':' :: Text.zeroPadded 2 c.shownSecond ++ fractionText c.fraction

/-- The text of a stamp with the given character between date and clock. -/
def textWith (separator : Char) (s : Stamp) : List Char :=
  dateText s.date ++ separator :: clockText s.clock

/-- The text of a stamp with `T` between date and clock. -/
def text (s : Stamp) : String := String.ofList (s.textWith 'T')

/-- The text of a stamp with a space between date and clock. -/
def spacedText (s : Stamp) : String := String.ofList (s.textWith ' ')

end Stamp

namespace OffsetStamp

/-- The stamp of universal time at the same moment. -/
def universal (s : OffsetStamp) : Stamp := s.stamp.shift (-s.offset)

/-- What a clock of universal time shows. -/
def ofUniversal (s : Stamp) : OffsetStamp := ⟨s, 0, by decide⟩

/-- The same moment on the clock of universal time. -/
def toUniversal (s : OffsetStamp) : OffsetStamp := ofUniversal s.universal

/-- Which way a clock is off. -/
def sign (offset : Int) : Char := if offset < 0 then '-' else '+'

/-- An offset in hours and minutes of two digits each, with the given text between them; the
seconds are rounded to the nearest minute. -/
def minutesText (offset : Int) (separator : List Char) : List Char :=
  let minutes := (offset.natAbs + 30) / 60
  sign offset :: Text.zeroPadded 2 (minutes / 60) ++ separator ++ Text.zeroPadded 2 (minutes % 60)

/-- An offset in hours, minutes and seconds of two digits each, with colons between them. -/
def secondsText (offset : Int) : List Char :=
  sign offset :: Text.zeroPadded 2 (offset.natAbs / 3600) ++
    ':' :: Text.zeroPadded 2 (offset.natAbs / 60 % 60) ++
    ':' :: Text.zeroPadded 2 (offset.natAbs % 60)

/-- The hours of an offset, without what is past them. -/
def hoursText (offset : Int) : List Char :=
  sign offset :: Text.zeroPadded 2 (offset.natAbs / 3600)

/-- An offset as the name of a zone, with the seconds only where there are any. -/
def zoneText (offset : Int) : List Char :=
  if offset.natAbs % 60 = 0 then minutesText offset [':'] else secondsText offset

/-- The text of an offset stamp, with the offset always in hours and minutes. -/
def text (s : OffsetStamp) : String :=
  String.ofList (s.stamp.textWith 'T' ++ minutesText s.offset [':'])

/-- The text of an offset stamp, with the offset to the second. -/
def exactText (s : OffsetStamp) : String :=
  String.ofList (s.stamp.textWith 'T' ++ zoneText s.offset)

/-- The text of an offset stamp, with `Z` for universal time. -/
def wireText (s : OffsetStamp) : String :=
  if s.offset = 0 then String.ofList (s.stamp.textWith 'T' ++ ['Z']) else s.text

end OffsetStamp

end SqlRender
