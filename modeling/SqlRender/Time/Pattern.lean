import SqlRender.Time.Stamp

/-!
# Timestamp patterns

A pattern is text with percent fields, each of which stands for a part of a timestamp. A field
may carry a padding flag when it is a single number. A pattern that holds an unknown field has
no reading, and a field of the offset has a text only on a stamp with an offset; nothing else
keeps a pattern from being filled in.
-/

namespace SqlRender

/-- What stands before a number that is shorter than its width. -/
inductive Padding
  | bare
  | zero
  | space
deriving DecidableEq

/-- The numbers a field may show. -/
inductive NumberField
  | year | century | yearOfCentury
  | isoYear | isoYearOfCentury
  | quarter | month | day
  | weekFromSunday | weekFromMonday | isoWeek
  | weekdayFromSunday | weekdayFromMonday
  | ordinal
  | hour | hour12 | minute | second | nanosecond
  | epochSeconds
deriving DecidableEq

/-- The words and fractions a field may show. -/
inductive WordField
  | monthName | shortMonthName
  | weekdayName | shortWeekdayName
  | upperHalf | lowerHalf
  /-- The fraction of a second in the fewest of no, three, six or nine digits. -/
  | fraction
  /-- The fraction of a second in so many digits, after a point or not. -/
  | digits (point : Bool) (count : Nat)
deriving DecidableEq

/-- The forms in which a field may show the offset. -/
inductive OffsetField
  /-- Hours and minutes with a colon, and the seconds where there are any. -/
  | zone
  | minutes
  | compactMinutes
  | seconds
  | hours
  /-- Date, clock and offset together. -/
  | moment
deriving DecidableEq

/-- One item of a pattern. -/
inductive PatternItem
  | text (c : Char)
  | number (field : NumberField) (padding : Padding)
  | word (field : WordField)
  | offset (field : OffsetField)
deriving DecidableEq

/-- A pattern that has been read. -/
abbrev Pattern := List PatternItem

namespace Pattern

open PatternItem

/-- A single number, which a padding flag may change. -/
def singleNumber : Char → Option PatternItem
  | 'C' => some (number .century .zero)
  | 'G' => some (number .isoYear .zero)
  | 'H' => some (number .hour .zero)
  | 'I' => some (number .hour12 .zero)
  | 'M' => some (number .minute .zero)
  | 'S' => some (number .second .zero)
  | 'U' => some (number .weekFromSunday .zero)
  | 'V' => some (number .isoWeek .zero)
  | 'W' => some (number .weekFromMonday .zero)
  | 'Y' => some (number .year .zero)
  | 'd' => some (number .day .zero)
  | 'e' => some (number .day .space)
  | 'f' => some (number .nanosecond .zero)
  | 'g' => some (number .isoYearOfCentury .zero)
  | 'j' => some (number .ordinal .zero)
  | 'k' => some (number .hour .space)
  | 'l' => some (number .hour12 .space)
  | 'm' => some (number .month .zero)
  | 'q' => some (number .quarter .bare)
  | 's' => some (number .epochSeconds .bare)
  | 'u' => some (number .weekdayFromMonday .bare)
  | 'w' => some (number .weekdayFromSunday .bare)
  | 'y' => some (number .yearOfCentury .zero)
  | _ => none

/-- Hour and minute. -/
def hourMinute : Pattern := [number .hour .zero, text ':', number .minute .zero]

/-- Hour, minute and second. -/
def wholeClock : Pattern := hourMinute ++ [text ':', number .second .zero]

/-- Month, day and year of the century with slashes. -/
def slashedDate : Pattern :=
  [number .month .zero, text '/', number .day .zero, text '/', number .yearOfCentury .zero]

/-- Any other field of one character. -/
def compound : Char → Option Pattern
  | 'A' => some [word .weekdayName]
  | 'B' => some [word .monthName]
  | 'D' => some slashedDate
  | 'F' => some [number .year .zero, text '-', number .month .zero, text '-', number .day .zero]
  | 'P' => some [word .lowerHalf]
  | 'R' => some hourMinute
  | 'T' => some wholeClock
  | 'X' => some wholeClock
  | 'Z' => some [offset .zone]
  | 'a' => some [word .shortWeekdayName]
  | 'b' => some [word .shortMonthName]
  | 'c' => some ([word .shortWeekdayName, text ' ', word .shortMonthName, text ' ',
      number .day .space, text ' '] ++ wholeClock ++ [text ' ', number .year .zero])
  | 'h' => some [word .shortMonthName]
  | 'n' => some [text '\n']
  | 'p' => some [word .upperHalf]
  | 'r' => some [number .hour12 .zero, text ':', number .minute .zero, text ':',
      number .second .zero, text ' ', word .upperHalf]
  | 't' => some [text '\t']
  | 'v' => some [number .day .space, text '-', word .shortMonthName, text '-', number .year .zero]
  | 'x' => some slashedDate
  | 'z' => some [offset .compactMinutes]
  | '+' => some [offset .moment]
  | '%' => some [text '%']
  | _ => none

/-- The padding a flag asks for. -/
def paddingFlag : Char → Option Padding
  | '-' => some .bare
  | '0' => some .zero
  | '_' => some .space
  | _ => none

/-- A field of several characters at the head of a text, and what follows it. -/
def longField : List Char → Option (PatternItem × List Char)
  | ':' :: ':' :: ':' :: 'z' :: rest => some (offset .hours, rest)
  | ':' :: ':' :: 'z' :: rest => some (offset .seconds, rest)
  | ':' :: 'z' :: rest => some (offset .minutes, rest)
  | '.' :: 'f' :: rest => some (word .fraction, rest)
  | '.' :: '3' :: 'f' :: rest => some (word (.digits true 3), rest)
  | '.' :: '6' :: 'f' :: rest => some (word (.digits true 6), rest)
  | '.' :: '9' :: 'f' :: rest => some (word (.digits true 9), rest)
  | '3' :: 'f' :: rest => some (word (.digits false 3), rest)
  | '6' :: 'f' :: rest => some (word (.digits false 6), rest)
  | '9' :: 'f' :: rest => some (word (.digits false 9), rest)
  | _ => none

/-- The field after a percent sign, and what follows it. -/
def field (s : List Char) : Option (Pattern × List Char) :=
  match s with
  | [] => none
  | c :: rest =>
    match paddingFlag c, rest with
    | some padding, next :: after =>
      match singleNumber next with
      | some (number field _) => some ([number field padding], after)
      | _ => none
    | some _, [] => none
    | none, _ =>
      match longField s with
      | some (item, after) => some ([item], after)
      | none => ((singleNumber c).map ([·])).or (compound c) |>.map (·, rest)

/-- A field takes at least one character. -/
theorem length_field {s rest : List Char} {p : Pattern} (h : field s = some (p, rest)) :
    rest.length < s.length := by
  unfold field at h
  split at h
  · simp at h
  · split at h
    · split at h
      · simp only [Option.some.injEq, Prod.mk.injEq] at h
        obtain ⟨-, rfl⟩ := h
        simp only [List.length_cons]
        omega
      · simp at h
    · simp at h
    · split at h
      · next heq =>
        simp only [Option.some.injEq, Prod.mk.injEq] at h
        obtain ⟨-, rfl⟩ := h
        unfold longField at heq
        split at heq <;> simp_all <;> (obtain ⟨-, rfl⟩ := heq; omega)
      · simp only [Option.map_eq_some_iff, Prod.mk.injEq] at h
        obtain ⟨_, -, -, rfl⟩ := h
        simp

/-- Reads a pattern; there is none when a percent sign is followed by no known field. -/
def read? (s : List Char) : Option Pattern :=
  match s with
  | [] => some []
  | c :: rest =>
    if c == '%' then
      match h : field rest with
      | some (items, after) =>
        have : after.length < rest.length := length_field h
        (read? after).map (items ++ ·)
      | none => none
    else (read? rest).map (text c :: ·)
termination_by s.length
decreasing_by
  · simp only [List.length_cons]; omega
  · simp

end Pattern

namespace PatternItem

/-- The names of the months. -/
def monthNames : List String :=
  ["January", "February", "March", "April", "May", "June", "July", "August", "September",
    "October", "November", "December"]

/-- The names of the weekdays, from Sunday. -/
def weekdayNames : List String :=
  ["Sunday", "Monday", "Tuesday", "Wednesday", "Thursday", "Friday", "Saturday"]

/-- A number of two digits; the leading digit is dropped or becomes a space when it is zero
and the padding says so. A number past ninety-nine shows its tens as one character. -/
def twoDigits (n : Nat) (padding : Padding) : List Char :=
  let tens := n / 10
  let lead :=
    if tens = 0 then
      match padding with
      | .bare => []
      | .space => [' ']
      | .zero => ['0']
    else [Char.ofNat (0x30 + tens)]
  lead ++ [Char.ofNat (0x30 + n % 10)]

/-- A number with its sign, filled up to a width. Zeros go between sign and digits, spaces in
front of the sign. -/
def padded (sign : List Char) (size width : Nat) (padding : Padding) : List Char :=
  let digits := Text.decimalDigits size
  let fill := width - (sign.length + digits.length)
  match padding with
  | .bare => sign ++ digits
  | .zero => sign ++ List.replicate fill '0' ++ digits
  | .space => List.replicate fill ' ' ++ sign ++ digits

/-- A year: four places, and one more with a sign outside `0 .. 9999`. -/
def yearDigits (year : Int) (padding : Padding) : List Char :=
  if year < 0 then padded ['-'] year.natAbs 5 padding
  else if 9999 < year then padded ['+'] year.natAbs 5 padding
  else padded [] year.natAbs 4 padding

/-- The hour on a clock of twelve hours. -/
def hourOfTwelve (hour : Nat) : Nat := if hour % 12 = 0 then 12 else hour % 12

/-- The text of a number field on a stamp whose clock runs `offset` seconds ahead. -/
def numberText (s : Stamp) (offset : Int) (padding : Padding) : NumberField → List Char
  | .year => yearDigits s.date.year padding
  | .century => twoDigits (s.date.year / 100 % 256).toNat padding
  | .yearOfCentury => twoDigits (s.date.year % 100).toNat padding
  | .isoYear => yearDigits s.date.isoWeek.1 padding
  | .isoYearOfCentury => twoDigits (s.date.isoWeek.1 % 100).toNat padding
  | .quarter => Text.decimalDigits s.date.quarter
  | .month => twoDigits s.date.month padding
  | .day => twoDigits s.date.day padding
  | .weekFromSunday => twoDigits (s.date.weekOfYear s.date.weekday) padding
  | .weekFromMonday => twoDigits (s.date.weekOfYear s.date.daysSinceMonday) padding
  | .isoWeek => twoDigits s.date.isoWeek.2 padding
  | .weekdayFromSunday => Text.decimalDigits s.date.weekday
  | .weekdayFromMonday => Text.decimalDigits (s.date.daysSinceMonday + 1)
  | .ordinal => padded [] s.date.ordinal 3 padding
  | .hour => twoDigits s.clock.hour padding
  | .hour12 => twoDigits (hourOfTwelve s.clock.hour) padding
  | .minute => twoDigits s.clock.minute padding
  | .second => twoDigits s.clock.shownSecond padding
  | .nanosecond => padded [] s.clock.fraction 9 padding
  | .epochSeconds =>
    let seconds := s.seconds - offset
    padded (if seconds < 0 then ['-'] else []) seconds.natAbs 9 padding

/-- The text of a word field. -/
def wordText (s : Stamp) : WordField → List Char
  | .monthName => (monthNames.getD (s.date.month - 1) "").toList
  | .shortMonthName => (monthNames.getD (s.date.month - 1) "").toList.take 3
  | .weekdayName => (weekdayNames.getD s.date.weekday "").toList
  | .shortWeekdayName => (weekdayNames.getD s.date.weekday "").toList.take 3
  | .upperHalf => if s.clock.hour < 12 then ['A', 'M'] else ['P', 'M']
  | .lowerHalf => if s.clock.hour < 12 then ['a', 'm'] else ['p', 'm']
  | .fraction => Stamp.fractionText s.clock.fraction
  | .digits point count =>
    let digits := Text.zeroPadded count (s.clock.fraction / Nat.pow 10 (9 - count))
    if point then '.' :: digits else digits

/-- The text of an offset field. -/
def offsetFieldText (s : Stamp) (offset : Int) : OffsetField → List Char
  | .zone => OffsetStamp.zoneText offset
  | .minutes => OffsetStamp.minutesText offset [':']
  | .compactMinutes => OffsetStamp.minutesText offset []
  | .seconds => OffsetStamp.secondsText offset
  | .hours => OffsetStamp.hoursText offset
  | .moment => s.textWith 'T' ++ OffsetStamp.minutesText offset [':']

/-- The text of an item; an offset field has none without an offset. -/
def fill? (s : Stamp) (offset : Option Int) : PatternItem → Option (List Char)
  | .text c => some [c]
  | .number field padding => some (numberText s (offset.getD 0) padding field)
  | .word field => some (wordText s field)
  | .offset field => offset.map fun o => offsetFieldText s o field

end PatternItem

namespace Pattern

/-- The text of a pattern on a stamp with or without an offset. -/
def fill? (s : Stamp) (offset : Option Int) (p : Pattern) : Option (List Char) :=
  match p with
  | [] => some []
  | item :: rest => do
    let head ← item.fill? s offset
    let tail ← fill? s offset rest
    return head ++ tail

end Pattern

/-- The stamp written by a pattern, if the pattern has a reading and asks for no offset. -/
def Stamp.format? (s : Stamp) (pattern : String) : Option String := do
  let p ← Pattern.read? pattern.toList
  return String.ofList (← p.fill? s none)

/-- The offset stamp written by a pattern, if the pattern has a reading. -/
def OffsetStamp.format? (s : OffsetStamp) (pattern : String) : Option String := do
  let p ← Pattern.read? pattern.toList
  return String.ofList (← p.fill? s.stamp (some s.offset))

end SqlRender
