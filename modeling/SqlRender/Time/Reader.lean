import SqlRender.Text.Blank
import SqlRender.Text.Digits
import SqlRender.Time.Stamp

/-!
# Reading timestamps

A date is year, month and day with hyphens, a clock is hour, minute and second with colons and
an optional fraction. Blanks may stand in front of every number and separator. The year has at
most four digits, or any number of digits after a sign.
-/

namespace SqlRender

/-- Reads one to `count` digits after blanks, and gives the number and what follows. -/
def readNumber? (count : Nat) (s : List Char) : Option (Nat × List Char) :=
  let (digits, rest) := Text.spanDigitsUpTo count (Text.trimStart s)
  if digits.isEmpty then none else some (Text.natOfDigits digits, rest)

/-- Reads the separator after blanks, and gives what follows. -/
def readMark? (mark : Char) (s : List Char) : Option (List Char) :=
  match Text.trimStart s with
  | c :: rest => if c == mark then some rest else none
  | [] => none

/-- Reads a year: four digits at most, or a sign and any number of digits. -/
def readYear? (s : List Char) : Option (Int × List Char) :=
  let signed (sign : Int) (rest : List Char) : Option (Int × List Char) :=
    let (digits, after) := Text.spanDigits rest
    if digits.isEmpty then none else some (sign * Text.natOfDigits digits, after)
  match Text.trimStart s with
  | '-' :: rest => signed (-1) rest
  | '+' :: rest => signed 1 rest
  | body => (readNumber? 4 body).map fun (n, rest) => ((n : Int), rest)

/-- The years a date may be read with. -/
def isReadableYear (year : Int) : Bool := -262143 ≤ year && year ≤ 262142

/-- The fields of a date as they are read: year, month, day. -/
def readDateFields? (s : List Char) : Option ((Int × Nat × Nat) × List Char) := do
  let (year, s) ← readYear? s
  let s ← readMark? '-' s
  let (month, s) ← readNumber? 2 s
  let s ← readMark? '-' s
  let (day, s) ← readNumber? 2 s
  return ((year, month, day), s)

/-- The date with fields as read, if the calendar has it and its year is in range. -/
def dateOfFields? (fields : Int × Nat × Nat) : Option Date :=
  if isReadableYear fields.1 then Date.of? fields.1 fields.2.1 fields.2.2 else none

/-- Reads a fraction of a second: a point and digits, of which nine count. -/
def readFraction? (s : List Char) : Option (Nat × List Char) :=
  match s with
  | '.' :: rest =>
    let (digits, after) := Text.spanDigitsUpTo 9 rest
    if digits.isEmpty then none
    else
      some (Text.natOfDigits digits * Nat.pow 10 (9 - digits.length), after.dropWhile Char.isDigit)
  | _ => some (0, s)

/-- Reads a clock, and the blanks after it. -/
def readClock? (s : List Char) : Option (Clock × List Char) := do
  let (hour, s) ← readNumber? 2 s
  let s ← readMark? ':' s
  let (minute, s) ← readNumber? 2 s
  let s ← readMark? ':' s
  let (second, s) ← readNumber? 2 s
  let (nanosecond, s) ← readFraction? s
  let clock ← Clock.of? hour minute second nanosecond
  return (clock, Text.trimStart s)

/-- Reads a whole text as a date. -/
def Date.ofText? (s : String) : Option Date := do
  let (fields, rest) ← readDateFields? s.toList
  let date ← dateOfFields? fields
  if (Text.trimStart rest).isEmpty then some date else none

/-- Reads a whole text as a date, `T` and a clock. -/
def Stamp.ofText? (s : String) : Option Stamp := do
  let (fields, rest) ← readDateFields? s.toList
  let rest ← readMark? 'T' rest
  let (clock, rest) ← readClock? rest
  let date ← dateOfFields? fields
  if rest.isEmpty then some ⟨date, clock⟩ else none

/-- Reads the hours and minutes of an offset, two digits each, with colons and blanks between
them as they please. -/
def readOffsetSize? (s : List Char) : Option (Nat × List Char) := do
  let (hours, s) := Text.spanDigitsUpTo 2 s
  let (minutes, s) := Text.spanDigitsUpTo 2 (s.dropWhile fun c => c == ':' || Text.isBlank c)
  if hours.length = 2 ∧ minutes.length = 2 ∧ Text.natOfDigits minutes < 60 then
    some (60 * Text.natOfDigits hours + Text.natOfDigits minutes, s)
  else none

/-- Reads an offset in seconds: `UTC` or `Z` in any case, or a sign, hours and minutes. -/
def readOffset? (s : List Char) : Option (Int × List Char) :=
  match s with
  | [] => none
  | c :: rest =>
    if (s.take 3).map Char.toLower == ['u', 't', 'c'] then some (0, s.drop 3)
    else if c == 'Z' || c == 'z' then some (0, rest)
    else if c == '+' then (readOffsetSize? rest).map fun (n, after) => (60 * (n : Int), after)
    else if c == '-' || c == '\u2212' then
      (readOffsetSize? rest).map fun (n, after) => (-60 * (n : Int), after)
    else none

/-- Reads a whole text as a date, `T`, `t` or a space, a clock and an offset. -/
def OffsetStamp.ofText? (s : String) : Option OffsetStamp := do
  let (fields, rest) ← readDateFields? s.toList
  match rest with
  | mark :: rest =>
    if mark == 'T' || mark == 't' || mark == ' ' then
      let (clock, rest) ← readClock? rest
      let (offset, rest) ← readOffset? rest
      let date ← dateOfFields? fields
      if h : offset.natAbs < 86400 then
        let stamp : OffsetStamp := ⟨⟨date, clock⟩, offset, h⟩
        if (Text.trimStart rest).isEmpty && isReadableYear stamp.universal.date.year then
          some stamp
        else none
      else none
    else none
  | [] => none

end SqlRender
