import SqlRender.Number.DoubleReader
import SqlRender.Text.Hex
import SqlRender.Time.Stamp
import SqlRender.Toml.Basic

/-!
# TOML scalars

The values that are written as one word: truth values, whole numbers in four bases, floats,
and dates and times. Between two digits one underscore may stand.
-/

namespace SqlRender.Toml

/-- Whether a word is digits with at most one underscore between two of them. -/
def isDigits (isDigit : Char → Bool) : List Char → Bool
  | [] => false
  | [c] => isDigit c
  | c :: '_' :: rest => isDigit c && isDigits isDigit rest
  | c :: rest => isDigit c && isDigits isDigit rest

/-- The number written by digits of a base, underscores aside. -/
def natOfBase (base : Nat) (s : List Char) : Nat :=
  (s.filter (· != '_')).foldl (fun n c => base * n + (Text.hexValue? c).getD 0) 0

/-- Whether a decimal number starts with a zero it does not need. -/
def hasSpareZero (s : List Char) : Bool := s.head? == some '0' && s.length != 1

/-- A whole number. -/
def integerOfWord? (s : List Char) : Option Toml :=
  let inBase (base : Nat) (isDigit : Char → Bool) (digits : List Char) : Option Toml :=
    if isDigits isDigit digits then some (integer (natOfBase base digits)) else none
  match s with
  | '0' :: 'x' :: rest => inBase 16 (fun c => (Text.hexValue? c).isSome) rest
  | '0' :: 'o' :: rest => inBase 8 (fun c => '0' ≤ c && c ≤ '7') rest
  | '0' :: 'b' :: rest => inBase 2 (fun c => c == '0' || c == '1') rest
  | _ =>
    let (negative, digits) := splitSign s
    if isDigits Char.isDigit digits && !hasSpareZero digits then
      let n : Int := natOfBase 10 digits
      some (integer (if negative then -n else n))
    else none

/-- The parts of a float: whole digits, fraction digits if there is a point, and the signed
power of ten if there is a mark. -/
def floatParts (s : List Char) : List Char × Option (List Char) × Option (List Char) :=
  let isDigitLike (c : Char) : Bool := c.isDigit || c == '_'
  let isMark (c : Char) : Bool := c == 'e' || c == 'E'
  let whole := s.takeWhile isDigitLike
  let rest := s.dropWhile isDigitLike
  let (fraction, rest) := match rest with
    | '.' :: after => (some (after.takeWhile isDigitLike), after.dropWhile isDigitLike)
    | _ => (none, rest)
  match rest with
  | [] => (whole, fraction, none)
  | c :: power => (whole, fraction, some (if isMark c then power else []))

/-- A float that is neither infinite nor the number that is no number. -/
def finiteFloatOfWord? (s : List Char) : Option Toml :=
  let (_, body) := splitSign s
  let (whole, fraction, power) := floatParts body
  let powerDigits := power.map fun p => (splitSign p).2
  let isWritten := isDigits Char.isDigit whole && !hasSpareZero whole &&
    fraction.all (isDigits Char.isDigit) && powerDigits.all (isDigits Char.isDigit) &&
    (fraction.isSome || power.isSome)
  if isWritten then
    match Double.ofText? (String.ofList (s.filter (· != '_'))) with
    | some x => if x.isFinite then some (float x) else none
    | none => none
  else none

/-- A float. -/
def floatOfWord? (s : List Char) : Option Toml :=
  let (negative, body) := splitSign s
  if body == ['i', 'n', 'f'] then some (float (Double.infinite negative))
  else if body == ['n', 'a', 'n'] then some (float Double.nan)
  else finiteFloatOfWord? s

/-- The number of exactly `count` digits at the head of a text, and what follows. -/
def fixedNumber? (count : Nat) (s : List Char) : Option (Nat × List Char) :=
  let digits := s.take count
  if digits.length = count ∧ digits.all Char.isDigit then
    some (Text.natOfDigits digits, s.drop count)
  else none

/-- What follows a character at the head of a text. -/
def expectChar? (c : Char) : List Char → Option (List Char)
  | [] => none
  | x :: rest => if x = c then some rest else none

/-- What follows a date at the head of a text. -/
def skipDate? (s : List Char) : Option (List Char) := do
  let (year, s) ← fixedNumber? 4 s
  let s ← expectChar? '-' s
  let (month, s) ← fixedNumber? 2 s
  let s ← expectChar? '-' s
  let (day, s) ← fixedNumber? 2 s
  let _ ← Date.of? year month day
  return s

/-- What follows a fraction of a second at the head of a text, if there is one and it has a
digit. -/
def skipFraction? : List Char → Option (List Char)
  | '.' :: rest =>
    if (rest.takeWhile Char.isDigit).isEmpty then none else some (rest.dropWhile Char.isDigit)
  | s => some s

/-- What follows a time of day at the head of a text. The seconds may be missing, and then
there is no fraction of them. -/
def skipTime? (s : List Char) : Option (List Char) := do
  let (hour, s) ← fixedNumber? 2 s
  let s ← expectChar? ':' s
  let (minute, s) ← fixedNumber? 2 s
  match s with
  | ':' :: rest => do
    let (second, rest) ← fixedNumber? 2 rest
    let _ ← Clock.of? hour minute second 0
    skipFraction? rest
  | _ => do
    let _ ← Clock.of? hour minute 0 0
    return s

/-- Whether a text is an offset, or nothing. -/
def isOffset (s : List Char) : Bool :=
  match s with
  | [] => true
  | ['Z'] => true
  | ['z'] => true
  | sign :: rest =>
    let size := do
      let (hours, s) ← fixedNumber? 2 rest
      let s ← expectChar? ':' s
      let (minutes, s) ← fixedNumber? 2 s
      if hours < 24 ∧ minutes < 60 ∧ s.isEmpty then some () else none
    (sign == '+' || sign == '-') && size.isSome

/-- A date, a time of day, or both with or without an offset. -/
def momentOfWord? (s : List Char) : Option Toml :=
  let isMoment :=
    match skipDate? s with
    | some [] => true
    | some (mark :: rest) =>
      (mark == 'T' || mark == 't' || mark == ' ') && (skipTime? rest).any isOffset
    | none => (skipTime? s).any List.isEmpty
  if isMoment then some (moment (String.ofList s)) else none

/-- A value written as one word. -/
def ofWord? (s : List Char) : Option Toml :=
  if s == "true".toList then some (boolean true)
  else if s == "false".toList then some (boolean false)
  else ((integerOfWord? s).or (floatOfWord? s)).or (momentOfWord? s)

end SqlRender.Toml
