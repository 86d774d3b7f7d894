import SqlRender.Number.Double
import SqlRender.Text.Digits

/-!
# Reading doubles

The text of a double is a sign, digits with an optional point, and an optional power of ten;
infinity and the number that is no number are words in any case. The text is read as an exact
decimal and rounded once. A JSON number is read more coarsely: the digits that fit sixty-four
bits are rounded first and then scaled by one rounded power of ten.
-/

namespace SqlRender

/-- A decimal number as it is written: `digits * 10 ^ place`, with a sign. -/
structure WrittenDecimal where
  negative : Bool
  digits : List Char
  place : Int

/-- Splits off one sign; no sign means positive. -/
def splitSign : List Char → Bool × List Char
  | '-' :: rest => (true, rest)
  | '+' :: rest => (false, rest)
  | s => (false, s)

/-- The power of ten that ends a number: nothing, or `e`, a sign and at least one digit. -/
def readPower : List Char → Option Int
  | [] => some 0
  | c :: rest =>
    if c == 'e' || c == 'E' then
      let (negative, digits) := splitSign rest
      if digits.isEmpty || !digits.all Char.isDigit then none
      else
        let n : Int := Text.natOfDigits digits
        some (if negative then -n else n)
    else none

/-- Reads digits with an optional point and an optional power of ten; the digits before and
after the point may not both be missing. -/
def WrittenDecimal.ofText? (s : List Char) : Option WrittenDecimal :=
  let (negative, body) := splitSign s
  let (whole, afterWhole) := Text.spanDigits body
  let (fraction, afterFraction) :=
    match afterWhole with
    | '.' :: rest => Text.spanDigits rest
    | _ => ([], afterWhole)
  if whole.isEmpty && fraction.isEmpty then none
  else
    (readPower afterFraction).map fun power =>
      ⟨negative, whole ++ fraction, power - fraction.length⟩

/-- Rounds a written decimal with the given rounding of quotients. Powers of ten far beyond
every double are cut to zero or to a power that is just too great. -/
def WrittenDecimal.round (d : WrittenDecimal) (ofRatio : Bool → Nat → Nat → Double) : Double :=
  let digits := d.digits.dropWhile (· == '0')
  let n := Text.natOfDigits digits
  let size := d.place + digits.length
  if n = 0 || size < -400 then ofRatio d.negative 0 1
  else if 400 < size then ofRatio d.negative (Nat.pow 10 400) 1
  else if 0 ≤ d.place then ofRatio d.negative (n * Nat.pow 10 d.place.toNat) 1
  else ofRatio d.negative n (Nat.pow 10 (-d.place).toNat)

namespace Double

/-- The words for infinity and for the number that is no number, in any case. -/
def ofWord? (s : List Char) : Option Double :=
  let (negative, body) := splitSign s
  match String.ofList (body.map Char.toLower) with
  | "inf" | "infinity" => some (infinite negative)
  | "nan" => some nan
  | _ => none

/-- Reads a double, rounded once from the exact decimal. -/
def ofText? (s : String) : Option Double :=
  let cs := s.toList
  (ofWord? cs).or ((WrittenDecimal.ofText? cs).map (·.round ofRatio))

/-- Reads a single-precision number, rounded once from the exact decimal, as the double equal
to it. -/
def ofSingleText? (s : String) : Option Double :=
  let cs := s.toList
  (ofWord? cs).or ((WrittenDecimal.ofText? cs).map (·.round ofRatioThroughSingle))

/-- The nearest double to a power of ten. -/
def tenTo (power : Nat) : Double := ofRatio false (Nat.pow 10 power) 1

/-- The rounded product of two doubles, with the sign of the first. -/
def times (x y : Double) (negative : Bool) : Double :=
  let (a, b) := x.magnitude
  let (c, d) := y.magnitude
  ofRatio negative (a * c) (b * d)

/-- The rounded quotient of two doubles, with the sign given. -/
def dividedBy (x y : Double) (negative : Bool) : Double :=
  let (a, b) := x.magnitude
  let (c, d) := y.magnitude
  ofRatio negative (a * d) (b * c)

/-- Scales a double down by a power of ten that may lie beyond the range of doubles: steps of
`10 ^ 308` first, then one division. -/
def scaleDown : Nat → Double → Nat → Bool → Double
  | 0, _, _, negative => ofRatio negative 0 1
  | fuel + 1, x, power, negative =>
    if power ≤ 308 then x.dividedBy (tenTo power) negative
    else scaleDown fuel (x.dividedBy (tenTo 308) false) (power - 308) negative

/-- The double for a JSON number whose first digits are `significand`, scaled by `10 ^ place`;
none when it is too great. -/
def ofScaled? (negative : Bool) (significand : Nat) (place : Int) : Option Double :=
  let x := ofRatio false significand 1
  if significand = 0 then some (ofRatio negative 0 1)
  else if 0 ≤ place then
    if 308 < place then none
    else
      let y := x.times (tenTo place.toNat) negative
      if y.isFinite then some y else none
  else some (scaleDown 4 x (-place).toNat negative)

end Double

end SqlRender
