import SqlRender.Number.Double
import SqlRender.Text.Digits

/-!
# The shortest decimal text of a double

A double is written with the fewest decimal digits that read back as the same double. The
reals that round to a double form an interval around it. For a growing count of digits the
two neighbours of the double on the decimal grid with that many digits are tried, and the
first grid with a neighbour inside the interval gives the digits; of two neighbours inside,
the nearer wins, and the upper one when both are equally near.
-/

namespace SqlRender.Double

/-- The exponent of the greatest power of ten that is at most a positive quotient. -/
def floorLog10 (num den : Nat) : Int :=
  if den ≤ num then (Text.digitCount (num / den) : Int) - 1
  else -(Text.digitCount ((den + num - 1) / num - 1) : Int)

/-- The interval of reals that round to a double, in units of a quarter of its last place. -/
structure Interval where
  low : Nat
  value : Nat
  high : Nat
  /-- Whether the ends themselves round to the double. -/
  closed : Bool

/-- The interval of the double `significand * 2 ^ exponent`: half a place to either side, and
only a quarter below a power of two. -/
def interval (significand : Nat) (exponent : Int) : Interval where
  low :=
    if significand = Nat.pow 2 52 ∧ exponent ≠ -1074 then 4 * significand - 1
    else 4 * significand - 2
  value := 4 * significand
  high := 4 * significand + 2
  closed := significand % 2 = 0

/-- The decimal of the grid `10 ^ place` nearest to the double among those inside its interval,
if there is one; `unit / den` is a quarter of the double's last place over `10 ^ place`. -/
def Interval.onGrid (i : Interval) (unit den : Nat) : Option Nat :=
  let below := i.value * unit / den
  let above := below + 1
  let belowInside := i.low * unit < below * den || (i.closed && i.low * unit == below * den)
  let aboveInside := above * den < i.high * unit || (i.closed && above * den == i.high * unit)
  let nearerBelow := 2 * (i.value * unit) < (below + above) * den
  if belowInside && (nearerBelow || !aboveInside) then some below
  else if aboveInside then some above
  else none

/-- The digits without their trailing zeros, which move into the power of ten. -/
def dropTrailingZeros : Nat → Nat → Int → Nat × Int
  | 0, digits, place => (digits, place)
  | fuel + 1, digits, place =>
    if digits % 10 = 0 then dropTrailingZeros fuel (digits / 10) (place + 1) else (digits, place)

/-- The shortest digits of a positive double, and the power of ten of the last of them. -/
def shortest (significand : Nat) (exponent : Int) : Nat × Int :=
  let i := interval significand exponent
  let twoUp := Nat.pow 2 (exponent - 2).toNat
  let twoDown := Nat.pow 2 (2 - exponent).toNat
  let top := floorLog10 (i.value * twoUp) twoDown
  let attempt (count : Nat) : Option (Nat × Int) :=
    let place := top - count
    (i.onGrid (twoUp * Nat.pow 10 (-place).toNat) (twoDown * Nat.pow 10 place.toNat)).map (·, place)
  let found := ((List.range 17).findSome? attempt).getD (0, 0)
  dropTrailingZeros 17 found.1 found.2

/-- Digits whose last one has the given power of ten, written without an exponent. -/
def positional (digits : Nat) (place : Int) : List Char :=
  let ds := Text.decimalDigits digits
  if 0 ≤ place then ds ++ List.replicate place.toNat '0'
  else
    let after := (-place).toNat
    if after < ds.length then ds.take (ds.length - after) ++ '.' :: ds.drop (ds.length - after)
    else '0' :: '.' :: List.replicate (after - ds.length) '0' ++ ds

/-- Digits whose last one has the given power of ten, written as one digit before the point
and a power of ten. -/
def scientific (digits : Nat) (place : Int) : List Char :=
  let ds := Text.decimalDigits digits
  let power := place + ds.length - 1
  let mantissa :=
    match ds with
    | [] => []
    | [d] => [d]
    | d :: rest => d :: '.' :: rest
  mantissa ++ 'e' :: (toString power).toList

/-- The text of a double: shortest digits, never an exponent, no point in a whole number. -/
def text (x : Double) : String :=
  match x.meaning with
  | .nan => "NaN"
  | .infinite negative => if negative then "-inf" else "inf"
  | .finite negative significand exponent =>
    let body :=
      if significand = 0 then ['0']
      else
        let (digits, place) := shortest significand exponent
        positional digits place
    String.ofList (if negative then '-' :: body else body)

/-- The text of a double inside a message that shows a value's structure: a whole number ends
in `.0`, and an exponent is written from `10 ^ 16` upwards and below `10 ^ -4`. -/
def structureText (x : Double) : String :=
  match x.meaning with
  | .nan => "NaN"
  | .infinite negative => if negative then "-inf" else "inf"
  | .finite negative significand exponent =>
    let body :=
      if significand = 0 then ['0', '.', '0']
      else
        let (digits, place) := shortest significand exponent
        let power := place + Text.digitCount digits - 1
        if power < -4 || 16 ≤ power then scientific digits place
        else if 0 ≤ place then positional digits place ++ ['.', '0']
        else positional digits place
    String.ofList (if negative then '-' :: body else body)

end SqlRender.Double
