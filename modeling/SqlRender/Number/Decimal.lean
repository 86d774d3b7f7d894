import SqlRender.Text.Digits
import SqlRender.Number.DoubleReader

/-!
# Fixed-point decimals

A decimal is a sign, a whole number of at most ninety-six bits, and a count of places after the
point, at most twenty-eight. The places are part of the value: `1.50` and `1.5` differ.
-/

namespace SqlRender

/-- The number `size / 10 ^ scale` or its negation, with exactly `scale` places after the
point. -/
structure Decimal where
  negative : Bool
  size : Nat
  scale : Nat
  size_lt : size < Nat.pow 2 96 := by decide
  scale_le : scale ≤ 28 := by decide
deriving DecidableEq

namespace Decimal

/-- The decimal with a sign, a size and a scale, if both fit; zero has no sign. -/
def of? (negative : Bool) (size scale : Nat) : Option Decimal :=
  if h : size < Nat.pow 2 96 ∧ scale ≤ 28 then some ⟨negative && size != 0, size, scale, h.1, h.2⟩
  else none

/-- The text of a decimal: its sign if it has one, and all its places. -/
def text (d : Decimal) : String :=
  let digits := Text.zeroPadded (d.scale + 1) d.size
  let whole := digits.take (digits.length - d.scale)
  let body := if d.scale = 0 then whole else whole ++ '.' :: digits.drop (digits.length - d.scale)
  String.ofList (if d.negative then '-' :: body else body)

/-- Where reading a decimal stands: the digits so far, the places so far once the point has
been met, and whether a digit has been met at all. -/
structure Progress where
  size : Nat := 0
  places : Option Nat := none
  started : Bool := false

/-- Whether a character is a digit or a separator. -/
def isDigitOrSeparator (c : Char) : Bool := c.isDigit || c == '_'

/-- Ends reading at a character that no longer fits, when it and all that follow are digits and
separators: a half rounds up, a separator counts as a zero, and a size that grows past its bits
gives up one place. -/
def Progress.round (p : Progress) (places : Nat) (c : Char) (rest : List Char) :
    Option (Nat × Nat) :=
  if !(c :: rest).all isDigitOrSeparator then none
  else if c == '_' || Text.digitValue c < 5 then some (p.size, places)
  else if p.size + 1 < Nat.pow 2 96 then some (p.size + 1, places)
  else if places = 0 then none
  else some ((p.size + 5) / 10, places - 1)

/-- Reads digits, a point and separators, and gives the size and the scale. Reading stops behind
the last place there may be, or at a digit that the size has no room for. -/
def Progress.run (p : Progress) : List Char → Option (Nat × Nat)
  | [] => if p.started then some (p.size, p.places.getD 0) else none
  | c :: rest =>
    if p.places.any (28 ≤ ·) then p.round 28 c rest
    else if c == '_' && p.started then Progress.run p rest
    else
      match p.places with
      | some places =>
        let size := 10 * p.size + Text.digitValue c
        if !c.isDigit then none
        else if size < Nat.pow 2 96 then Progress.run ⟨size, some (places + 1), true⟩ rest
        else p.round places c rest
      | none =>
        let size := 10 * p.size + Text.digitValue c
        if c.isDigit then
          if size < Nat.pow 2 96 then Progress.run ⟨size, none, true⟩ rest else none
        else if c == '.' then Progress.run ⟨p.size, some 0, p.started⟩ rest
        else none

/-- Reads a decimal without a power of ten. -/
def ofPlain? (s : List Char) : Option Decimal := do
  let (negative, body) := splitSign s
  let (size, scale) ← Progress.run {} body
  of? negative size scale

/-- A power of ten is written as digits, with an optional plus sign. -/
def readShift? (s : List Char) : Option Nat :=
  let digits := match s with
    | '+' :: rest => rest
    | _ => s
  if digits.isEmpty || !digits.all Char.isDigit then none
  else
    let n := Text.natOfDigits digits
    if n < UInt32.size then some n else none

/-- Moves the point of a decimal left by at most twenty-eight places. Places past the
twenty-eighth are given up, and a half of the last one rounds up; the sign stays. -/
def shiftDown? (d : Decimal) (places : Nat) : Option Decimal :=
  if 28 < places then none
  else if h : d.scale + places ≤ 28 then some { d with scale := d.scale + places, scale_le := h }
  else
    some { d with
      size := (d.size / Nat.pow 10 (d.scale + places - 29) + 5) / 10
      scale := 28
      size_lt := by
        have := d.size_lt
        have := Nat.div_le_self d.size (Nat.pow 10 (d.scale + places - 29))
        omega
      scale_le := by decide }

/-- Moves the point of a decimal right by some places, filling with zeros. -/
def shiftUp? (d : Decimal) (places : Nat) : Option Decimal :=
  if places ≤ d.scale then of? d.negative d.size (d.scale - places)
  else if 28 < places then none
  else of? d.negative (d.size * Nat.pow 10 (places - d.scale)) 0

/-- Reads a decimal with a power of ten after the first `e`. -/
def ofScientific? (s : List Char) : Option Decimal := do
  let isMark (c : Char) : Bool := c == 'e' || c == 'E'
  let d ← ofPlain? (s.takeWhile (!isMark ·))
  match s.dropWhile (!isMark ·) with
  | [] => none
  | _ :: '-' :: shift => d.shiftDown? (← readShift? shift)
  | _ :: shift => d.shiftUp? (← readShift? shift)

/-- Reads a decimal: digits with an optional point, or the same with a power of ten. -/
def ofText? (s : String) : Option Decimal :=
  let cs := s.toList
  (ofPlain? cs).or (ofScientific? cs)

end Decimal

end SqlRender
