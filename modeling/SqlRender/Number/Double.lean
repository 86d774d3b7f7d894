/-!
# Double-precision numbers

A double is kept as its sixty-four bits, and every operation on it is exact arithmetic on the
natural numbers those bits stand for: a finite double is a significand times a power of two.
`Double.ofRatio` rounds an exact quotient to the nearest double, a half to the even neighbour.
-/

namespace SqlRender

/-- A double-precision number, as the bits that encode it. -/
structure Double where
  /-- Sign, eleven bits of exponent and fifty-two bits of fraction. -/
  bits : UInt64
deriving DecidableEq

/-- What the bits of a double stand for. -/
inductive Double.Meaning
  | nan
  | infinite (negative : Bool)
  /-- The number `significand * 2 ^ exponent`, with a sign also for zero. -/
  | finite (negative : Bool) (significand : Nat) (exponent : Int)
deriving DecidableEq

/-- The size of a binary format: digits of the significand and the range of its exponent. -/
structure BinaryFormat where
  precision : Nat
  leastExponent : Int
  greatestExponent : Int

/-- The format of a double. -/
def BinaryFormat.double : BinaryFormat := ⟨53, -1074, 971⟩

/-- The format of a single-precision number. -/
def BinaryFormat.single : BinaryFormat := ⟨24, -149, 104⟩

/-- The quotient of two numbers rounded to the nearest whole number, a half to the even one. -/
def roundHalfEven (num den : Nat) : Nat :=
  let quotient := num / den
  let twice := 2 * (num % den)
  if twice < den then quotient
  else if den < twice then quotient + 1
  else if quotient % 2 = 0 then quotient
  else quotient + 1

/-- The exponent of the greatest power of two that is at most a positive quotient. -/
def floorLog2 (num den : Nat) : Int :=
  let estimate : Int := (Nat.log2 num : Int) - Nat.log2 den
  let reached :=
    if 0 ≤ estimate then den * Nat.pow 2 estimate.toNat ≤ num
    else den ≤ num * Nat.pow 2 (-estimate).toNat
  if reached then estimate else estimate - 1

/-- The significand and exponent of a format nearest to a positive quotient, if it has one so
great. -/
def BinaryFormat.nearest (format : BinaryFormat) (num den : Nat) : Option (Nat × Int) :=
  let exponent := max (floorLog2 num den - format.precision + 1) format.leastExponent
  let significand :=
    if 0 ≤ exponent then roundHalfEven num (den * Nat.pow 2 exponent.toNat)
    else roundHalfEven (num * Nat.pow 2 (-exponent).toNat) den
  let (significand, exponent) :=
    if significand = Nat.pow 2 format.precision then
      (Nat.pow 2 (format.precision - 1), exponent + 1)
    else (significand, exponent)
  if format.greatestExponent < exponent then none else some (significand, exponent)

namespace Double

/-- The bits of a sign. -/
def signBit (negative : Bool) : UInt64 := if negative then 0x8000000000000000 else 0

/-- The quiet number that is no number. -/
def nan : Double := ⟨0x7FF8000000000000⟩

/-- Infinity with a sign. -/
def infinite (negative : Bool) : Double := ⟨signBit negative ||| 0x7FF0000000000000⟩

/-- The double `significand * 2 ^ exponent`, for a pair that the double format holds. -/
def ofParts (negative : Bool) (significand : Nat) (exponent : Int) : Double :=
  let magnitude :=
    if significand < Nat.pow 2 52 then significand
    else (exponent + 1075).toNat * Nat.pow 2 52 + (significand - Nat.pow 2 52)
  ⟨signBit negative ||| UInt64.ofNat magnitude⟩

/-- What a double stands for. -/
def meaning (x : Double) : Meaning :=
  let n := x.bits.toNat
  let negative := decide (Nat.pow 2 63 ≤ n)
  let exponent : Nat := n / Nat.pow 2 52 % Nat.pow 2 11
  let fraction : Nat := n % Nat.pow 2 52
  if exponent = 2047 then
    if fraction = 0 then .infinite negative else .nan
  else if exponent = 0 then .finite negative fraction (-1074)
  else .finite negative (Nat.pow 2 52 + fraction) ((exponent : Int) - 1075)

/-- Neither infinite nor the number that is no number. -/
def isFinite (x : Double) : Bool :=
  match x.meaning with
  | .finite .. => true
  | _ => false

/-- The double nearest to a quotient; one past the greatest double is infinite. -/
def ofRatio (negative : Bool) (num den : Nat) : Double :=
  if num = 0 then ofParts negative 0 0
  else
    match BinaryFormat.double.nearest num den with
    | some (significand, exponent) => ofParts negative significand exponent
    | none => infinite negative

/-- The double equal to the single-precision number nearest to a quotient. -/
def ofRatioThroughSingle (negative : Bool) (num den : Nat) : Double :=
  if num = 0 then ofParts negative 0 0
  else
    match BinaryFormat.single.nearest num den with
    | some (significand, exponent) =>
      if 0 ≤ exponent then ofRatio negative (significand * Nat.pow 2 exponent.toNat) 1
      else ofRatio negative significand (Nat.pow 2 (-exponent).toNat)
    | none => infinite negative

/-- The double nearest to a whole number. -/
def ofInt (n : Int) : Double := ofRatio (decide (n < 0)) n.natAbs 1

/-- The size of a finite double as an exact quotient; zero for the others. -/
def magnitude (x : Double) : Nat × Nat :=
  match x.meaning with
  | .finite _ significand exponent =>
    if 0 ≤ exponent then (significand * Nat.pow 2 exponent.toNat, 1)
    else (significand, Nat.pow 2 (-exponent).toNat)
  | _ => (0, 1)

end Double

end SqlRender
