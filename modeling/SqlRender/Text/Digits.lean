/-!
# Decimal digits

Reading the decimal digits at the head of a text, and writing a number with a fixed count of
digits. Only the ten ASCII digits count as digits.
-/

namespace SqlRender.Text

/-- The number a decimal digit stands for. -/
def digitValue (c : Char) : Nat := c.toNat - 0x30

/-- The digits at the head of a text, and what follows them. -/
def spanDigits (s : List Char) : List Char × List Char :=
  (s.takeWhile Char.isDigit, s.dropWhile Char.isDigit)

/-- At most `count` digits at the head of a text, and what follows them. -/
def spanDigitsUpTo : Nat → List Char → List Char × List Char
  | 0, s => ([], s)
  | _ + 1, [] => ([], [])
  | count + 1, c :: rest =>
    if c.isDigit then
      let (digits, after) := spanDigitsUpTo count rest
      (c :: digits, after)
    else ([], c :: rest)

/-- The number written by a list of decimal digits, most significant first. -/
def natOfDigits (digits : List Char) : Nat :=
  digits.foldl (fun n c => 10 * n + digitValue c) 0

/-- The decimal digits of a number. -/
def decimalDigits (n : Nat) : List Char := Nat.toDigits 10 n

/-- How many decimal digits a number has. -/
def digitCount (n : Nat) : Nat := (decimalDigits n).length

/-- The decimal digits of a number, with zeros before them up to `width` characters. -/
def zeroPadded (width n : Nat) : List Char :=
  let digits := decimalDigits n
  List.replicate (width - digits.length) '0' ++ digits

end SqlRender.Text
