/-!
# Hexadecimal text

Bytes and identifiers are written with two hexadecimal digits a byte, most significant first.
-/

namespace SqlRender.Text

/-- The digit for a number below sixteen, in upper case. -/
def upperHexDigit (n : Nat) : Char :=
  if n < 10 then Char.ofNat (0x30 + n) else Char.ofNat (0x37 + n)

/-- The digit for a number below sixteen, in lower case. -/
def lowerHexDigit (n : Nat) : Char :=
  if n < 10 then Char.ofNat (0x30 + n) else Char.ofNat (0x57 + n)

/-- The number a hexadecimal digit stands for, in either case. -/
def hexValue? (c : Char) : Option Nat :=
  let n := c.toNat
  if 0x30 ≤ n ∧ n ≤ 0x39 then some (n - 0x30)
  else if 0x41 ≤ n ∧ n ≤ 0x46 then some (n - 0x37)
  else if 0x61 ≤ n ∧ n ≤ 0x66 then some (n - 0x57)
  else none

/-- The lowest `count` hexadecimal digits of a number, in lower case, most significant first. -/
def lowerHex (count n : Nat) : List Char :=
  (List.range count).reverse.map fun place => lowerHexDigit (n / Nat.pow 16 place % 16)

/-- The hexadecimal digits of a number without leading zeros, in lower case. -/
def shortLowerHex (n : Nat) : List Char := Nat.toDigits 16 n

/-- Two upper-case digits a byte. -/
def hexBytes (bytes : List UInt8) : List Char :=
  bytes.flatMap fun b => [upperHexDigit (b.toNat / 16), upperHexDigit (b.toNat % 16)]

end SqlRender.Text
