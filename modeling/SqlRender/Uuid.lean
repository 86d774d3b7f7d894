import SqlRender.Text.Hex

/-!
# Universally unique identifiers

One hundred and twenty-eight bits, written as thirty-two hexadecimal digits in five groups.
-/

namespace SqlRender

/-- A universally unique identifier. -/
structure Uuid where
  bits : BitVec 128
deriving DecidableEq

namespace Uuid

/-- The lengths of the five groups of digits. -/
def groups : List Nat := [8, 4, 4, 4, 12]

/-- The digits cut into groups of the given lengths, with a hyphen between two groups. -/
def hyphenated : List Nat → List Char → List Char
  | [], _ => []
  | [n], digits => digits.take n
  | n :: rest, digits => digits.take n ++ '-' :: hyphenated rest (digits.drop n)

/-- The text of an identifier: lower case, with hyphens. -/
def text (u : Uuid) : String :=
  String.ofList (hyphenated groups (Text.lowerHex 32 u.bits.toNat))

/-- The number that exactly `count` hexadecimal digits write. -/
def readHex? (count : Nat) (digits : List Char) : Option Nat :=
  if digits.length = count then
    digits.foldlM (fun n c => (Text.hexValue? c).map (16 * n + ·)) 0
  else none

/-- The digits of a hyphenated text, if its hyphens stand where the groups end. -/
def joined? : List Nat → List Char → Option (List Char)
  | [], s => if s.isEmpty then some [] else none
  | [n], s => if s.length = n then some s else none
  | n :: rest, s =>
    match s.drop n with
    | '-' :: after => (joined? rest after).map (s.take n ++ ·)
    | _ => none

/-- Reads thirty-two digits, with hyphens in all four places or in none. -/
def ofDigits? (s : List Char) : Option Uuid :=
  let digits? := if s.length = 32 then some s else joined? groups s
  digits?.bind fun digits => (readHex? 32 digits).map fun n => ⟨BitVec.ofNat 128 n⟩

/-- Reads an identifier: bare, or the hyphenated form in braces or after `urn:uuid:` in any
case. -/
def ofText? (s : String) : Option Uuid :=
  let cs := s.toList
  let urn := "urn:uuid:".toList
  if cs.length = 38 && cs.head? == some '\x7b' && cs.getLast? == some '\x7d' then
    ofDigits? (cs.drop 1).dropLast
  else if cs.length = 45 && urn.isPrefixOf (cs.map Char.toLower) then ofDigits? (cs.drop urn.length)
  else ofDigits? cs

end Uuid

end SqlRender
