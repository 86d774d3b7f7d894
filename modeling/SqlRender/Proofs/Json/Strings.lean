import SqlRender.Json.Parser
import SqlRender.Json.Printer
import SqlRender.Proofs.Text.Hex

/-!
# Strings of a document read back

Every character of a string is read back from how it stands inside the string: as itself, behind a
backslash, or as the one or two units of its sixteen-bit encoding. So the string is read up to its
closing quote, whatever follows it.
-/

namespace SqlRender.Json

open Text

variable {rest : List Char} {n : Nat}

/-- A unit is read from its four digits. -/
theorem readUnit?_lowerHex (h : n < 16 ^ 4) :
    readUnit? (lowerHex 4 n ++ rest) = some (n, rest) := by
  have hlength := length_lowerHex 4 n
  have hfold := foldlM_lowerHex 4 n 0
  rw [Nat.zero_mul, Nat.zero_add, Nat.mod_eq_of_lt h] at hfold
  match hdigits : lowerHex 4 n with
  | [a, b, c, d] =>
    rw [hdigits] at hfold
    simp only [List.cons_append, List.nil_append, readUnit?]
    rw [hfold]
    rfl
  | [] | [_] | [_, _] | [_, _, _] | _ :: _ :: _ :: _ :: _ :: _ =>
    rw [hdigits] at hlength
    cases hlength

/-- No character has the number of half a pair, and none a number beyond those of pairs. -/
theorem toNat_valid (c : Char) :
    c.toNat < 0xD800 ∨ (0xDFFF < c.toNat ∧ c.toNat < 0x110000) := c.valid

/-- A character of one unit is read from it. -/
theorem readEscapedUnit?_unit {c : Char} (h : c.toNat < 0x10000) :
    readEscapedUnit? (lowerHex 4 c.toNat ++ rest) = some (c, rest) := by
  have hvalid := toNat_valid c
  have hhigh : ¬(0xD800 ≤ c.toNat ∧ c.toNat ≤ 0xDBFF) := by omega
  have hlow : ¬(0xDC00 ≤ c.toNat ∧ c.toNat ≤ 0xDFFF) := by omega
  rw [readEscapedUnit?, readUnit?_lowerHex h]
  simp only [Option.bind_eq_bind, Option.bind_some, if_neg hhigh, if_neg hlow, Char.ofNat_toNat]
  rfl

/-- Two halves of a pair are read as the character of the pair. -/
theorem readEscapedUnit?_halves {high low : Nat} (hhigh : 0xD800 ≤ high ∧ high ≤ 0xDBFF)
    (hlow : 0xDC00 ≤ low ∧ low ≤ 0xDFFF) :
    readEscapedUnit? (lowerHex 4 high ++ (unitEscape low ++ rest)) =
      some (Char.ofNat (0x10000 + (high - 0xD800) * 0x400 + (low - 0xDC00)), rest) := by
  have hfront : high < 16 ^ 4 := by omega
  have hback : low < 16 ^ 4 := by omega
  rw [readEscapedUnit?, readUnit?_lowerHex hfront, unitEscape]
  simp only [Option.bind_eq_bind, Option.bind_some, if_pos hhigh, List.cons_append]
  rw [readUnit?_lowerHex hback]
  simp only [Option.bind_some, if_pos hlow]
  rfl

/-- A character of two units is read from the pair. -/
theorem readEscapedUnit?_pair {c : Char} (h : ¬c.toNat < 0x10000) :
    readEscapedUnit? (lowerHex 4 (0xD800 + (c.toNat - 0x10000) / 0x400) ++
      (unitEscape (0xDC00 + (c.toNat - 0x10000) % 0x400) ++ rest)) = some (c, rest) := by
  have hvalid := toNat_valid c
  have hnumber : ∀ n, ¬n < 0x10000 → n < 0x110000 →
      0x10000 + (0xD800 + (n - 0x10000) / 0x400 - 0xD800) * 0x400 +
        (0xDC00 + (n - 0x10000) % 0x400 - 0xDC00) = n := by omega
  rw [readEscapedUnit?_halves (by omega) (by omega), hnumber c.toNat h (by omega),
    Char.ofNat_toNat]

/-- An escaped unit, or a pair of them, is read as its character. -/
theorem readString?_unit {done digits after : List Char} {c : Char}
    (h : readEscapedUnit? digits = some (c, after)) :
    readString? done ('\\' :: 'u' :: digits) = readString? (c :: done) after := by
  rw [readString?]
  have hslash : ('\\' == '"') = false := by decide
  have hcontrol : ¬ '\\'.toNat < 0x20 := by decide
  rw [hslash, if_neg Bool.false_ne_true, if_neg hcontrol, if_pos (by decide)]
  dsimp only
  split
  · next x y hx =>
    cases h.symm.trans hx
    rfl
  · next hx => cases h.symm.trans hx

/-- A character is read from how it stands inside a string. -/
theorem readString?_escapedChar (c : Char) (done rest : List Char) :
    readString? done (escapedChar c ++ rest) = readString? (c :: done) rest := by
  unfold escapedChar
  dsimp only
  split
  · next h =>
    rw [eq_of_beq h]
    simp [readString?, simpleEscape?]
  split
  · next h =>
    rw [eq_of_beq h]
    simp [readString?, simpleEscape?]
  split
  · next hquote hslash h =>
    have hcontrol : ¬c.toNat < 0x20 := by
      have hrange : 0x20 ≤ c.toNat ∧ c.toNat ≤ 0x7E := by simpa using h
      omega
    rw [List.singleton_append, readString?.eq_def]
    dsimp only
    rw [if_neg hquote, if_neg hcontrol, if_neg hslash]
  split
  · next h =>
    exact readString?_unit (readEscapedUnit?_unit h)
  · next h =>
    rw [List.append_assoc]
    exact readString?_unit (readEscapedUnit?_pair h)

/-- A string is read up to its closing quote, behind the characters that have been read. -/
theorem readString?_escaped (s done rest : List Char) :
    readString? done (s.flatMap escapedChar ++ '"' :: rest) =
      some (String.ofList (done.reverse ++ s), rest) := by
  induction s generalizing done with
  | nil =>
    rw [List.flatMap_nil, List.nil_append, List.append_nil, readString?.eq_def]
    rfl
  | cons c s ih =>
    rw [List.flatMap_cons, List.append_assoc, readString?_escapedChar, ih, List.reverse_cons,
      List.append_assoc, List.singleton_append]

end SqlRender.Json
