import SqlRender.Proofs.Text.Hex
import SqlRender.Uuid

/-!
# Identifiers read back from their texts

The text of an identifier is read as the identifier: its hyphens stand where the groups end, and its
digits write its bits.
-/

namespace SqlRender

namespace Uuid

open Text

variable {n : Nat} {rest : List Nat} {digits : List Char}

/-- The digits of a number are read as the number. -/
theorem readHex?_lowerHex {count : Nat} (h : n < 16 ^ count) :
    readHex? count (lowerHex count n) = some n := by
  rw [readHex?, if_pos (length_lowerHex count n), foldlM_lowerHex, Nat.zero_mul, Nat.zero_add,
    Nat.mod_eq_of_lt h]

/-- The digits behind the first group fill the other groups. -/
theorem length_drop_group (h : digits.length = (n :: rest).sum) :
    (digits.drop n).length = rest.sum := by
  rw [List.length_drop, h, List.sum_cons, Nat.add_sub_cancel_left]

/-- A hyphenated text has one hyphen less than groups. -/
theorem length_hyphenated (h : digits.length = (n :: rest).sum) :
    (hyphenated (n :: rest) digits).length = digits.length + rest.length := by
  induction rest generalizing n digits with
  | nil => simp_all [hyphenated]
  | cons m rest ih =>
    have hrest := length_drop_group h
    rw [List.sum_cons] at h
    rw [hyphenated, List.length_append, List.length_take, List.length_cons, ih hrest, hrest]
    · simp only [List.length_cons]
      omega
    · nofun

/-- The digits of a hyphenated text are those that were put into groups. -/
theorem joined?_hyphenated (h : digits.length = (n :: rest).sum) :
    joined? (n :: rest) (hyphenated (n :: rest) digits) = some digits := by
  induction rest generalizing n digits with
  | nil =>
    have hlength : digits.length = n := by simpa using h
    rw [hyphenated, joined?, List.take_of_length_le hlength.le, if_pos hlength]
  | cons m rest ih =>
    have hrest := length_drop_group h
    have hfirst : (digits.take n).length = n := by
      rw [List.length_take, h, List.sum_cons]
      omega
    rw [hyphenated, joined?, List.drop_left' hfirst, List.take_left' hfirst]
    · simp only [ih hrest, Option.map_some, List.take_append_drop]
    · nofun
    · nofun

/-- The text of an identifier is read as the identifier. -/
theorem ofText?_text (u : Uuid) : ofText? u.text = some u := by
  have hdigits : (lowerHex 32 u.bits.toNat).length = groups.sum := length_lowerHex 32 _
  have hlength : (hyphenated groups (lowerHex 32 u.bits.toNat)).length = 36 :=
    (length_hyphenated hdigits).trans (by rw [hdigits]; rfl)
  have hbits : u.bits.toNat < 16 ^ 32 := u.bits.isLt
  have hjoined : joined? groups (hyphenated groups (lowerHex 32 u.bits.toNat)) =
      some (lowerHex 32 u.bits.toNat) := joined?_hyphenated hdigits
  rw [ofText?, text, String.toList_ofList]
  simp only [hlength, Nat.reduceEqDiff, decide_false, Bool.false_and, Bool.false_eq_true, if_false]
  rw [ofDigits?, if_neg (by rw [hlength]; decide), hjoined]
  simp [readHex?_lowerHex hbits]

end Uuid

end SqlRender
