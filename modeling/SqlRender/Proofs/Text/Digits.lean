import Mathlib.Data.Nat.Digits.Defs
import SqlRender.Text.Blank
import SqlRender.Text.Digits

/-!
# Numbers read back from their digits

A number in decimal digits, with or without zeros in front, is read as the number. Digits are split
off a text up to the first character that is none, or up to a count of digits.
-/

namespace SqlRender.Text

variable {digits rest s : List Char} {c : Char} {width count n : Nat}

/-- A padded number has digits only. -/
theorem isDigit_of_mem_zeroPadded (h : c ∈ zeroPadded width n) : c.isDigit := by
  rw [zeroPadded, List.mem_append] at h
  rcases h with h | h
  · rw [List.eq_of_mem_replicate h]
    rfl
  · exact Nat.isDigit_of_mem_toDigits (by decide) (by decide) h

/-- A padded number has a digit. -/
theorem zeroPadded_ne_nil : zeroPadded width n ≠ [] :=
  List.append_ne_nil_of_right_ne_nil _ Nat.toDigits_ne_nil

/-- A padded number fills its width. -/
theorem le_length_zeroPadded : width ≤ (zeroPadded width n).length := by
  rw [zeroPadded, List.length_append, List.length_replicate]
  omega

/-- A number that fits its width is padded to just this width. -/
theorem length_zeroPadded (hwidth : 0 < width) (h : n < 10 ^ width) :
    (zeroPadded width n).length = width := by
  have hdigits : (decimalDigits n).length ≤ width :=
    (Nat.length_toDigits_le_iff (by decide) hwidth).mpr h
  rw [zeroPadded, List.length_append, List.length_replicate]
  omega

/-- The number that digits write behind another one. -/
def follow (n : Nat) (digits : List Char) : Nat :=
  digits.foldl (fun n c => 10 * n + digitValue c) n

/-- Digits behind others go on from the number of these. -/
theorem natOfDigits_append (front back : List Char) :
    natOfDigits (front ++ back) = follow (natOfDigits front) back :=
  List.foldl_append

/-- A number does not shrink under the digits behind it. -/
theorem le_follow (n : Nat) (digits : List Char) : n ≤ follow n digits := by
  induction digits generalizing n with
  | nil => exact Nat.le_refl n
  | cons c digits ih => exact le_trans (by omega) (ih (10 * n + digitValue c))

/-- A padded number is read as the number. -/
theorem natOfDigits_zeroPadded (width n : Nat) : natOfDigits (zeroPadded width n) = n := by
  have hzeros : ∀ zeros, natOfDigits (List.replicate zeros '0') = 0 := by
    intro zeros
    induction zeros with
    | zero => rfl
    | succ zeros ih => exact ih
  rw [zeroPadded, natOfDigits_append, hzeros]
  exact Nat.ofDigitChars_toDigits (by decide) (by decide)

/-- Nothing is dropped from a text that starts with no digit. -/
theorem dropWhile_isDigit_eq_self (h : ∀ c ∈ s.head?, c.isDigit = false) :
    s.dropWhile Char.isDigit = s := by
  cases s with
  | nil => rfl
  | cons c s => rw [List.dropWhile_cons_of_neg (by simp [h c rfl])]

/-- Digits are split off in front of what is no digit. -/
theorem spanDigits_digits_append (hdigits : ∀ c ∈ digits, c.isDigit)
    (hrest : ∀ c ∈ rest.head?, c.isDigit = false) :
    spanDigits (digits ++ rest) = (digits, rest) := by
  have hnone : rest.takeWhile Char.isDigit = [] := by
    cases rest with
    | nil => rfl
    | cons c rest => rw [List.takeWhile_cons_of_neg (by simp [hrest c rfl])]
  rw [spanDigits, List.takeWhile_append_of_pos hdigits, List.dropWhile_append_of_pos hdigits,
    hnone, dropWhile_isDigit_eq_self hrest, List.append_nil]

/-- As many digits as there may be are split off, whatever follows, and fewer in front of what is no
digit. -/
theorem spanDigitsUpTo_digits_append (hdigits : ∀ c ∈ digits, c.isDigit)
    (hcount : digits.length ≤ count)
    (hrest : digits.length = count ∨ ∀ c ∈ rest.head?, c.isDigit = false) :
    spanDigitsUpTo count (digits ++ rest) = (digits, rest) := by
  induction digits generalizing count with
  | nil =>
    cases count with
    | zero => rfl
    | succ count =>
      cases rest with
      | nil => rfl
      | cons c rest =>
        have hc : c.isDigit = false := hrest.resolve_left (by simp) c rfl
        simp [spanDigitsUpTo, hc]
  | cons c digits ih =>
    cases count with
    | zero => cases hcount
    | succ count =>
      have hbehind := ih (fun d hd => hdigits d (List.mem_cons_of_mem _ hd))
        (Nat.le_of_succ_le_succ hcount) (hrest.imp_left Nat.succ.inj)
      rw [List.cons_append, spanDigitsUpTo, if_pos (hdigits c List.mem_cons_self), hbehind]

/-- A digit is no blank. -/
theorem isBlank_of_isDigit (h : c.isDigit) : isBlank c = false := by
  simp only [Char.isDigit, Bool.and_eq_true, decide_eq_true_eq] at h
  have hlow : 48 ≤ c.toNat := UInt32.le_iff_toNat_le.mp h.1
  have hhigh : c.toNat ≤ 57 := UInt32.le_iff_toNat_le.mp h.2
  simp only [isBlank]
  grind

/-- A text that starts with no blank is not trimmed in front. -/
theorem trimStart_eq_self (h : ∀ c ∈ s.head?, isBlank c = false) : trimStart s = s := by
  cases s with
  | nil => rfl
  | cons c s => rw [trimStart, List.dropWhile_cons_of_neg (by simp [h c rfl])]

/-- Digits are not trimmed in front. -/
theorem trimStart_digits_append (hne : digits ≠ []) (hdigits : ∀ c ∈ digits, c.isDigit) :
    trimStart (digits ++ rest) = digits ++ rest := by
  cases digits with
  | nil => exact absurd rfl hne
  | cons c digits =>
    refine trimStart_eq_self fun d hd => ?_
    cases hd
    exact isBlank_of_isDigit (hdigits c List.mem_cons_self)

end SqlRender.Text
