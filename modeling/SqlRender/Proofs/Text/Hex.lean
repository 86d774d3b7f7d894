import Mathlib.Tactic.Ring
import SqlRender.Text.Hex

/-!
# Numbers read back from their hexadecimal digits

A number in so many hexadecimal digits is read digit by digit as what is left of it in as many.
-/

namespace SqlRender.Text

/-- A hexadecimal digit is read as the number it was written for. -/
theorem hexValue?_lowerHexDigit : ∀ n < 16, hexValue? (lowerHexDigit n) = some n := by decide

/-- The most significant digit comes first. -/
theorem lowerHex_succ (count n : Nat) :
    lowerHex (count + 1) n = lowerHexDigit (n / Nat.pow 16 count % 16) :: lowerHex count n := by
  simp [lowerHex, List.range_succ]

/-- A number is written with just so many digits. -/
theorem length_lowerHex (count n : Nat) : (lowerHex count n).length = count := by
  simp [lowerHex]

/-- Digits are read behind a number as the number that follows it. -/
theorem foldlM_lowerHex (count n before : Nat) :
    (lowerHex count n).foldlM (fun n c => (hexValue? c).map (16 * n + ·)) before =
      some (before * 16 ^ count + n % 16 ^ count) := by
  induction count generalizing before with
  | zero => simp [lowerHex, Nat.mod_one]
  | succ count ih =>
    have hdigit := hexValue?_lowerHexDigit (n / 16 ^ count % 16) (Nat.mod_lt _ (by decide))
    -- The first digit counts the highest power, and what the others write is the remainder.
    have hvalue : (16 * before + n / 16 ^ count % 16) * 16 ^ count + n % 16 ^ count =
        before * 16 ^ (count + 1) + n % 16 ^ (count + 1) := by
      rw [Nat.pow_succ, Nat.mod_mul]
      ring
    rw [lowerHex_succ, List.foldlM_cons]
    change ((hexValue? (lowerHexDigit (n / 16 ^ count % 16))).map _).bind _ = _
    rw [hdigit, Option.map_some, Option.bind_some, ih, hvalue]

end SqlRender.Text
