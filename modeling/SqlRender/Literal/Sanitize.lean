import SqlRender.Text.Printable

/-!
# Sanitised text

A string literal between single quotes carries no control character other than tab, line feed
and carriage return, and none of the marks that start or end a comment. Removing one mark can
bring the halves of another together, so marks are removed until none is left.
-/

namespace SqlRender

/-- A character that a string literal may carry: no control, or one of the three that text
needs. -/
def isKept (c : Char) : Bool := !Text.isControl c || c == '\t' || c == '\n' || c == '\r'

/-- The text without control characters other than tab, line feed and carriage return. -/
def stripControls (s : List Char) : List Char := s.filter isKept

/-- The text without the occurrences of two characters in a row, found from the left and
without overlap. -/
def removePair (a b : Char) : List Char → List Char
  | [] => []
  | [c] => [c]
  | c :: d :: rest =>
    if c = a ∧ d = b then removePair a b rest else c :: removePair a b (d :: rest)

/-- Removing a pair never lengthens a text. -/
theorem length_removePair_le (a b : Char) (s : List Char) :
    (removePair a b s).length ≤ s.length := by
  fun_induction removePair a b s with
  | case1 => exact Nat.le_refl _
  | case2 c => exact Nat.le_refl _
  | case3 rest ih =>
    simp only [List.length_cons]
    omega
  | case4 c d rest hpair ih =>
    rw [List.length_cons, List.length_cons]
    exact Nat.succ_le_succ ih

/-- One pass over the comment marks: `--` first, then the two marks of a block. -/
def stripMarksOnce (s : List Char) : List Char :=
  removePair '*' '/' (removePair '/' '*' (removePair '-' '-' s))

/-- The text after passes over the comment marks until a pass removes nothing. -/
def stripComments (s : List Char) : List Char :=
  if (stripMarksOnce s).length < s.length then stripComments (stripMarksOnce s) else s
termination_by s.length

/-- The text as a literal between single quotes carries it. -/
def sanitized (s : List Char) : List Char := stripComments (stripControls s)

end SqlRender
