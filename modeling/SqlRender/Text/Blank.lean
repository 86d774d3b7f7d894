/-!
# Blank characters

A blank is a character with the Unicode property `White_Space`. Names of database engines,
flags and type names are read with the blanks around them removed, and a type name is
compared word by word.
-/

namespace SqlRender.Text

/-- The twenty-five characters of the Unicode property `White_Space`. -/
def isBlank (c : Char) : Bool :=
  let n := c.toNat
  (0x09 ≤ n && n ≤ 0x0D) || n == 0x20 || n == 0x85 || n == 0xA0 || n == 0x1680 ||
    (0x2000 ≤ n && n ≤ 0x200A) || n == 0x2028 || n == 0x2029 || n == 0x202F ||
    n == 0x205F || n == 0x3000

/-- The text without its leading blanks. -/
def trimStart (s : List Char) : List Char := s.dropWhile isBlank

/-- The text without the blanks at either end. -/
def trim (s : List Char) : List Char := (trimStart (trimStart s).reverse).reverse

/-- The words of a text: its maximal runs without a blank, in order. -/
def words : List Char → List (List Char)
  | [] => []
  | c :: rest =>
    if isBlank c then words rest
    else
      match rest with
      | [] => [[c]]
      | next :: _ =>
        if isBlank next then [c] :: words rest
        else
          match words rest with
          | [] => [[c]]
          | word :: others => (c :: word) :: others

/-- The text without the blanks at either end. -/
def trimmed (s : String) : String := String.ofList (trim s.toList)

/-- A text is blank when it holds nothing but blanks. -/
def isBlankText (s : String) : Bool := s.toList.all isBlank

end SqlRender.Text
