import SqlRender.Text.Digits

/-!
# Strings between dollar tags

A text stands unchanged between two equal delimiters `$qTAG$`. The tag is one whose delimiter
does not occur in the text, so that the first delimiter after the opening one closes the
literal.
-/

namespace SqlRender.DollarTag

/-- The delimiter with a tag. -/
def delimiter (tag : List Char) : List Char := ['$', 'q'] ++ tag ++ ['$']

/-- The text between two delimiters with a tag. -/
def wrap (tag s : List Char) : List Char := delimiter tag ++ s ++ delimiter tag

/-- Whether a text occurs in another one, in one piece. -/
def occursIn (needle : List Char) : List Char → Bool
  | [] => needle.isEmpty
  | c :: rest => needle.isPrefixOf (c :: rest) || occursIn needle rest

/-- A tag may be used around a text when its delimiter does not occur in the text. -/
def accepts (tag s : List Char) : Bool := !occursIn (delimiter tag) s

/-- The tag of a number: six digits to the base of thirty-six letters and digits. -/
def tagOf (n : Nat) : List Char :=
  (List.range 6).reverse.map fun place =>
    let digit := n / Nat.pow 36 place % 36
    if digit < 10 then Char.ofNat (0x30 + digit) else Char.ofNat (0x57 + digit)

/-- The first acceptable tag among those numbered from `n`, looking at no more than `fuel`. -/
def search (s : List Char) : Nat → Nat → List Char
  | 0, n => tagOf n
  | fuel + 1, n => if accepts (tagOf n) s then tagOf n else search s fuel (n + 1)

/-- A tag for a text among those numbered from `first`: a text of so many characters holds fewer
delimiters than that, and among one more tags there is one that it does not hold. -/
def choose (first : Nat) (s : String) : String :=
  String.ofList (search s.toList s.length first)

end SqlRender.DollarTag
