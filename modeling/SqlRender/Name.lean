import SqlRender.Profile.Basic

/-!
# Quoted names

A table or column name is quoted part by part, with a point between two parts. The closing
mark is doubled inside a part, so that a quoted part ends at the first mark that stands alone.
A part that is a lone asterisk stands for every column and stays bare.
-/

namespace SqlRender

/-- The mark that opens a quoted identifier. -/
def QuoteStyle.opening : QuoteStyle → Char
  | brackets => '['
  | graves => '\x60'
  | doubleQuotes => '"'

/-- The mark that closes a quoted identifier. -/
def QuoteStyle.closing : QuoteStyle → Char
  | brackets => ']'
  | graves => '\x60'
  | doubleQuotes => '"'

/-- The text with every occurrence of a mark written twice. -/
def doubled (mark : Char) (s : List Char) : List Char :=
  s.flatMap fun c => if c = mark then [c, c] else [c]

namespace QuoteStyle

/-- One part of a name between its marks; an asterisk stays bare. -/
def quotePart (style : QuoteStyle) (part : List Char) : List Char :=
  if part = ['*'] then part
  else style.opening :: doubled style.closing part ++ [style.closing]

/-- A name quoted part by part. -/
def quoteChars (style : QuoteStyle) (name : List Char) : List Char :=
  ['.'].intercalate ((name.splitOn '.').map style.quotePart)

/-- A name quoted part by part. -/
def quote (style : QuoteStyle) (name : String) : String :=
  String.ofList (style.quoteChars name.toList)

end QuoteStyle

end SqlRender
