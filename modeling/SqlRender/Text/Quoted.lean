import SqlRender.Text.Hex
import SqlRender.Text.Printable

/-!
# Quoted text in messages

A message shows a text between double quotes, with the quote, the backslash and every
character without a glyph of its own written as an escape, so that the text stays on one line.
-/

namespace SqlRender.Text

/-- How one character stands inside a quoted text. -/
def quotedChar (c : Char) : List Char :=
  if c == '"' then ['\\', '"']
  else if c == '\\' then ['\\', '\\']
  else if c == '\n' then ['\\', 'n']
  else if c == '\r' then ['\\', 'r']
  else if c == '\t' then ['\\', 't']
  else if c.toNat == 0 then ['\\', '0']
  else if isPrintable c then [c]
  else ['\\', 'u', '\x7b'] ++ shortLowerHex c.toNat ++ ['\x7d']

/-- The text between double quotes, with its escapes. -/
def quoted (s : String) : String :=
  String.ofList ('"' :: s.toList.flatMap quotedChar ++ ['"'])

end SqlRender.Text
