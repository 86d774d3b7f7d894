import SqlRender.Json.Basic
import SqlRender.Number.Shortest
import SqlRender.Text.Hex

/-!
# Writing JSON

A document is written in ASCII on one line without blanks: every character that is not
printable ASCII is escaped as the units of its sixteen-bit encoding. JSON has no infinite
numbers; they are written as null.
-/

namespace SqlRender.Json

/-- The escape of one sixteen-bit unit. -/
def unitEscape (n : Nat) : List Char := '\\' :: 'u' :: Text.lowerHex 4 n

/-- How one character stands inside a string. -/
def escapedChar (c : Char) : List Char :=
  let n := c.toNat
  if c == '"' then ['\\', '"']
  else if c == '\\' then ['\\', '\\']
  else if 0x20 ≤ n && n ≤ 0x7E then [c]
  else if n < 0x10000 then unitEscape n
  else
    unitEscape (0xD800 + (n - 0x10000) / 0x400) ++ unitEscape (0xDC00 + (n - 0x10000) % 0x400)

/-- Writes a string at the end of a text. -/
def appendString (out : String) (s : String) : String :=
  (s.foldl (fun out c => (escapedChar c).foldl String.push out) (out.push '"')).push '"'

mutual

/-- Writes a document at the end of a text. -/
def append (out : String) : Json → String
  | null => out ++ "null"
  | bool b => out ++ (if b then "true" else "false")
  | int n => out ++ toString n
  | double x => out ++ (if x.isFinite then x.structureText else "null")
  | string s => appendString out s
  | array items => (appendItems (out.push '[') true items).push ']'
  | object fields => (appendFields (out.push '\x7b') true fields).push '\x7d'

/-- Writes the items of an array with commas between them. -/
def appendItems (out : String) (first : Bool) : List Json → String
  | [] => out
  | item :: rest =>
    appendItems (append (if first then out else out.push ',') item) false rest

/-- Writes the fields of an object with commas between them. -/
def appendFields (out : String) (first : Bool) : List (String × Json) → String
  | [] => out
  | (name, value) :: rest =>
    let out := appendString (if first then out else out.push ',') name
    appendFields (append (out.push ':') value) false rest

end

/-- The text of a document. -/
def render (j : Json) : String := append "" j

end SqlRender.Json
