import SqlRender.Profile.Basic

/-!
# Patterns that match a text only

The wildcards of a text are escaped, so that inside a pattern the text matches itself and
nothing else. A search for a text at the start, at the end or anywhere adds a wildcard of its
own at either side.
-/

namespace SqlRender.LikeStyle

/-- How one character of a text stands inside a pattern. -/
def escapeChar (style : LikeStyle) (c : Char) : List Char :=
  match style with
  | brackets => if c = '%' ∨ c = '_' ∨ c = '[' then ['[', c, ']'] else [c]
  | _ => if c = '%' ∨ c = '_' ∨ c = '\\' then ['\\', c] else [c]

/-- The text with its wildcards escaped. -/
def escapeChars (style : LikeStyle) (s : List Char) : List Char := s.flatMap style.escapeChar

/-- The text with its wildcards escaped. -/
def escape (style : LikeStyle) (s : String) : String :=
  String.ofList (style.escapeChars s.toList)

/-- The clause that names the escape character, where the engine needs one. -/
def clause : LikeStyle → String
  | backslashClause => " ESCAPE '\\'"
  | _ => ""

end SqlRender.LikeStyle
