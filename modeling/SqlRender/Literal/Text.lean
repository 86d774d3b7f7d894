import SqlRender.Literal.DollarTag
import SqlRender.Literal.Sanitize
import SqlRender.Name

/-!
# String literals

The literal of a text in each of the three styles. Between single quotes the text is
sanitised and its quotes are doubled, where the style asks for it its backslashes too. Between
dollar tags only the null character, which no engine stores, is removed.
-/

namespace SqlRender

/-- The text as it stands between single quotes. -/
def StringStyle.body (style : StringStyle) (s : List Char) : List Char :=
  match style with
  | backslash => doubled '\'' (doubled '\\' (sanitized s))
  | _ => doubled '\'' (sanitized s)

/-- The text without null characters. -/
def dropNull (s : List Char) : List Char := s.filter fun c => c.toNat != 0

/-- The literal of a text under a profile; a tag is used where the style takes one. -/
def Profile.quoteText (p : Profile) (tag : String → String) (s : String) : String :=
  match p.strings with
  | .dollarTag =>
    let body := dropNull s.toList
    String.ofList (DollarTag.wrap (tag (String.ofList body)).toList body)
  | style => p.stringLead ++ String.ofList ('\'' :: style.body s.toList ++ ['\''])

end SqlRender
