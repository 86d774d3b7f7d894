import SqlRender.Config.Basic
import SqlRender.Like
import SqlRender.Literal.Text
import SqlRender.Profile.Engines

/-!
# Dialects

A dialect is an engine's profile together with the settings that a configuration may change.
It quotes names, numbers placeholders and writes values as literals. The literals of a statement
are numbered as its placeholders are, and each one draws a tag of its own.
-/

namespace SqlRender

/-- An engine with its resolved settings. -/
structure Dialect where
  engine : Engine
  timestampFormat : String
  timestampOffsetFormat : String
  maxStatementLength : Nat
  /-- Whether values are bound unless a statement says otherwise. -/
  parameterized : Bool
  /-- Whether a malformed leaf is an error rather than left out. -/
  strictPredicates : Bool
  /-- The tag that the literal of a number draws for its text, on an engine whose literals have
  one. -/
  tag : Nat → String → String

namespace Dialect

/-- The dialect of an engine with the engine's own settings. -/
def ofEngine (e : Engine) : Dialect where
  engine := e
  timestampFormat := e.profile.timestampFormat
  timestampOffsetFormat := e.profile.timestampOffsetFormat
  maxStatementLength := e.profile.maxStatementLength
  parameterized := true
  strictPredicates := false
  tag := DollarTag.choose

/-- The dialect of an engine under a configuration, if the configuration is sound. -/
def ofConfig (e : Engine) (c : Config) : Except Error Dialect := do
  c.validate
  let base := ofEngine e
  let overrides := (c.section? e).getD {}
  return { base with
    parameterized := c.parameterized
    strictPredicates := c.strictPredicates
    timestampFormat := overrides.timestampFormat.getD base.timestampFormat
    timestampOffsetFormat := overrides.timestampOffsetFormat.getD base.timestampOffsetFormat
    maxStatementLength := overrides.maxStatementLength.getD base.maxStatementLength }

/-- The profile of the dialect's engine. -/
def profile (d : Dialect) : Profile := d.engine.profile

/-- A table or column name between the marks of the engine. -/
def quoteName (d : Dialect) (name : String) : String := d.profile.quote.quote name

/-- A text as the literal of a number. -/
def quoteText (d : Dialect) (n : Nat) (s : String) : String := d.profile.quoteText (d.tag n) s

/-- The placeholder with a number. -/
def placeholder (d : Dialect) (n : Nat) : String :=
  match d.profile.placeholder with
  | .atNumbered => "@p" ++ toString n
  | .question => "?"
  | .dollarNumbered => "$" ++ toString n
  | .questionNumbered => "?" ++ toString n

/-- Bytes as a literal. -/
def bytesLiteral (d : Dialect) (bs : List UInt8) : String :=
  let hex := String.ofList (Text.hexBytes bs)
  match d.profile.bytes with
  | .zeroX => "0x" ++ hex
  | .quotedX => "X'" ++ hex ++ "'"
  | .hexDecode => "decode('" ++ hex ++ "', 'hex')"

/-- A timestamp written by a pattern as a literal, if the pattern can write it. -/
def stampLiteral (d : Dialect) (n : Nat) (pattern : String) (written : Option String) :
    Except Error String :=
  match written with
  | some s => .ok (d.quoteText n s)
  | none => .error (.unrenderable (.timestampPattern pattern))

/-- A value as the literal of a number; an infinite double has none. -/
def literal (d : Dialect) (n : Nat) : Value → Except Error String
  | .null => .ok "NULL"
  | .bool b => .ok (if b then d.profile.trueLiteral else d.profile.falseLiteral)
  | .int i => .ok (toString i.toInt)
  | .decimal x => .ok x.text
  | .double x => if x.isFinite then .ok x.text else .error (.unrenderable (.nonFinite x))
  | .string s => .ok (d.quoteText n s)
  | .uuid u => .ok (d.quoteText n u.text)
  | .bytes bs => .ok (d.bytesLiteral bs)
  | .dateTime t => d.stampLiteral n d.timestampFormat (t.format? d.timestampFormat)
  | .dateTimeOffset t =>
    d.stampLiteral n d.timestampOffsetFormat (t.format? d.timestampOffsetFormat)

/-- Refuses a statement with more bytes than the engine takes. -/
def checkLength (d : Dialect) (sql : String) : Except Error Unit :=
  if d.maxStatementLength < sql.utf8ByteSize then
    .error (.statementTooLong d.engine sql.utf8ByteSize d.maxStatementLength)
  else .ok ()

end Dialect

end SqlRender
