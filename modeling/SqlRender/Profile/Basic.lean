import SqlRender.DataType

/-!
# Engine profiles

A profile holds as data everything in which engines differ: quoting, escaping, placeholders,
paging, type names, identity columns and limits. One algorithm renders for all engines and
looks up the profile wherever they disagree.
-/

namespace SqlRender

/-- The marks around a quoted identifier; the closing mark is doubled inside. -/
inductive QuoteStyle
  | brackets
  | graves
  | doubleQuotes
deriving DecidableEq

/-- The form of a string literal. -/
inductive StringStyle
  /-- Controls and comment marks are removed and the quote is doubled. -/
  | standard
  /-- As `standard`, and the backslash is doubled. -/
  | backslash
  /-- The text stands unchanged between two equal tags. -/
  | dollarTag
deriving DecidableEq

/-- The way a wildcard is escaped inside a pattern. -/
inductive LikeStyle
  /-- The wildcard stands alone in brackets. -/
  | brackets
  /-- A backslash stands before the wildcard, as the engine expects by itself. -/
  | backslash
  /-- A backslash stands before the wildcard and a clause after the pattern says so. -/
  | backslashClause
deriving DecidableEq

/-- The form of a placeholder. -/
inductive PlaceholderStyle
  | atNumbered
  | question
  | dollarNumbered
  | questionNumbered
deriving DecidableEq

/-- The grammar of a window of rows. -/
inductive PagingStyle
  /-- `OFFSET n ROWS FETCH NEXT m ROWS ONLY` behind an ordering, `TOP (m)` without one. -/
  | offsetFetch
  /-- `LIMIT n,m` -/
  | limitComma
  /-- `OFFSET n LIMIT m` -/
  | offsetLimit
  /-- `LIMIT m OFFSET n` -/
  | limitOffset
deriving DecidableEq

/-- The way many rows are inserted at once. -/
inductive MultiInsert
  /-- One list of tuples, cut where the engine caps its length. -/
  | valuesList (maxRows : Option Nat)
  /-- One insert a row, inside a transaction. -/
  | transaction
deriving DecidableEq

/-- The form of a literal of bytes. -/
inductive BytesStyle
  | zeroX
  | quotedX
  | hexDecode
deriving DecidableEq

/-- The declaration of a column that the engine counts up by itself. -/
inductive IdentityStyle
  /-- The native type and a suffix. -/
  | suffix (words : String)
  /-- A type of its own in place of the native one, and a suffix. -/
  | replaceType (int long words : String)
deriving DecidableEq

/-- The form of a query for existence. -/
inductive ExistsStyle
  | caseWhen
  | bare
deriving DecidableEq

/-- The greatest size of a key column, with the bytes a character of a text type takes. -/
structure KeyLimit where
  maxBytes : Nat
  varcharBytes : Nat
  nvarcharBytes : Nat
deriving DecidableEq

/-- Everything in which one engine differs from another. -/
structure Profile where
  quote : QuoteStyle
  strings : StringStyle
  /-- What stands in front of a string literal. -/
  stringLead : String
  like : LikeStyle
  placeholder : PlaceholderStyle
  paging : PagingStyle
  multiInsert : MultiInsert
  beginTransaction : String
  commitTransaction : String
  trueLiteral : String
  falseLiteral : String
  bytes : BytesStyle
  /-- The native spelling of each portable type the engine has. -/
  types : List (DataType × TypeSyntax)
  /-- Further native names, for reading a catalog. -/
  aliases : List (String × DataType)
  keyTypes : List DataType
  keyLimit : Option KeyLimit
  identity : IdentityStyle
  existence : ExistsStyle
  truncate : String
  maxStatementLength : Nat
  /-- The bound parameters accepted in one request. -/
  maxParameters : Option Nat
  timestampFormat : String
  timestampOffsetFormat : String

end SqlRender
