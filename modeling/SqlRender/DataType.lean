/-!
# Portable column types

The types a column may have on every engine, and the forms in which an engine spells a type.
-/

namespace SqlRender

/-- A portable column type. -/
inductive DataType
  | int
  | long
  | decimal
  | double
  | dateTime
  | dateTimeOffset
  | varchar
  | nvarchar
  | blob
  | boolean
  | guid
deriving DecidableEq

namespace DataType

/-- Every portable type, in the order in which they are listed to a reader. -/
def all : List DataType :=
  [int, long, decimal, double, dateTime, dateTimeOffset, varchar, nvarchar, blob, boolean, guid]

/-- Every portable type is listed. -/
theorem mem_all (t : DataType) : t ∈ all := by cases t <;> decide

/-- The name of a type, on the wire and in messages. -/
def name : DataType → String
  | int => "Int"
  | long => "Long"
  | decimal => "Decimal"
  | double => "Double"
  | dateTime => "DateTime"
  | dateTimeOffset => "DateTimeOffset"
  | varchar => "Varchar"
  | nvarchar => "Nvarchar"
  | blob => "Blob"
  | boolean => "Boolean"
  | guid => "Guid"

/-- The type with a name; a boolean may also be called a tiny integer. -/
def ofName? (s : String) : Option DataType :=
  if s = "TinyInt" then some boolean else all.find? (·.name == s)

/-- A type that is not declared without a greatest length. -/
def requiresLength : DataType → Bool
  | decimal | double | varchar | nvarchar => true
  | _ => false

/-- A type that is not declared without a precision. -/
def requiresPrecision : DataType → Bool
  | decimal | double => true
  | _ => false

/-- A whole-number type, which an engine can count up by itself. -/
def isIntegral : DataType → Bool
  | int | long => true
  | _ => false

end DataType

/-- How a native type name takes its length and precision. -/
inductive TypeSyntax
  /-- The name alone. -/
  | plain (name : String)
  /-- The name with a length. -/
  | length (name : String)
  /-- The name with a length and a precision. -/
  | lengthPrecision (name : String)
  /-- The name with a length, or with `MAX` when the length is missing or past the limit. -/
  | lengthOrMax (name : String) (limit : Nat)
deriving DecidableEq

/-- The native name without its arguments. -/
def TypeSyntax.name : TypeSyntax → String
  | plain name => name
  | length name => name
  | lengthPrecision name => name
  | lengthOrMax name _ => name

end SqlRender
