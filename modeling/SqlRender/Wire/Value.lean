import SqlRender.Time.Reader
import SqlRender.Value
import SqlRender.Wire.Record

/-!
# Values on the wire

A value is the name of its kind with its content, and null is the name alone. A double is a
JSON number, or its text where a document has to carry the doubles that JSON does not have.
-/

namespace SqlRender

/-- How a double stands on the wire. -/
inductive DoubleForm
  | number
  | text
deriving DecidableEq

/-- A double as it stands on the wire. -/
def Double.toJson (form : DoubleForm) (x : Double) : Json :=
  match form with
  | .number => .double x
  | .text => .string x.text

/-- Reads a double; a whole number is one too. -/
def Double.ofJson? (form : DoubleForm) (j : Json) : Option Double :=
  match form, j with
  | .number, .double x => some x
  | .number, .int n => some (Double.ofInt n)
  | .text, .string s => Double.ofText? s
  | _, _ => none

/-- Reads a decimal from its text or from a number. -/
def Decimal.ofJson? : Json → Option Decimal
  | .string s => Decimal.ofText? s
  | .int n => Decimal.of? (decide (n < 0)) n.natAbs 0
  | .double x => Decimal.ofPlain? x.text.toList
  | _ => none

namespace Value

/-- A value as it stands on the wire. -/
def toJson (form : DoubleForm) : Value → Json
  | null => .string "Null"
  | bool b => .object [("Bool", .bool b)]
  | int n => .object [("Int", .int n.toInt)]
  | decimal d => .object [("Decimal", .string d.text)]
  | double x => .object [("Double", x.toJson form)]
  | string s => .object [("String", .string s)]
  | bytes bs => .object [("Bytes", .array (bs.map fun b => .ofNat b.toNat))]
  | uuid u => .object [("Uuid", .string u.text)]
  | dateTime t => .object [("DateTime", .string t.text)]
  | dateTimeOffset t => .object [("DateTimeOffset", .string t.wireText)]

/-- Reads the content of a value of a named kind. -/
def ofContent? (form : DoubleForm) (kind : String) (content : Json) : Option Value :=
  match kind, content with
  | "Null", .null => some null
  | "Bool", .bool b => some (bool b)
  | "Int", .int n => ofInt? n
  | "Decimal", j => (Decimal.ofJson? j).map decimal
  | "Double", j => (Double.ofJson? form j).map double
  | "String", .string s => some (string s)
  | "Bytes", j => (j.listOf? fun b => (b.natBelow? 256).map UInt8.ofNat).map bytes
  | "Uuid", .string s => (Uuid.ofText? s).map uuid
  | "DateTime", .string s => (Stamp.ofText? s).map dateTime
  | "DateTimeOffset", .string s => (OffsetStamp.ofText? s).map dateTimeOffset
  | _, _ => none

/-- Reads a value. -/
def ofJson? (form : DoubleForm) (j : Json) : Option Value :=
  match j.variant? with
  | some ("Null", none) => some null
  | some (kind, some content) => ofContent? form kind content
  | _ => none

end Value

end SqlRender
