import SqlRender.Number.Decimal
import SqlRender.Number.Shortest
import SqlRender.Text.Quoted
import SqlRender.Time.Stamp
import SqlRender.Uuid

/-!
# Values

The values that predicates compare with, rows carry and statements bind.
-/

namespace SqlRender

/-- A value of one of the kinds that every engine can take. -/
inductive Value
  | null
  | bool (b : Bool)
  | int (n : Int64)
  | decimal (d : Decimal)
  | double (x : Double)
  | string (s : String)
  | bytes (bs : List UInt8)
  | uuid (u : Uuid)
  | dateTime (t : Stamp)
  | dateTimeOffset (t : OffsetStamp)
deriving DecidableEq

namespace Value

/-- Whether a value is null. -/
def isNull : Value → Bool
  | null => true
  | _ => false

/-- Whether a value is a number. -/
def isNumeric : Value → Bool
  | int _ | decimal _ | double _ => true
  | _ => false

/-- Whether a value is written through a timestamp pattern. -/
def isTemporal : Value → Bool
  | dateTime _ | dateTimeOffset _ => true
  | _ => false

/-- The text of a string value. -/
def string? : Value → Option String
  | string s => some s
  | _ => none

/-- The word for a value's kind in messages. -/
def kind : Value → String
  | null => "null"
  | bool _ => "boolean"
  | int _ => "integer"
  | decimal _ => "decimal"
  | double _ => "double"
  | string _ => "string"
  | bytes _ => "bytes"
  | uuid _ => "uuid"
  | dateTime _ => "datetime"
  | dateTimeOffset _ => "datetimeoffset"

/-- The word for a truth value. -/
def boolText (b : Bool) : String := if b then "true" else "false"

/-- A value as a reader sees it, without quotes. -/
def text : Value → String
  | null => "NULL"
  | bool b => boolText b
  | int n => toString n.toInt
  | decimal d => d.text
  | double x => x.text
  | string s => s
  | bytes bs => String.ofList (Text.hexBytes bs)
  | uuid u => u.text
  | dateTime t => t.spacedText
  | dateTimeOffset t => t.text

/-- A value with its kind and structure, as messages about misplaced operands show it. -/
def structureText : Value → String
  | null => "Null"
  | bool b => "Bool(" ++ boolText b ++ ")"
  | int n => "Int(" ++ toString n.toInt ++ ")"
  | decimal d => "Decimal(" ++ d.text ++ ")"
  | double x => "Double(" ++ x.structureText ++ ")"
  | string s => "String(" ++ Text.quoted s ++ ")"
  | bytes bs =>
    "Bytes([" ++ String.intercalate ", " (bs.map fun b => toString b.toNat) ++ "])"
  | uuid u => "Uuid(" ++ u.text ++ ")"
  | dateTime t => "DateTime(" ++ t.text ++ ")"
  | dateTimeOffset t => "DateTimeOffset(" ++ t.exactText ++ ")"

/-- A whole number that fits a value. -/
def ofInt? (n : Int) : Option Value :=
  if Int64.minValue.toInt ≤ n ∧ n ≤ Int64.maxValue.toInt then some (int (Int64.ofInt n)) else none

end Value

end SqlRender
