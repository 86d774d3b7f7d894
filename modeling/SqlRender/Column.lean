import SqlRender.Error

/-!
# Columns

A column has a name, a portable type and the length, precision and key flags that a table
definition needs. A column may be built in any state and is checked as a whole.
-/

namespace SqlRender

/-- A column of a table. -/
structure Column where
  name : String
  type : DataType
  primaryKey : Bool := false
  maxLength : Option Nat := none
  precision : Option Nat := none
  nullable : Bool := true
deriving DecidableEq

namespace Column

/-- Makes a column the primary key, which also rules out null. -/
def asPrimaryKey (c : Column) : Column := { c with primaryKey := true, nullable := false }

/-- Rules out null. -/
def notNull (c : Column) : Column := { c with nullable := false }

/-- The first thing that is wrong with a column. -/
def fault? (c : Column) : Option Malformed :=
  if Text.isBlankText c.name then some .blankColumnName
  else if c.primaryKey && c.nullable then some (.nullableKey c.name)
  else if c.maxLength = some 0 then some (.zeroLength c.name)
  else if c.precision = some 0 then some (.zeroPrecision c.name)
  else if c.type.requiresLength && c.maxLength.isNone then some (.missingLength c.name c.type)
  else if c.type.requiresPrecision && c.precision.isNone then
    some (.missingPrecision c.name c.type)
  else none

/-- Checks a column. -/
def validate (c : Column) : Except Error Unit :=
  match c.fault? with
  | some fault => .error (.malformed fault)
  | none => .ok ()

/-- The column itself, if nothing is wrong with it. -/
def checked (c : Column) : Except Error Column := do
  c.validate
  return c

end Column

end SqlRender
