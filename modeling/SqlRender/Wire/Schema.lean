import SqlRender.Column
import SqlRender.Query.Basic
import SqlRender.ResultSet
import SqlRender.Wire.Value

/-!
# Columns, orderings, statements and results on the wire
-/

namespace SqlRender

/-- Reads an engine by its own name. -/
def Engine.ofJson? (j : Json) : Option Engine :=
  j.unitVariant?.bind fun s => Engine.all.find? (·.name == s)

/-- Reads a portable type by its name. -/
def DataType.ofJson? (j : Json) : Option DataType := j.unitVariant?.bind DataType.ofName?

/-- The name of a mode. -/
def Mode.name : Mode → String
  | parameterized => "Parameterized"
  | inline => "Inline"

/-- The mode with a name. -/
def Mode.ofName? : String → Option Mode
  | "Parameterized" => some parameterized
  | "Inline" => some inline
  | _ => none

/-- Reads a mode by its name. -/
def Mode.ofJson? (j : Json) : Option Mode := j.unitVariant?.bind Mode.ofName?

/-- The name of a direction. -/
def Direction.name : Direction → String
  | asc => "Asc"
  | desc => "Desc"

/-- Reads a direction by its name. -/
def Direction.ofJson? (j : Json) : Option Direction :=
  match j.unitVariant? with
  | some "Asc" => some .asc
  | some "Desc" => some .desc
  | _ => none

/-- A column as it stands on the wire. -/
def Column.toJson (c : Column) : Json :=
  .object [("name", .string c.name), ("primary_key", .bool c.primaryKey),
    ("type", .string c.type.name), ("max_length", .ofOption .ofNat c.maxLength),
    ("precision", .ofOption .ofNat c.precision), ("nullable", .bool c.nullable)]

/-- Reads a column; a length or precision fits thirty-two bits. -/
def Column.ofJson? (j : Json) : Option Column := do
  let names := ["name", "primary_key", "type", "max_length", "precision", "nullable"]
  guard (j.isRecord names)
  return {
    name := ← (← j.member? names "name").string?
    primaryKey := ← Json.defaulted? Json.bool? false (j.member? names "primary_key")
    type := ← DataType.ofJson? (← j.member? names "type")
    maxLength := ← Json.optional? (Json.natBelow? UInt32.size) (j.member? names "max_length")
    precision := ← Json.optional? (Json.natBelow? UInt32.size) (j.member? names "precision")
    nullable := ← Json.defaulted? Json.bool? true (j.member? names "nullable") }

/-- A key of an ordering as it stands on the wire. -/
def Order.toJson (o : Order) : Json :=
  .object [("column", .string o.column), ("direction", .string o.direction.name)]

/-- Reads a key of an ordering. -/
def Order.ofJson? (j : Json) : Option Order := do
  let names := ["column", "direction"]
  guard (j.isRecord names)
  return {
    column := ← (← j.member? names "column").string?
    direction := ← Json.defaulted? Direction.ofJson? .asc (j.member? names "direction") }

/-- A parameter as it stands on the wire. -/
def Parameter.toJson (form : DoubleForm) (p : Parameter) : Json :=
  .object [("placeholder", .string p.placeholder), ("value", p.value.toJson form)]

/-- Reads a parameter. -/
def Parameter.ofJson? (form : DoubleForm) (j : Json) : Option Parameter := do
  let names := ["placeholder", "value"]
  guard (j.isRecord names)
  return {
    placeholder := ← (← j.member? names "placeholder").string?
    value := ← Value.ofJson? form (← j.member? names "value") }

/-- A statement as it stands on the wire. -/
def Statement.toJson (form : DoubleForm) (s : Statement) : Json :=
  .object [("sql", .string s.sql), ("params", .array (s.params.map (Parameter.toJson form)))]

/-- Reads a statement. -/
def Statement.ofJson? (form : DoubleForm) (j : Json) : Option Statement := do
  let names := ["sql", "params"]
  guard (j.isRecord names)
  return {
    sql := ← (← j.member? names "sql").string?
    params := ← Json.listOf? (Parameter.ofJson? form) (← j.member? names "params") }

/-- A result as it stands on the wire. -/
def ResultSet.toJson (form : DoubleForm) (r : ResultSet) : Json :=
  .object [("columns", .array (r.columns.map .string)),
    ("rows", .array (r.rows.map fun row => .array (row.map (Value.toJson form)))),
    ("rows_affected", .ofNat r.rowsAffected)]

/-- Reads a result; the number of changed rows fits sixty-four bits. -/
def ResultSet.ofJson? (form : DoubleForm) (j : Json) : Option ResultSet := do
  let names := ["columns", "rows", "rows_affected"]
  guard (j.isRecord names)
  return {
    columns := ← Json.listOf? Json.string? (← j.member? names "columns")
    rows := ← Json.listOf? (Json.listOf? (Value.ofJson? form)) (← j.member? names "rows")
    rowsAffected :=
      ← Json.defaulted? (Json.natBelow? UInt64.size) 0 (j.member? names "rows_affected") }

end SqlRender
