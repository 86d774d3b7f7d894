import SqlRender.Dialect
import SqlRender.NativeType

/-!
# Table definitions

A table is created from its columns. A whole-number key becomes the column that the engine
counts up by itself; any other key is declared as one. A key must be of a type and a size that
the engine can index.
-/

namespace SqlRender.Dialect

/-- Refuses a key without a bound where its type needs one, and a key of more bytes than the
engine indexes. -/
def checkKeySize (d : Dialect) (key : Column) : Except Error Unit := do
  match d.engine.nativeType? key.type with
  | some (.lengthOrMax name limit) =>
    if key.maxLength.all (limit < ·) then
      throw (.unsupportedFeature d.engine (.unboundedKey name key.name))
  | _ => pure ()
  match d.profile.keyLimit, key.maxLength with
  | some limit, some length =>
    let perCharacter := match key.type with
      | .varchar => limit.varcharBytes
      | .nvarchar => limit.nvarcharBytes
      | _ => 0
    if limit.maxBytes < length * perCharacter then
      throw (.unsupportedFeature d.engine
        (.keyBytes key.name (length * perCharacter) limit.maxBytes))
  | _, _ => pure ()

/-- Refuses a key that the engine cannot index. -/
def checkKey (d : Dialect) (key : Column) : Except Error Unit :=
  if d.profile.keyTypes.contains key.type then d.checkKeySize key
  else .error (.unsupportedFeature d.engine (.keyType key.type key.name))

/-- Refuses more than one key, and a key that the engine cannot index. -/
def checkKeys (d : Dialect) (table : String) (columns : List Column) : Except Error Unit :=
  match columns.filter (·.primaryKey) with
  | [] => .ok ()
  | [key] => d.checkKey key
  | keys => .error (.malformed (.manyKeys table (keys.map (·.name))))

/-- What stands behind the name of a whole-number key. -/
def identityText (d : Dialect) (key : Column) : Except Error String :=
  match d.profile.identity with
  | .suffix words => do return (← d.engine.columnType key) ++ " " ++ words
  | .replaceType int long words => .ok ((if key.type = .long then long else int) ++ " " ++ words)

/-- What stands behind the name of a column. -/
def columnText (d : Dialect) (c : Column) : Except Error String :=
  if c.primaryKey then
    if c.type.isIntegral then d.identityText c
    else do return (← d.engine.columnType c) ++ " NOT NULL PRIMARY KEY"
  else do return (← d.engine.columnType c) ++ (if c.nullable then "" else " NOT NULL")

/-- The definition of a column. -/
def columnDefinition (d : Dialect) (c : Column) : Except Error String := do
  return d.quoteName c.name ++ " " ++ (← d.columnText c)

/-- The statement that creates a table. -/
def createTable (d : Dialect) (table : String) (columns : List Column) : Except Error String := do
  if columns.isEmpty then throw (.malformed (.noColumns table))
  columns.forM Column.validate
  d.checkKeys table columns
  let definitions ← columns.mapM d.columnDefinition
  let sql := "CREATE TABLE " ++ d.quoteName table ++ " (\n  " ++
    String.intercalate ",\n  " definitions ++ "\n)"
  d.checkLength sql
  return sql

/-- The statement that drops a table, and does nothing when there is none. -/
def dropTable (d : Dialect) (table : String) : String :=
  "DROP TABLE IF EXISTS " ++ d.quoteName table

end SqlRender.Dialect
