import SqlRender.Query.Select

/-!
# Results

What an engine answers: named columns and rows of values, or the number of rows it changed. An
executor runs statements; reading a single value off its answer is how counts, sums and tests
for existence are used.
-/

namespace SqlRender

/-- The answer of an engine. -/
structure ResultSet where
  columns : List String
  rows : List (List Value)
  rowsAffected : Nat := 0
deriving DecidableEq

namespace ResultSet

/-- The answer to a statement that changes rows. -/
def affected (n : Nat) : ResultSet := ⟨[], [], n⟩

/-- The place of the first column with a name; ASCII letters are compared without case. -/
def columnIndex? (r : ResultSet) (name : String) : Option Nat :=
  r.columns.findIdx? fun column => column.toLower == name.toLower

/-- The value of a named column in the first row. -/
def scalar? (r : ResultSet) (name : String) : Option Value := do
  let index ← r.columnIndex? name
  let row ← r.rows.head?
  row[index]?

/-- The values of a named column in all rows that are long enough to have one. -/
def columnValues (r : ResultSet) (name : String) : List Value :=
  match r.columnIndex? name with
  | some index => r.rows.filterMap (·[index]?)
  | none => []

end ResultSet

/-- Something that runs statements of a dialect. -/
structure Executor where
  dialect : Dialect
  run : Statement → Except Error ResultSet

namespace Executor

/-- A query in the dialect of the executor. -/
def query (x : Executor) : Query := Query.ofDialect x.dialect

/-- Runs a statement and reads a named value off the first row of its answer. -/
def fetchScalar (x : Executor) (s : Statement) (name : String) : Except Error (Option Value) := do
  return (← x.run s).scalar? name

end Executor

end SqlRender
