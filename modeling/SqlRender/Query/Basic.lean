import SqlRender.Paging
import SqlRender.Row
import SqlRender.Statement

/-!
# Queries

A query collects a table, columns, a filter, an ordering and a window, from which statements
are made. Filters given one after the other all have to hold.
-/

namespace SqlRender

/-- The direction of an ordering. -/
inductive Direction
  | asc
  | desc
deriving DecidableEq

/-- The keyword of a direction. -/
def Direction.keyword : Direction → String
  | asc => "ASC"
  | desc => "DESC"

/-- One key of an ordering. -/
structure Order where
  column : String
  direction : Direction := .asc
deriving DecidableEq

/-- What a statement is made from. -/
structure Query where
  dialect : Dialect
  mode : Mode
  table : Option String := none
  /-- The columns to select; none select all. -/
  columns : List String := []
  filter : Option Predicate := none
  orders : List Order := []
  offset : Option Nat := none
  limit : Option Nat := none

namespace Query

/-- The empty query of a dialect, in the mode of the dialect. -/
def ofDialect (d : Dialect) : Query := { dialect := d, mode := d.mode }

/-- Sets the table. -/
def from_ (q : Query) (table : String) : Query := { q with table := some table }

/-- Adds a filter in front of those that are there. -/
def addFilter (q : Query) (p : Predicate) : Query :=
  { q with filter := some (match q.filter with
    | some existing => existing.prepend .and p
    | none => p) }

/-- Adds keys behind those that are there. -/
def addOrders (q : Query) (orders : List Order) : Query := { q with orders := q.orders ++ orders }

/-- The name of the table as a piece of a statement, if the query has a table. -/
def tablePiece (q : Query) : Except Error Piece :=
  match q.table with
  | some table => .ok (.name table)
  | none => .error (.missingClause "from")

/-- The columns to select. -/
def projection (q : Query) : Fragment :=
  if q.columns.isEmpty then [.text "*"]
  else Fragment.joined ", " (q.columns.map fun column => [.name column])

/-- The filter with the keyword in front of it, or nothing when there is none or all of it is
dropped. -/
def filterDraft (q : Query) : Draft Fragment :=
  match q.filter with
  | none => pure []
  | some p => (p.draft q.dialect).bind fun fragment =>
      match fragment with
      | some f => pure (.text " WHERE " :: f)
      | none => pure []

/-- The ordering with the keyword in front of it, or nothing when there is none. -/
def orderFragment (q : Query) : Fragment :=
  if q.orders.isEmpty then []
  else
    .text " ORDER BY " :: Fragment.joined ", " (q.orders.map fun order =>
      [.name order.column, .text (" " ++ order.direction.keyword)])

/-- The statement of a rendered text, if the engine takes one so long. -/
def statement (q : Query) (params : List Parameter) (sql : String) : Except Error Statement := do
  q.dialect.checkLength sql
  return ⟨sql, params⟩

/-- Plays the draft of a statement, from its first number. -/
def play (q : Query) (draft : Draft Fragment) : Played String :=
  draft.play q.dialect q.mode 1 (Fragment.render q.dialect q.mode 1)

/-- The statement of a draft. -/
def finish (q : Query) (draft : Draft Fragment) : Played Statement :=
  let played := q.play draft
  { bound := played.bound
    written := played.written
    drops := played.drops
    outcome := played.outcome.bind (q.statement played.bound) }

end Query

end SqlRender
