import SqlRender.Query.Basic

/-!
# Inserting rows

One row is inserted by one statement. Many rows share one statement as far as the engine lets
them: as tuples of one insert, cut into several inserts where a list of tuples is capped, or
as one insert a row, and more than one insert stands inside a transaction. Rows that bind more
values than a request may carry are split into batches, each a statement of its own.
-/

namespace SqlRender

/-- A list cut into pieces of `size + 1` elements, the last one perhaps shorter. -/
def chunks {α : Type} (size : Nat) : List α → List (List α)
  | [] => []
  | x :: rest => (x :: rest.take size) :: chunks size (rest.drop size)
termination_by xs => xs.length
decreasing_by simp only [List.length_cons, List.length_drop]; omega

namespace Query

/-- The names of the columns of a row, as an insert lists them. -/
def columnList (row : Row) : Fragment :=
  Fragment.joined ", " (row.names.map fun name => [.name name])

/-- The values of a row as a tuple. -/
def tuple (row : Row) : Fragment :=
  .text "(" :: Fragment.joined ", " (row.values.map Fragment.ofValue) ++ [.text ")"]

/-- One insert of some rows into a table. -/
def insertFragment (table : Piece) (columns : Fragment) (rows : List Row) : Fragment :=
  .text "INSERT INTO " :: table :: .text " (" :: columns ++ .text ") VALUES " ::
    Fragment.joined ", " (rows.map tuple)

/-- Inserts inside a transaction. -/
def inTransaction (p : Profile) (inserts : List Fragment) : Fragment :=
  .text (p.beginTransaction ++ " ") :: Fragment.joined "; " inserts ++
    [.text ("; " ++ p.commitTransaction)]

/-- The rows an insert or a batch may hold: the given cap, cut so that the values of so many
columns are no more than a request may bind; at least one. -/
def rowCap (q : Query) (cap columns : Nat) : Nat :=
  match q.mode, q.dialect.profile.maxParameters with
  | .parameterized, some limit => max 1 (min (max 1 cap) (limit / max 1 columns))
  | _, _ => max 1 cap

/-- Rows cut into pieces of at most `cap` rows, where `cap` is at least one. -/
def cut (cap : Nat) (rows : List Row) : List (List Row) := chunks (cap - 1) rows

/-- Inserting one row. -/
def insertDraft (q : Query) (row : Row) : Draft Fragment :=
  match q.tablePiece with
  | .error e => .fail e
  | .ok table =>
    if row.cells.isEmpty then .fail (.malformed (.noData "INSERT"))
    else Draft.ofFragment (insertFragment table (columnList row) [row])

/-- The inserts that many rows take. -/
def inserts (q : Query) (table : Piece) (reference : Row) (rows : List Row) : List Fragment :=
  let columns := columnList reference
  match q.dialect.profile.multiInsert with
  | .valuesList cap =>
    (cut (q.rowCap (cap.getD rows.length) reference.cells.length) rows).map
      (insertFragment table columns)
  | .transaction => rows.map fun row => insertFragment table columns [row]

/-- The inserts of one statement: alone when there is one and the engine takes lists of tuples,
and inside a transaction otherwise. -/
def insertsFragment (p : Profile) (inserts : List Fragment) : Fragment :=
  match p.multiInsert, inserts with
  | .valuesList _, [only] => only
  | _, _ => inTransaction p inserts

/-- Inserting many rows. -/
def insertManyDraft (q : Query) (rows : List Row) : Draft Fragment :=
  match q.tablePiece with
  | .error e => .fail e
  | .ok table =>
    match Row.reference rows with
    | .error e => .fail e
    | .ok reference =>
      Draft.ofFragment
        (insertsFragment q.dialect.profile (q.inserts table reference rows))

/-- Refuses more bound values than a request may carry. -/
def checkParameters (q : Query) (count : Nat) : Except Error Unit :=
  match q.dialect.profile.maxParameters with
  | some limit =>
    if limit < count then
      .error (.unsupportedFeature q.dialect.engine (.parameterCount count limit))
    else .ok ()
  | none => .ok ()

/-- The statement that inserts one row. -/
def insert (q : Query) (row : Row) : Played Statement := q.finish (q.insertDraft row)

/-- The statement that inserts many rows. -/
def insertMany (q : Query) (rows : List Row) : Played Statement :=
  let played := q.play (q.insertManyDraft rows)
  { bound := played.bound
    written := played.written
    drops := played.drops
    outcome := played.outcome.bind fun sql => do
      q.checkParameters played.bound.length
      q.statement played.bound sql }

/-- The rows of one batch. -/
def batchCap (q : Query) (rows : List Row) (columns : Nat) : Nat :=
  match q.dialect.profile.multiInsert with
  | .valuesList cap => q.rowCap (cap.getD rows.length) columns
  | .transaction => q.rowCap rows.length columns

/-- The statements that insert many rows in batches, each numbering its placeholders from the
start. -/
def insertBatches (q : Query) (rows : List Row) : Except Error (List Statement) := do
  let reference ← Row.reference rows
  (cut (q.batchCap rows reference.cells.length) rows).mapM fun batch =>
    (q.insertMany batch).outcome

end Query

end SqlRender
