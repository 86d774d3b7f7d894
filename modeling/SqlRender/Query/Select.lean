import SqlRender.Query.Basic

/-!
# Statements with a filter

Selecting, counting, summing, testing for existence, updating and deleting all take the rows
that pass the query's filter, and all place it by the same draft.
-/

namespace SqlRender.Query

/-- The pieces of a statement on the query's table and filter. The table is looked for first. -/
def withFilter (q : Query) (build : Piece → Fragment → Draft Fragment) : Draft Fragment :=
  match q.tablePiece with
  | .error e => .fail e
  | .ok table => q.filterDraft.bind (build table)

/-- Selecting the query's columns from the rows of its window, in its order. -/
def selectDraft (q : Query) : Draft Fragment :=
  q.withFilter fun table rows =>
    match q.dialect.paging q.offset q.limit (!q.orders.isEmpty) with
    | .error e => .fail e
    | .ok paging =>
      let top := match paging.top with
        | some words => [Piece.text (words ++ " ")]
        | none => []
      pure (.text "SELECT " :: top ++ q.projection ++ .text " FROM " :: table :: rows ++
        q.orderFragment ++ [.text paging.suffix])

/-- Deleting the rows. -/
def deleteDraft (q : Query) : Draft Fragment :=
  q.withFilter fun table rows => pure (.text "DELETE FROM " :: table :: rows)

/-- Asking whether there is a row. -/
def existsDraft (q : Query) (label : String) : Draft Fragment :=
  q.withFilter fun table rows =>
    let inner : Fragment := .text "SELECT 1 FROM " :: table :: rows
    match q.dialect.profile.existence with
    | .caseWhen =>
      pure (.text "SELECT CASE WHEN EXISTS (" :: inner ++
        [.text ") THEN 1 ELSE 0 END AS ", .name label])
    | .bare => pure (.text "SELECT EXISTS (" :: inner ++ [.text ") AS ", .name label])

/-- Counting the rows. -/
def countDraft (q : Query) (label : String) : Draft Fragment :=
  q.withFilter fun table rows =>
    pure (.text "SELECT COUNT(*) AS " :: .name label :: .text " FROM " :: table :: rows)

/-- Summing a column over the rows. -/
def sumDraft (q : Query) (field label : String) : Draft Fragment :=
  q.withFilter fun table rows =>
    pure (.text "SELECT SUM(" :: .name field :: .text ") AS " :: .name label :: .text " FROM " ::
      table :: rows)

/-- Setting the columns of a row on the rows. The values of the row come before those of the
filter. -/
def updateDraft (q : Query) (row : Row) : Draft Fragment :=
  match q.tablePiece with
  | .error e => .fail e
  | .ok table =>
    if row.cells.isEmpty then .fail (.malformed (.noData "UPDATE"))
    else
      let assignments := Fragment.joined ", " (row.cells.map fun (column, v) =>
        .name column :: .text " = " :: Fragment.ofValue v)
      (Draft.ofFragment assignments).bind fun assignments =>
        q.filterDraft.bind fun rows =>
          pure (.text "UPDATE " :: table :: .text " SET " :: assignments ++ rows)

/-- Removing every row, whatever the filter. -/
def truncateDraft (q : Query) : Draft Fragment :=
  match q.tablePiece with
  | .error e => .fail e
  | .ok table => pure [.text (q.dialect.profile.truncate ++ " "), table]

/-- The statement that selects rows. -/
def select (q : Query) : Played Statement := q.finish q.selectDraft

/-- The statement that deletes rows. -/
def delete (q : Query) : Played Statement := q.finish q.deleteDraft

/-- The statement that asks whether there is a row. -/
def exists_ (q : Query) (label : String) : Played Statement := q.finish (q.existsDraft label)

/-- The statement that counts rows. -/
def count (q : Query) (label : String) : Played Statement := q.finish (q.countDraft label)

/-- The statement that sums a column. -/
def sum (q : Query) (field label : String) : Played Statement :=
  q.finish (q.sumDraft field label)

/-- The statement that updates rows. -/
def update (q : Query) (row : Row) : Played Statement := q.finish (q.updateDraft row)

/-- The statement that removes every row. -/
def truncate (q : Query) : Played Statement := q.finish q.truncateDraft

end SqlRender.Query
