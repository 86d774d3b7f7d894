import SqlRender.Proofs.Query.Clause
import SqlRender.Proofs.Query.Tuples

/-!
# Inserting row by row

A compiler that inserts rows walks through them in order: it renders every value of a row where it
meets it, hands out the next placeholder or writes the next literal, and stops at the first value
that it cannot write. `walkMany_eq` says that this is what the draft of an insert plays to, however
the rows are cut into inserts: the slots of the finished text are numbered as the values are met. So
the statements made in this way are those of `insert`, `insertMany` and `insertBatches`.
-/

namespace SqlRender

open Fragment

namespace Compiler

/-- Renders the values of a row as a tuple. -/
def walkTuple (c : Compiler) (row : Row) : Compiler × Played String :=
  andThen (walkEach (fun v c => c.value v) row.values c) fun c xs => c.done (Query.tupleText xs)

/-- Renders one insert of some rows into some columns of a table. -/
def walkInsert (c : Compiler) (table : String) (columns : List String) (rows : List Row) :
    Compiler × Played String :=
  andThen (walkEach (fun row c => c.walkTuple row) rows c) fun c' tuples =>
    c'.done ("INSERT INTO " ++ c.dialect.quoteName table ++ " (" ++
      ", ".intercalate (columns.map c.dialect.quoteName) ++ ") VALUES " ++ ", ".intercalate tuples)

/-- A row that is rendered value by value plays its tuple. -/
theorem plays_tuple : Plays (fun row c => c.walkTuple row) Query.tuple := by
  intro row c
  refine plays_value.andThen_done ?_ fun tape => ?_
  · rw [Query.slots_tuple, slotsOf, flatMap_slots_ofValue]
    rfl
  · have hentry : (fun v => (ofValue v).fill c.dialect) = Query.entry :=
      funext₂ Query.fill_ofValue
    rw [Query.fill_tuple, Query.entries, dealTexts, hentry]

/-- Rows that are rendered one after the other play their insert. -/
theorem plays_insert (table : String) (reference : Row) :
    Plays (fun rows c => c.walkInsert table reference.names rows)
      (Query.insertFragment (.name table) (Query.columnList reference)) := by
  intro rows c
  refine plays_tuple.andThen_done ?_ fun tape => ?_
  · rw [Query.slots_insertFragment, slotsOf]
    simp only [Query.slots_tuple]
  · rw [Query.fill_insertFragment, dealTexts, Query.deal_tuple]
    rfl

end Compiler

namespace Query

variable {d : Dialect} {q : Query}

/-- The text of inserts: alone when there is one and the engine takes lists of tuples, and inside a
transaction otherwise. -/
def insertsText (p : Profile) (inserts : List String) : String :=
  match p.multiInsert, inserts with
  | .valuesList _, [only] => only
  | _, _ => transactionText p inserts

/-- The text of inserts is made of theirs. -/
theorem fill_insertsFragment (p : Profile) (inserts : List Fragment) (tape : List String) :
    (insertsFragment p inserts).fill d tape =
      insertsText p (deal (·.slots.length) (fill d) inserts tape) := by
  unfold insertsFragment insertsText
  cases p.multiInsert with
  | transaction => exact fill_inTransaction p inserts tape
  | valuesList cap =>
    cases inserts with
    | nil => exact fill_inTransaction p [] tape
    | cons first rest =>
      cases rest with
      | nil => rfl
      | cons second rest => exact fill_inTransaction p (first :: second :: rest) tape

/-- Renders the inserts of many rows into a table, in the groups that the engine takes. -/
def walkInserts (q : Query) (table : String) (reference : Row) (rows : List Row) (c : Compiler) :
    Compiler × Played (List String) :=
  match q.dialect.profile.multiInsert with
  | .valuesList cap =>
    Compiler.walkEach (fun group c => c.walkInsert table reference.names group)
      (cut (q.rowCap (cap.getD rows.length) reference.cells.length) rows) c
  | .transaction =>
    Compiler.walkEach (fun row c => c.walkInsert table reference.names [row]) rows c

/-- Renders the insert of one row value by value. -/
def walkOne (q : Query) (row : Row) : Compiler × Played String :=
  match q.table with
  | none => q.compiler.stop (.missingClause "from")
  | some table =>
    if row.cells.isEmpty then q.compiler.stop (.malformed (.noData "INSERT"))
    else q.compiler.walkInsert table row.names [row]

/-- Renders the insert of many rows row by row. -/
def walkMany (q : Query) (rows : List Row) : Compiler × Played String :=
  match q.table with
  | none => q.compiler.stop (.missingClause "from")
  | some table =>
    match Row.reference rows with
    | .error e => q.compiler.stop e
    | .ok reference =>
      Compiler.andThen (q.walkInserts table reference rows q.compiler) fun c inserts =>
        c.done (insertsText q.dialect.profile inserts)

/-- Whatever the inserts are rendered from, they play the fragment of all of them. -/
theorem andThen_insertsText {α : Type} {walk : α → Compiler → Compiler × Played String}
    {f : α → Fragment} {as : List α} {table : String} {reference : Row} {rows : List Row}
    (hplays : Compiler.Plays walk f)
    (hinserts : q.inserts (.name table) reference rows = as.map f) (c : Compiler) :
    Compiler.andThen (Compiler.walkEach walk as c) (fun c inserts =>
        c.done (insertsText q.dialect.profile inserts)) =
      c.run (render c.dialect c.mode c.next) (.ofFragment (insertsFragment q.dialect.profile
        (q.inserts (.name table) reference rows))) := by
  have hslots := (legible_insertsFragment (e := q.dialect.engine)
    (q.legible_inserts table reference rows).1).2
  refine hplays.andThen_done ?_ fun tape => ?_
  · rw [← Dialect.profile, hinserts, List.flatMap_map] at hslots
    rw [hinserts, hslots]
  · rw [fill_insertsFragment, hinserts, deal_map]
    rfl

/-- Inserts that are rendered in groups play the fragment of all of them. -/
theorem walkInserts_eq (table : String) (reference : Row) (rows : List Row) (c : Compiler) :
    Compiler.andThen (q.walkInserts table reference rows c) (fun c inserts =>
        c.done (insertsText q.dialect.profile inserts)) =
      c.run (render c.dialect c.mode c.next) (.ofFragment (insertsFragment q.dialect.profile
        (q.inserts (.name table) reference rows))) := by
  have hplays := Compiler.plays_insert table reference
  unfold walkInserts
  cases hstyle : q.dialect.profile.multiInsert with
  | valuesList cap =>
    refine andThen_insertsText hplays ?_ c
    rw [inserts, hstyle]
  | transaction =>
    have hsingle : Compiler.Plays (fun row c => c.walkInsert table reference.names [row])
        fun row => insertFragment (.name table) (columnList reference) [row] :=
      fun row => hplays [row]
    refine andThen_insertsText hsingle ?_ c
    rw [inserts, hstyle]

/-- Inserting one row value by value plays its draft. -/
theorem walkOne_eq (row : Row) :
    q.walkOne row = q.compiler.run (render q.dialect q.mode 1) (q.insertDraft row) := by
  unfold walkOne insertDraft tablePiece
  cases q.table with
  | none => exact Compiler.stop_eq_run _ _
  | some table =>
    dsimp only
    split
    · exact Compiler.stop_eq_run _ _
    · have hwalk := Compiler.plays_insert table row [row] q.compiler
      rw [next_compiler] at hwalk
      exact hwalk

/-- Inserting rows one after the other plays their draft. -/
theorem walkMany_eq (rows : List Row) :
    q.walkMany rows = q.compiler.run (render q.dialect q.mode 1) (q.insertManyDraft rows) := by
  unfold walkMany insertManyDraft tablePiece
  cases q.table with
  | none => exact Compiler.stop_eq_run _ _
  | some table =>
    dsimp only
    cases Row.reference rows with
    | error e => exact Compiler.stop_eq_run _ _
    | ok reference =>
      have hwalk := walkInserts_eq (q := q) table reference rows q.compiler
      rw [next_compiler] at hwalk
      exact hwalk

/-- The statement of one row that is inserted value by value, with the parameters that the compiler
has kept. -/
def insertByValue (q : Query) (row : Row) : Played Statement :=
  let (c, played) := q.walkOne row
  { bound := played.bound
    written := played.written
    drops := played.drops
    outcome := played.outcome.bind (q.statement c.params) }

/-- The statement of rows that are inserted one after the other, with the parameters that the
compiler has kept. -/
def insertManyByRow (q : Query) (rows : List Row) : Played Statement :=
  let (c, played) := q.walkMany rows
  { bound := played.bound
    written := played.written
    drops := played.drops
    outcome := played.outcome.bind fun sql => do
      q.checkParameters c.params.length
      q.statement c.params sql }

/-- The statements of rows that are inserted in batches, each by a compiler of its own. -/
def insertBatchesByRow (q : Query) (rows : List Row) : Except Error (List Statement) := do
  let reference ← Row.reference rows
  (cut (q.batchCap rows reference.cells.length) rows).mapM fun batch =>
    (q.insertManyByRow batch).outcome

/-- The compiler of a statement keeps what the draft of the statement binds. -/
theorem params_run_compiler (q : Query) (draft : Draft Fragment) :
    (q.compiler.run (render q.dialect q.mode 1) draft).1.params = (q.play draft).bound := by
  rw [← run_compiler]
  rfl

/-- Inserting value by value makes the statement of one row. -/
theorem insertByValue_eq (q : Query) (row : Row) : q.insertByValue row = q.insert row := by
  unfold insertByValue insert finish
  dsimp only
  rw [walkOne_eq, params_run_compiler, run_compiler]

/-- Inserting row by row makes the statement of many rows. -/
theorem insertManyByRow_eq (q : Query) (rows : List Row) :
    q.insertManyByRow rows = q.insertMany rows := by
  unfold insertManyByRow insertMany
  dsimp only
  rw [walkMany_eq, params_run_compiler, run_compiler]

/-- Inserting row by row makes the statements of the batches. -/
theorem insertBatchesByRow_eq (q : Query) (rows : List Row) :
    q.insertBatchesByRow rows = q.insertBatches rows := by
  simp only [insertBatchesByRow, insertBatches, insertManyByRow_eq]

end Query

end SqlRender
