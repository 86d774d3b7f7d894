import SqlRender.Proofs.Fragment.Deal
import SqlRender.Proofs.Query.Legible

/-!
# Inserts of many rows are faithful

An insert of many rows has one tuple for each row, in the order of the rows, however the rows are
cut into inserts. An entry of a tuple says what its row has in the column of that place: `NULL`, the
literal of the value, or the placeholder whose number counts the values bound before it, in the row
and in all rows in front of it. Every insert names the same table and the same columns, and holds as
many tuples as the engine lets it.
-/

namespace SqlRender

open Fragment

namespace Query

variable {d : Dialect} {q : Query}

/-- The text of a value at the front of the texts that are left: `NULL`, or the first of them. -/
def entry (v : Value) (tape : List String) : String :=
  if v.isNull then "NULL" else tape.head?.getD ""

/-- The texts of the values of a row. -/
def entries (row : Row) (tape : List String) : List String :=
  deal (fun v => (ofValue v).slots.length) entry row.values tape

/-- The text of a tuple. -/
def tupleText (entries : List String) : String := "(" ++ ", ".intercalate entries ++ ")"

/-- The text of an insert into some columns of a table. -/
def insertText (d : Dialect) (table : String) (columns : List String)
    (tuples : List (List String)) : String :=
  "INSERT INTO " ++ d.quoteName table ++ " (" ++ ", ".intercalate (columns.map d.quoteName) ++
    ") VALUES " ++ ", ".intercalate (tuples.map tupleText)

/-- The text of inserts inside a transaction. -/
def transactionText (p : Profile) (inserts : List String) : String :=
  p.beginTransaction ++ " " ++ "; ".intercalate inserts ++ "; " ++ p.commitTransaction

/-- A value takes the text at the front, unless it is null. -/
theorem fill_ofValue (v : Value) (tape : List String) :
    (ofValue v).fill d tape = entry v tape := by
  unfold ofValue entry
  split
  · exact String.append_empty
  · cases tape with
    | nil => rfl
    | cons x tape => exact String.append_empty

/-- The tuple of a row is made of its entries. -/
theorem fill_tuple (row : Row) (tape : List String) :
    (tuple row).fill d tape = tupleText (entries row tape) := by
  have hentry : (fun v => fill d (ofValue v)) = entry := funext₂ fill_ofValue
  rw [tuple, List.cons_append, fill, fill_append_drop, fill_joined_deal, deal_map, hentry, fill,
    fill, String.append_empty, ← String.append_assoc]
  rfl

/-- The columns that an insert lists are quoted names. -/
theorem fill_columnList (row : Row) (tape : List String) :
    (columnList row).fill d tape = ", ".intercalate (row.names.map d.quoteName) := by
  have hname : ∀ (name : String) tape, fill d [.name name] tape = d.quoteName name :=
    fun _ _ => String.append_empty
  rw [columnList, fill_joined_deal, deal_map, deal_eq_map hname]

/-- Rows that take the texts of their values one after the other are made into their tuples. -/
theorem deal_tuple (rows : List Row) (tape : List String) :
    deal (fun row => (tuple row).slots.length) (fun row => (tuple row).fill d) rows tape =
      (deal (·.bound.length) entries rows tape).map tupleText := by
  have htuple : (fun row => (tuple row).fill d) = fun row tape => tupleText (entries row tape) :=
    funext₂ fill_tuple
  rw [map_deal, htuple]
  simp only [slots_tuple]

/-- An insert is made of the tuples of its rows. -/
theorem fill_insertFragment (table : String) (reference : Row) (rows : List Row)
    (tape : List String) :
    (insertFragment (.name table) (columnList reference) rows).fill d tape =
      insertText d table reference.names (deal (·.bound.length) entries rows tape) := by
  have htuples : (joined ", " (rows.map tuple)).fill d tape =
      ", ".intercalate ((deal (·.bound.length) entries rows tape).map tupleText) := by
    rw [fill_joined_deal, deal_map, deal_tuple]
  have hassoc : ∀ a b c x y z : String,
      a ++ b ++ c ++ x ++ y ++ z = a ++ (b ++ (c ++ (x ++ (y ++ z)))) := by
    intro a b c x y z
    simp only [String.append_assoc]
  rw [insertFragment, List.cons_append, List.cons_append, List.cons_append, fill, fill, fill,
    fill_append_drop, fill_columnList, fill, slots_columnList, List.length_nil, List.drop_zero,
    htuples]
  exact (hassoc _ _ _ _ _ _).symm

/-- The text of an entry for a value: `NULL`, or the placeholder or the literal with a number. -/
def entryText (q : Query) (number : Nat) (v : Value) : Except Error String :=
  if v.isNull then .ok "NULL"
  else
    match q.mode with
    | .parameterized => .ok (q.dialect.placeholder number)
    | .inline => q.dialect.literal number v

/-- The values that are not null in front of a column of a row, in the row itself and in all rows
in front of it. -/
def boundBefore (rows : List Row) (i : Nat) (row : Row) (j : Nat) : Nat :=
  ((rows.take i).flatMap Row.bound).length + ((row.values.take j).filter (!·.isNull)).length

/-- The text of a value among those of a statement. -/
theorem getElem?_valueTexts {vs : List Value} {tape : List String} {k : Nat} {v : Value}
    (h : valueTexts q.dialect q.mode 1 vs = .ok tape) (hv : vs[k]? = some v)
    (hnull : v.isNull = false) : ∃ x, tape[k]? = some x ∧ q.entryText (1 + k) v = .ok x := by
  obtain ⟨hk, -⟩ := List.getElem?_eq_some_iff.mp hv
  unfold entryText
  rw [hnull, if_neg (by decide)]
  cases hmode : q.mode with
  | parameterized =>
    rw [hmode] at h
    cases h
    refine ⟨q.dialect.placeholder (1 + k), ?_, rfl⟩
    rw [placeholders, List.getElem?_map, List.getElem?_range' hk]
    simp
  | inline =>
    rw [hmode] at h
    have htexts := literals_eq_ok.mp h
    have hzip : k < (vs.zipIdx 1).length := by rwa [List.length_zipIdx]
    have hk' : k < tape.length := htexts.length_eq ▸ hzip
    refine ⟨tape[k], List.getElem?_eq_getElem hk', ?_⟩
    have hliteral := htexts.get hzip hk'
    simp only [List.get_eq_getElem, List.getElem_zipIdx] at hliteral
    rw [← hliteral, (List.getElem?_eq_some_iff.mp hv).2]

/-- The entry that a value makes of the texts behind those bound before it is the one that is to
stand there. -/
theorem entryText_eq {rows : List Row} {tape : List String} {i j : Nat} {row : Row} {v : Value}
    (h : valueTexts q.dialect q.mode 1 (rows.flatMap Row.bound) = .ok tape)
    (hrow : rows[i]? = some row) (hv : row.values[j]? = some v) :
    q.entryText (1 + boundBefore rows i row j) v =
      .ok (entry v (tape.drop (boundBefore rows i row j))) := by
  unfold entry
  cases hnull : v.isNull with
  | true => simp [entryText, hnull]
  | false =>
    have hbound : (rows.flatMap Row.bound)[boundBefore rows i row j]? = some v :=
      getElem?_flatMap hrow (getElem?_filter hv (by simp [hnull]))
    obtain ⟨x, hx, htext⟩ := getElem?_valueTexts h hbound hnull
    rw [htext, List.head?_drop, hx]
    rfl

/-- The entries of a row take a text for each value that is not null. -/
theorem getElem?_entries (row : Row) (tape : List String) (j : Nat) :
    (entries row tape)[j]? = row.values[j]?.map fun v =>
      entry v (tape.drop ((row.values.take j).filter (!·.isNull)).length) := by
  have hcount : ((row.values.take j).map fun v => (ofValue v).slots.length).sum =
      ((row.values.take j).filter (!·.isNull)).length := by
    rw [← List.length_flatMap, flatMap_slots_ofValue]
  rw [entries, getElem?_deal, hcount]

/-- The tuples of inserts that hold groups of rows. -/
def insertTuples (groups : List (List Row)) (tape : List String) : List (List (List String)) :=
  deal (fun group => (group.map (·.bound.length)).sum) (deal (·.bound.length) entries) groups tape

/-- The tuples of all inserts are those of all rows. -/
theorem flatten_insertTuples (groups : List (List Row)) (tape : List String) :
    (insertTuples groups tape).flatten = deal (·.bound.length) entries groups.flatten tape :=
  flatten_deal groups tape

/-- Inserts that hold groups of rows are made of their tuples. -/
theorem fill_inserts (table : String) (reference : Row) (groups : List (List Row))
    (tape : List String) : deal (·.slots.length) (fill d)
      (groups.map (insertFragment (.name table) (columnList reference))) tape =
        (insertTuples groups tape).map (insertText d table reference.names) := by
  have hcount : ∀ group, (insertFragment (.name table) (columnList reference) group).slots.length =
      (group.map (·.bound.length)).sum := by
    intro group
    rw [slots_insertFragment, List.length_flatMap]
  have hinsert : (fun group => fill d (insertFragment (.name table) (columnList reference) group)) =
      fun group tape => insertText d table reference.names
        (deal (·.bound.length) entries group tape) :=
    funext₂ (fill_insertFragment table reference)
  rw [deal_map, insertTuples, map_deal, hinsert]
  simp only [hcount]

/-- Inserts inside a transaction are made one after the other. -/
theorem fill_inTransaction (p : Profile) (inserts : List Fragment) (tape : List String) :
    (inTransaction p inserts).fill d tape =
      transactionText p (deal (·.slots.length) (fill d) inserts tape) := by
  rw [inTransaction, List.cons_append, fill, fill_append_drop, fill_joined_deal]
  simp only [fill, String.append_empty, transactionText, String.append_assoc]

/-- More than one insert, and inserts of one row each, stand inside a transaction. -/
theorem insertsFragment_wrapped {p : Profile} {inserts : List Fragment}
    (h : p.multiInsert = .transaction ∨ 1 < inserts.length) :
    insertsFragment p inserts = inTransaction p inserts := by
  unfold insertsFragment
  split
  · next only hstyle =>
    rcases h with h | h
    · rw [hstyle] at h
      cases h
    · exact absurd h (lt_irrefl 1)
  · rfl

/-- One insert stands alone where lists of tuples are taken. -/
theorem insertsFragment_alone {p : Profile} (h : p.multiInsert ≠ .transaction) (only : Fragment) :
    insertsFragment p [only] = only := by
  unfold insertsFragment
  cases hstyle : p.multiInsert with
  | transaction => exact absurd hstyle h
  | valuesList cap => rfl

/-- What the text of an insert of many rows is made of: the tuples of each insert, entry by
entry. -/
structure InsertsRows (q : Query) (rows : List Row) (sql table : String) (reference : Row)
    (inserts : List (List (List String))) : Prop where
  table_eq : q.table = some table
  reference_eq : rows.head? = some reference
  /-- More than one insert, and inserts that hold one row each, stand inside a transaction. -/
  wrapped : q.dialect.profile.multiInsert = .transaction ∨ 1 < inserts.length →
    sql = transactionText q.dialect.profile
      (inserts.map (insertText q.dialect table reference.names))
  /-- Otherwise the one insert is the whole text. -/
  alone : ¬(q.dialect.profile.multiInsert = .transaction ∨ 1 < inserts.length) →
    ∃ tuples, inserts = [tuples] ∧ sql = insertText q.dialect table reference.names tuples
  holds : ∀ tuples ∈ inserts, q.Holds reference.names.length tuples.length
  /-- The tuples of all inserts are one for each row. -/
  length_eq : inserts.flatten.length = rows.length
  /-- The tuple at the place of a row has an entry for each column, which says what the row has
  there. -/
  entry_eq : ∀ i row, rows[i]? = some row → ∃ tuple, inserts.flatten[i]? = some tuple ∧
    tuple.length = reference.names.length ∧
    ∀ j name v, row.cells[j]? = some (name, v) → reference.names[j]? = some name ∧
      ∃ text, tuple[j]? = some text ∧
        q.entryText (1 + boundBefore rows i row j) v = .ok text

/-- The tuple at the place of a row has the row's values in the columns of the first row. -/
theorem tuple_of_row {rows : List Row} {reference row : Row} {tape : List String} {i : Nat}
    (htape : valueTexts q.dialect q.mode 1 (rows.flatMap Row.bound) = .ok tape)
    (hnames : ∀ row ∈ rows, row.names = reference.names) (hrow : rows[i]? = some row) :
    ∃ tuple, (deal (·.bound.length) entries rows tape)[i]? = some tuple ∧
      tuple.length = reference.names.length ∧
      ∀ j name v, row.cells[j]? = some (name, v) → reference.names[j]? = some name ∧
        ∃ text, tuple[j]? = some text ∧
          q.entryText (1 + boundBefore rows i row j) v = .ok text := by
  have hcolumns : row.names = reference.names := hnames row (List.mem_of_getElem? hrow)
  have hbefore : ((rows.take i).map (·.bound.length)).sum =
      ((rows.take i).flatMap Row.bound).length := by
    rw [List.length_flatMap]
  refine ⟨entries row (tape.drop ((rows.take i).flatMap Row.bound).length), ?_, ?_,
    fun j name v hcell => ⟨?_, ?_⟩⟩
  · rw [getElem?_deal, hrow, hbefore]
    rfl
  · rw [entries, length_deal, ← hcolumns, Row.values, Row.names, List.length_map,
      List.length_map]
  · rw [← hcolumns, Row.names, List.getElem?_map, hcell]
    rfl
  · have hv : row.values[j]? = some v := by
      rw [Row.values, List.getElem?_map, hcell]
      rfl
    refine ⟨_, ?_, entryText_eq htape hrow hv⟩
    rw [getElem?_entries, hv, Option.map_some, List.drop_drop, boundBefore]

/-- An insert of many rows has one tuple for each row, in order, with the row's values in the
columns of the first row; it has no more tuples in one insert than the engine takes, and stands
inside a transaction when it has more than one insert. -/
theorem insertsRows_of_insertMany {rows : List Row} {st : Statement}
    (h : (q.insertMany rows).outcome = .ok st) :
    ∃ table reference inserts, q.InsertsRows rows st.sql table reference inserts := by
  have hbuild : (q.build (.insertMany rows)).outcome = .ok st := h
  obtain ⟨f, houtcome, hrender, -⟩ := renders_of_build hbuild
  have hslots : f.slots = rows.flatMap Row.bound :=
    (drafts_insertMany houtcome).slots_eq.trans (List.append_nil _)
  obtain ⟨table, reference, htable, hreference, rfl, -⟩ := outcome_insertManyDraft houtcome
  obtain ⟨hfirst, hcells, hnames⟩ := Row.reference_eq_ok hreference
  -- The texts of all values lie on one tape, from which the groups take theirs in order.
  rw [render_eq_fill, hslots] at hrender
  obtain ⟨tape, htape, hsql⟩ := map_eq_ok hrender
  rw [inserts_eq] at hsql
  have hlength : ∀ groups, (insertTuples groups tape).length = groups.length := fun groups =>
    length_deal groups tape
  have hflatten : (insertTuples (q.groups reference.cells.length rows) tape).flatten =
      deal (·.bound.length) entries rows tape := by
    rw [flatten_insertTuples, flatten_groups]
  have hcolumns : reference.names.length = reference.cells.length := List.length_map _
  refine ⟨table, reference, insertTuples (q.groups reference.cells.length rows) tape, htable,
    hfirst, fun hwrapped => ?_, fun halone => ?_, fun tuples htuples => ?_, ?_,
    fun i row hrow => ?_⟩
  · have hinserts : q.dialect.profile.multiInsert = .transaction ∨
        1 < ((q.groups reference.cells.length rows).map
          (insertFragment (.name table) (columnList reference))).length := by
      rwa [List.length_map, ← hlength]
    rw [hsql, insertsFragment_wrapped hinserts, fill_inTransaction, fill_inserts]
  · rw [not_or, hlength] at halone
    obtain ⟨group, hgroup⟩ := groups_eq_singleton hfirst halone.2
    refine ⟨_, congrArg (insertTuples · tape) hgroup, ?_⟩
    rw [hsql, hgroup, List.map_singleton, insertsFragment_alone halone.1, fill_insertFragment]
  · obtain ⟨group, hgroup, rest, rfl⟩ := exists_of_mem_deal htuples
    rw [length_deal, hcolumns]
    exact holds_of_mem_groups (by simpa using hcells) hgroup
  · rw [hflatten, length_deal]
  · rw [hflatten]
    exact tuple_of_row htape hnames hrow

/-- A query on a table, for an engine that takes one row with each insert. -/
def ledger : Query where
  dialect := .ofEngine .sqlite
  mode := .parameterized
  table := some "t"

/-- Rows with nulls in different columns. -/
def ledgerRows : List Row :=
  [.ofCells [("a", .int 1), ("b", .null)], .ofCells [("a", .null), ("b", .string "x")]]

/-- The insert of the rows. -/
def ledgerInsert : Statement where
  sql := "BEGIN TRANSACTION; INSERT INTO \"t\" (\"a\", \"b\") VALUES (?1, NULL); " ++
    "INSERT INTO \"t\" (\"a\", \"b\") VALUES (NULL, ?2); COMMIT;"
  params := [⟨"?1", .int 1⟩, ⟨"?2", .string "x"⟩]

/-- A null takes no number from the values behind it. -/
theorem insertsRows_of_insertMany_ledger :
    (ledger.insertMany ledgerRows).outcome = .ok ledgerInsert ∧
      ∃ table reference inserts,
        ledger.InsertsRows ledgerRows ledgerInsert.sql table reference inserts := by
  have h : (ledger.insertMany ledgerRows).outcome = .ok ledgerInsert :=
    eq_ok_of_toOption (by decide +kernel)
  exact ⟨h, insertsRows_of_insertMany h⟩

end Query

end SqlRender
