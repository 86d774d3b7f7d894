import SqlRender.Proofs.Query.Batches

/-!
# Rows with other columns

An insert lists the columns of its first row, and every other row has to have these columns in this
order. The rows are compared before anything else is done with them. So an insert and the batches of
an insert report the same row, by its place among all the rows, whatever the values are and wherever
the rows would be cut, and nothing has been bound by then. When all rows have the same columns the
rows of every batch have them too, and an insert of them fails for other reasons only.
-/

namespace SqlRender

/-- The first list of columns that is not the list in front, with its place. -/
structure Misfit (columns : List (List String)) (index : Nat) (expected found : List String) :
    Prop where
  head?_eq : columns.head? = some expected
  getElem?_eq : columns[index]? = some found
  ne : found ≠ expected
  before : ∀ i < index, columns[i]? = some expected

/-- There is at most one first list of other columns. -/
theorem Misfit.unique {columns : List (List String)} {i j : Nat} {a b a' b' : List String}
    (h : Misfit columns i a b) (h' : Misfit columns j a' b') : i = j ∧ a = a' ∧ b = b' := by
  have hhead : a = a' := Option.some.inj (h.head?_eq.symm.trans h'.head?_eq)
  have hplace : i = j := by
    rcases Nat.lt_trichotomy i j with hlt | heq | hlt
    · have hsame := Option.some.inj (h.getElem?_eq.symm.trans (h'.before i hlt))
      exact absurd (hsame.trans hhead.symm) h.ne
    · exact heq
    · have hsame := Option.some.inj (h'.getElem?_eq.symm.trans (h.before j hlt))
      exact absurd (hsame.trans hhead) h'.ne
  subst hplace
  exact ⟨rfl, hhead, Option.some.inj (h.getElem?_eq.symm.trans h'.getElem?_eq)⟩

namespace Row

variable {first : Row} {rows rest : List Row} {index : Nat} {expected found : String}

/-- The report on the first row whose columns are not those of the row in front: its place among the
rows, and the columns of both. Nothing but the columns of the rows has a part in it. -/
def Reports (rows : List Row) (index : Nat) (expected found : String) : Prop :=
  ∃ columns others, Misfit (rows.map names) index columns others ∧
    expected = String.intercalate ", " columns ∧ found = String.intercalate ", " others

/-- A search for other columns than those in front comes to the first row that has some. -/
theorem misfit_of_findIdx? (h : (first :: rest).findIdx? (·.names != first.names) = some index) :
    ∃ row, (first :: rest)[index]? = some row ∧
      Misfit ((first :: rest).map names) index first.names row.names := by
  obtain ⟨hindex, hother, hsame⟩ := List.findIdx?_eq_some_iff_getElem.mp h
  have hrow : (first :: rest)[index]? = some (first :: rest)[index] :=
    List.getElem?_eq_getElem hindex
  refine ⟨_, hrow, rfl, ?_, bne_iff_ne.mp hother, fun i hi => ?_⟩
  · rw [List.getElem?_map, hrow]
    rfl
  · have hnames := hsame i hi
    rw [Bool.not_eq_true, bne_eq_false_iff_eq] at hnames
    rw [List.getElem?_map, List.getElem?_eq_getElem (hi.trans hindex), Option.map_some, hnames]

/-- There is something to report exactly when some row has other columns than the first one. -/
theorem exists_reports_iff :
    (∃ index expected found, Reports (first :: rest) index expected found) ↔
      ∃ row ∈ first :: rest, row.names ≠ first.names := by
  constructor
  · rintro ⟨index, -, -, columns, others, hmisfit, -, -⟩
    obtain rfl : first.names = columns := Option.some.inj hmisfit.head?_eq
    obtain ⟨row, hrow, rfl⟩ := List.mem_map.mp (List.mem_of_getElem? hmisfit.getElem?_eq)
    exact ⟨row, hrow, hmisfit.ne⟩
  · rintro ⟨row, hrow, hne⟩
    cases hfind : (first :: rest).findIdx? (·.names != first.names) with
    | none =>
      have hsame := List.findIdx?_eq_none_iff.mp hfind row hrow
      exact absurd (bne_eq_false_iff_eq.mp hsame) hne
    | some index =>
      obtain ⟨other, -, hmisfit⟩ := misfit_of_findIdx? hfind
      exact ⟨index, _, _, _, _, hmisfit, rfl, rfl⟩

/-- A first row with columns is the reference of the rows, unless one of them is reported. -/
theorem reference_mismatch_iff (hcells : first.cells ≠ []) :
    reference (first :: rest) = .error (.schemaMismatch index expected found) ↔
      Reports (first :: rest) index expected found := by
  cases hfind : (first :: rest).findIdx? (·.names != first.names) with
  | none =>
    have hsame : ∀ row ∈ first :: rest, row.names = first.names := fun row hrow =>
      bne_eq_false_iff_eq.mp (List.findIdx?_eq_none_iff.mp hfind row hrow)
    rw [reference_of_names hcells hsame]
    refine ⟨nofun, fun hreports => ?_⟩
    obtain ⟨row, hrow, hne⟩ := exists_reports_iff.mp ⟨index, expected, found, hreports⟩
    exact absurd (hsame row hrow) hne
  | some i =>
    obtain ⟨row, hrow, hmisfit⟩ := misfit_of_findIdx? hfind
    have hreference : reference (first :: rest) =
        .error (.schemaMismatch i first.namesText row.namesText) := by
      have hempty : first.cells.isEmpty = false := by simpa using hcells
      unfold reference
      dsimp only
      rw [hempty, if_neg (by decide), hfind]
      dsimp only
      rw [hrow]
      rfl
    rw [hreference]
    constructor
    · intro h
      cases h
      exact ⟨_, _, hmisfit, rfl, rfl⟩
    · rintro ⟨columns, others, hother, rfl, rfl⟩
      obtain ⟨rfl, rfl, rfl⟩ := hmisfit.unique hother
      rfl

end Row

namespace Query

variable {q : Query} {table : String} {first : Row} {rows rest : List Row} {index : Nat}
  {expected found : String} {e : Error}

/-- Rows with a reference are not inserted when a value has no literal and is to be written out,
when they bind too many values, or when the text is too long, and for no other reason. -/
theorem insertMany_eq_error (htable : q.table = some table)
    (hreference : Row.reference rows = .ok first) (h : (q.insertMany rows).outcome = .error e) :
    (∃ cause, e = .unrenderable cause) ∨
      (∃ feature, e = .unsupportedFeature q.dialect.engine feature) ∨
      ∃ length, e = .statementTooLong q.dialect.engine length q.dialect.maxStatementLength := by
  rcases error_of_insertMany htable hreference h with ⟨-, v, -, hliteral⟩ | ⟨sql, -, haccept⟩
  · exact .inl (Dialect.literal_eq_error (hliteral 0))
  · have hlimited : (Request.insertMany rows).isLimited = true := rfl
    rw [accept, if_pos hlimited] at haccept
    rcases bind_eq_error haccept with hcount | ⟨-, -, hstatement⟩
    · unfold checkParameters at hcount
      split at hcount
      · split at hcount
        · exact .inr (.inl ⟨_, (Except.error.inj hcount).symm⟩)
        · cases hcount
      · cases hcount
    · exact .inr (.inr ⟨_, (statement_eq_error hstatement).2⟩)

/-- Rows without a reference are refused before any value is bound. -/
theorem insertMany_of_reference_error (htable : q.table = some table)
    (hreference : Row.reference rows = .error e) : q.insertMany rows = ⟨[], 0, [], .error e⟩ := by
  have hdraft : q.insertManyDraft rows = .fail e := by
    rw [insertManyDraft, tablePiece, htable, hreference]
  unfold insertMany
  rw [hdraft]
  unfold play Draft.play
  cases q.mode <;> rfl

/-- An insert reports the row that the search for a reference reports. -/
theorem insertMany_mismatch_iff (htable : q.table = some table) :
    (q.insertMany rows).outcome = .error (.schemaMismatch index expected found) ↔
      Row.reference rows = .error (.schemaMismatch index expected found) := by
  cases hreference : Row.reference rows with
  | ok first =>
    refine ⟨fun h => ?_, nofun⟩
    rcases insertMany_eq_error htable hreference h with ⟨_, he⟩ | ⟨_, he⟩ | ⟨_, he⟩ <;> cases he
  | error e =>
    rw [insertMany_of_reference_error htable hreference]
    simp

/-- The batches of an insert report the row that the search for a reference reports: the rows of a
batch have a reference when all rows have. -/
theorem insertBatches_mismatch_iff (htable : q.table = some table) :
    q.insertBatches rows = .error (.schemaMismatch index expected found) ↔
      Row.reference rows = .error (.schemaMismatch index expected found) := by
  cases hreference : Row.reference rows with
  | ok first =>
    refine ⟨fun h => ?_, nofun⟩
    rw [insertBatches_eq hreference] at h
    obtain ⟨batch, hbatch, hfail⟩ := mapM_eq_error h
    obtain ⟨hne, -, hsubset⟩ := subset_of_mem_batches hbatch
    obtain ⟨head, hhead, -⟩ := Row.reference_of_subset hreference hne hsubset
    have hreported := (insertMany_mismatch_iff htable).mp hfail
    rw [hhead] at hreported
    cases hreported
  | error e =>
    rw [insertBatches, hreference]
    constructor
    · intro h
      rw [Except.error.inj h]
    · intro h
      rw [Except.error.inj h]
      rfl

/-- An insert of rows and the batches of that insert both report the first row whose columns are not
those of the row in front, by its place among all rows. They report one exactly when there is one,
and no value has been bound by then. -/
theorem mismatch_of_rows (htable : q.table = some table) (hcells : first.cells ≠ []) :
    ((∃ index expected found, Row.Reports (first :: rest) index expected found) ↔
      ∃ row ∈ first :: rest, row.names ≠ first.names) ∧
    ∀ index expected found,
      ((q.insertMany (first :: rest)).outcome = .error (.schemaMismatch index expected found) ↔
        Row.Reports (first :: rest) index expected found) ∧
      (q.insertBatches (first :: rest) = .error (.schemaMismatch index expected found) ↔
        Row.Reports (first :: rest) index expected found) ∧
      (Row.Reports (first :: rest) index expected found →
        (q.insertMany (first :: rest)).bound = []) := by
  refine ⟨Row.exists_reports_iff, fun index expected found => ⟨?_, ?_, fun hreports => ?_⟩⟩
  · rw [insertMany_mismatch_iff htable, Row.reference_mismatch_iff hcells]
  · rw [insertBatches_mismatch_iff htable, Row.reference_mismatch_iff hcells]
  · have hreference := (Row.reference_mismatch_iff hcells).mpr hreports
    rw [insertMany_of_reference_error htable hreference]

/-- Rows of which the first has a value without a literal, and the last has another column and comes
after as many rows as one insert holds. -/
def lateRows : List Row :=
  .ofCells [("k", .double .nan)] :: (List.replicate 1000 (.ofCells [("k", .int 7)]) ++
    [.ofCells [("j", .int 7)]])

/-- The last row is reported by its place among all rows, and the value without a literal is not. -/
theorem mismatch_of_rows_late :
    ({ narrow with mode := .inline } : Query).table = some "t" ∧
      (Row.ofCells [("k", .double .nan)]).cells ≠ [] ∧
      (({ narrow with mode := .inline } : Query).insertMany lateRows).outcome =
        .error (.schemaMismatch 1001 "k" "j") ∧
      ({ narrow with mode := .inline } : Query).insertBatches lateRows =
        .error (.schemaMismatch 1001 "k" "j") := by
  have hcells : (Row.ofCells [("k", .double .nan)]).cells ≠ [] := by decide
  have hcolumns : lateRows.map Row.names = List.replicate 1001 ["k"] ++ [["j"]] := by
    have hfirst : (Row.ofCells [("k", .double .nan)]).names = ["k"] := by decide
    have hnext : (Row.ofCells [("k", .int 7)]).names = ["k"] := by decide
    have hlast : (Row.ofCells [("j", .int 7)]).names = ["j"] := by decide
    have hmore : List.replicate 1001 ["k"] = ["k"] :: List.replicate 1000 ["k"] :=
      List.replicate_succ
    rw [lateRows, List.map_cons, List.map_append, List.map_replicate, List.map_singleton, hfirst,
      hnext, hlast, hmore, List.cons_append]
  have hlength : (List.replicate 1001 ["k"]).length = 1001 := List.length_replicate
  have hreports : Row.Reports lateRows 1001 "k" "j" := by
    refine ⟨["k"], ["j"], ⟨rfl, ?_, by decide, fun i hi => ?_⟩, rfl, rfl⟩
    · rw [hcolumns, List.getElem?_append_right hlength.le, hlength]
      rfl
    · rw [hcolumns, List.getElem?_append_left (hi.trans_eq hlength.symm), List.getElem?_replicate,
        if_pos hi]
  obtain ⟨hmany, hbatches, -⟩ :=
    (mismatch_of_rows (q := { narrow with mode := .inline }) rfl hcells).2 1001 "k" "j"
  exact ⟨rfl, hcells, hmany.mpr hreports, hbatches.mpr hreports⟩

end Query

end SqlRender
