import SqlRender.Proofs.Predicate.Modes
import SqlRender.Proofs.Query.BindLimit
import SqlRender.Proofs.Query.Placeholders
import SqlRender.Proofs.Query.Tuples

/-!
# Rows in batches

Rows that bind more values than a request may carry are inserted in batches. The batches are the
rows, one after the other, and all but the last hold the same number of rows. Each batch is the
insert of its rows, so it numbers its placeholders from the first. The size of a batch is taken from
all rows, and an insert takes the size of its own groups from the rows of its batch: the two agree,
so an engine that takes lists of tuples gets one insert with each batch, and a batch never binds too
much when the values of one row are not too many themselves.
-/

namespace SqlRender

/-- Pieces of a list: put together they are the list, none is empty, and all but the last have one
size. -/
structure Pieces {α : Type} (size : Nat) (xs : List α) (pieces : List (List α)) : Prop where
  flatten_eq : pieces.flatten = xs
  ne_nil : ∀ piece ∈ pieces, piece ≠ []
  length_eq : ∀ piece ∈ pieces.dropLast, piece.length = size
  length_le : ∀ piece ∈ pieces, piece.length ≤ size

/-- A list that is cut is cut into pieces. -/
theorem pieces_chunks {α : Type} (size : Nat) (xs : List α) :
    Pieces (size + 1) xs (chunks size xs) where
  flatten_eq := flatten_chunks size xs
  ne_nil piece hpiece := List.ne_nil_of_length_pos (length_of_mem_chunks hpiece).1
  length_le piece hpiece := (length_of_mem_chunks hpiece).2
  length_eq := by
    fun_induction chunks size xs with
    | case1 =>
      intro piece hpiece
      cases hpiece
    | case2 x rest ih =>
      intro piece hpiece
      cases hrest : chunks size (rest.drop size) with
      | nil =>
        rw [hrest] at hpiece
        cases hpiece
      | cons next others =>
        rw [hrest, List.dropLast_cons_cons, ← hrest] at hpiece
        rcases List.mem_cons.mp hpiece with rfl | hpiece
        · -- There is a next piece, so the first one is as long as a piece may be.
          have hlong : rest.drop size ≠ [] := by
            rintro hnil
            rw [hnil, chunks] at hrest
            cases hrest
          have hsize : size < rest.length := by
            by_contra h
            exact hlong (List.drop_eq_nil_of_le (Nat.le_of_not_lt h))
          rw [List.length_cons, List.length_take]
          omega
        · exact ih piece hpiece

/-- A list that is no longer than a piece is its only piece. -/
theorem chunks_eq_singleton {α : Type} {size : Nat} {xs : List α} (hne : xs ≠ [])
    (h : xs.length ≤ size + 1) : chunks size xs = [xs] := by
  cases xs with
  | nil => exact absurd rfl hne
  | cons x rest =>
    have hrest : rest.length ≤ size := by simpa using h
    rw [chunks, List.take_of_length_le hrest, List.drop_eq_nil_of_le hrest, chunks]

/-- Rows that all have the columns of the first one, of which there are some, have it for their
reference. -/
theorem Row.reference_of_names {first : Row} {rest : List Row} (hcells : first.cells ≠ [])
    (hnames : ∀ row ∈ first :: rest, row.names = first.names) :
    reference (first :: rest) = .ok first := by
  have hfind : (first :: rest).findIdx? (fun row => row.names != first.names) = none := by
    refine List.findIdx?_eq_none_iff.mpr fun row hrow => ?_
    simp [hnames row hrow]
  have hempty : first.cells.isEmpty = false := by simpa using hcells
  unfold reference
  dsimp only
  rw [hempty, if_neg (by decide), hfind]

/-- Some of the rows that have a reference have one of the same columns. -/
theorem Row.reference_of_subset {rows batch : List Row} {first : Row}
    (h : reference rows = .ok first) (hne : batch ≠ []) (hsubset : batch ⊆ rows) :
    ∃ head, reference batch = .ok head ∧ head.names = first.names := by
  obtain ⟨-, hcells, hnames⟩ := reference_eq_ok h
  cases batch with
  | nil => exact absurd rfl hne
  | cons head rest =>
    have hcolumns : ∀ row ∈ head :: rest, row.names = first.names := fun row hrow =>
      hnames row (hsubset hrow)
    have hhead := hcolumns head List.mem_cons_self
    refine ⟨head, reference_of_names ?_ fun row hrow => (hcolumns row hrow).trans hhead.symm, hhead⟩
    intro hnil
    rw [names, names, hnil] at hhead
    exact hcells (List.map_eq_nil_iff.mp hhead.symm)

/-- A row binds no more values than it has columns. -/
theorem Row.length_bound_le (row : Row) : row.bound.length ≤ row.names.length := by
  have hvalues : row.values.length = row.names.length := by
    rw [values, names, List.length_map, List.length_map]
  exact hvalues ▸ List.length_filter_le _ _

/-- A value without a literal cannot be rendered. -/
theorem Dialect.literal_eq_error {d : Dialect} {n : Nat} {v : Value} {e : Error}
    (h : d.literal n v = .error e) : ∃ cause, e = .unrenderable cause := by
  have hstamp : ∀ pattern written, d.stampLiteral n pattern written = .error e →
      ∃ cause, e = .unrenderable cause := by
    intro pattern written hwritten
    cases written with
    | some s => cases hwritten
    | none => exact ⟨_, (Except.error.inj hwritten).symm⟩
  cases v with
  | dateTime t => exact hstamp _ _ h
  | dateTimeOffset t => exact hstamp _ _ h
  | double x =>
    unfold Dialect.literal at h
    dsimp only at h
    split at h
    · cases h
    · exact ⟨_, (Except.error.inj h).symm⟩
  | _ => cases h

namespace Query

open Fragment

variable {q : Query} {f : Fragment} {table : String} {rows batch : List Row}
  {first : Row} {e : Error}

/-- The rows of a batch are capped like those of an insert of some number of rows. -/
theorem batchCap_eq (q : Query) (rows : List Row) (columns : Nat) :
    ∃ cap, q.batchCap rows columns = q.rowCap cap columns := by
  unfold batchCap
  split
  · exact ⟨_, rfl⟩
  · exact ⟨_, rfl⟩

/-- Rows are cut into pieces of the cap of a batch. -/
theorem pieces_cut (q : Query) (rows : List Row) (columns : Nat) :
    Pieces (q.batchCap rows columns) rows (cut (q.batchCap rows columns) rows) := by
  obtain ⟨cap, hcap⟩ := q.batchCap_eq rows columns
  have hpos := (q.rowCap_le cap columns).1
  rw [← hcap] at hpos
  have hpieces := pieces_chunks (q.batchCap rows columns - 1) rows
  rwa [Nat.sub_add_cancel hpos] at hpieces

/-- So many rows as a cap lets an insert hold, it lets an insert of just these rows hold. -/
theorem le_rowCap {cap columns count : Nat} (hpos : 1 ≤ count)
    (h : count ≤ q.rowCap cap columns) : count ≤ q.rowCap count columns := by
  unfold rowCap at h ⊢
  split
  · next limit hmode hlimit =>
    rw [hmode, hlimit] at h
    dsimp only at h
    generalize limit / max 1 columns = share at h ⊢
    omega
  · omega

/-- The rows of a batch are one group, where lists of tuples are taken. -/
theorem groups_of_batch {columns : Nat} (h : q.dialect.profile.multiInsert ≠ .transaction)
    (hne : batch ≠ []) (hlength : batch.length ≤ q.batchCap rows columns) :
    q.groups columns batch = [batch] := by
  unfold groups
  unfold batchCap at hlength
  cases hstyle : q.dialect.profile.multiInsert with
  | transaction => exact absurd hstyle h
  | valuesList cap =>
    rw [hstyle] at hlength
    have hgroup : batch.length ≤ q.rowCap (cap.getD batch.length) columns := by
      cases cap with
      | some cap => exact hlength
      | none => exact le_rowCap (List.length_pos_of_ne_nil hne) hlength
    exact chunks_eq_singleton hne (by omega)

/-- The rows of a batch bind no more values than the engine takes, when those of one row are not
more. -/
theorem takes_of_batch {reference : Row} (hreference : Row.reference rows = .ok reference)
    (hnames : ∀ row ∈ batch, row.names = reference.names)
    (hlength : batch.length ≤ q.batchCap rows reference.names.length)
    (htakes : q.Takes reference.names.length) :
    q.Takes (q.binding (.insertMany batch)).length := by
  intro limit hlimit
  unfold binding
  cases hmode : q.mode with
  | inline => exact Nat.zero_le limit
  | parameterized =>
    obtain ⟨cap, hcap⟩ := q.batchCap_eq rows reference.names.length
    have hshare := (q.rowCap_le cap reference.names.length).2.2 hmode limit hlimit
    have hcolumns := htakes limit hlimit
    have hcells : 1 ≤ reference.names.length := by
      rw [Row.names, List.length_map]
      exact List.length_pos_of_ne_nil (Row.reference_eq_ok hreference).2.1
    have hcount : (batch.flatMap Row.bound).length ≤ batch.length * reference.names.length := by
      rw [List.length_flatMap, ← Nat.nsmul_eq_mul, ← List.length_map (f := fun r => r.bound.length)]
      refine List.sum_le_card_nsmul _ _ (List.forall_mem_map.mpr fun row hrow => ?_)
      exact hnames row hrow ▸ row.length_bound_le
    have hproduct : batch.length * reference.names.length ≤ limit := by
      rw [← hcap, Nat.max_eq_right hcells] at hshare
      rcases le_max_iff.mp (hlength.trans hshare) with hone | hfits
      · exact (Nat.mul_le_mul_right _ hone).trans (by omega)
      · exact Nat.mul_le_of_le_div _ _ _ hfits
    simpa [carried, Request.rows, Request.isFiltered] using hcount.trans hproduct

/-- A fragment that cannot be played has a value without a literal, and it is to be written out. -/
theorem error_of_play (h : (q.play (Draft.ofFragment f)).outcome = .error e) :
    q.mode = .inline ∧ ∃ v ∈ f.slots, ∀ n, q.dialect.literal n v = .error e := by
  cases hplay : Draft.playError? q.dialect q.mode (Draft.ofFragment f).steps with
  | none =>
    obtain ⟨xs, -, hrender⟩ := Draft.render_of_playError? hplay (Draft.used_ofFragment f) 1
    have herror : f.render q.dialect q.mode 1 = .error e :=
      (Draft.outcome_play hplay).symm.trans h
    cases hrender.symm.trans herror
  | some e' =>
    cases hmode : q.mode with
    | parameterized =>
      rw [hmode] at hplay
      cases hplay
    | inline =>
      have he : e' = e := by simpa [play, Draft.play, hplay] using h
      rw [hmode] at hplay
      obtain ⟨step, hstep, herror⟩ := List.exists_of_findSome?_eq_some hplay
      obtain ⟨v, hv, rfl⟩ := List.mem_map.mp hstep
      exact ⟨rfl, v, hv, he ▸ Step.unwritable?_eq_some.mp herror⟩

/-- Rows with a reference are drafted as their inserts. -/
theorem insertManyDraft_eq (htable : q.table = some table)
    (hreference : Row.reference batch = .ok first) :
    q.insertManyDraft batch =
      .ofFragment (insertsFragment q.dialect.profile (q.inserts (.name table) first batch)) := by
  rw [insertManyDraft, tablePiece, htable, hreference]

/-- The batches of rows that have so many columns. -/
def batches (q : Query) (rows : List Row) (columns : Nat) : List (List Row) :=
  cut (q.batchCap rows columns) rows

/-- A statement is that of a batch: the insert of its rows and of no others, which numbers its
placeholders from the first and binds no more values than the engine takes. Where lists of tuples
are taken, it is one insert. -/
structure IsBatch (q : Query) (table : String) (columns : List String) (batch : List Row)
    (st : Statement) : Prop where
  outcome_eq : (q.insertMany batch).outcome = .ok st
  binds : q.mode = .parameterized → st.Binds q.dialect (batch.flatMap Row.bound)
  unbound : q.mode = .inline → st.params = []
  takes : q.Takes st.params.length
  alone : q.dialect.profile.multiInsert ≠ .transaction → ∃ tape,
    valueTexts q.dialect q.mode 1 (batch.flatMap Row.bound) = .ok tape ∧
      st.sql = insertText q.dialect table columns (deal (·.bound.length) entries batch tape)

/-- The reasons for which no batches are made of rows that bind few enough values each: a value
without a literal that is to be written out, or a batch whose text is longer than the engine
takes. -/
inductive BatchFailure (q : Query) (batches : List (List Row)) : Error → Prop
  | literal {batch : List Row} {v : Value} {cause : Unrenderable} (hmode : q.mode = .inline)
      (hbatch : batch ∈ batches) (hv : v ∈ batch.flatMap Row.bound)
      (hliteral : ∀ n, q.dialect.literal n v = .error (.unrenderable cause)) :
      BatchFailure q batches (.unrenderable cause)
  | length {batch : List Row} {sql : String} (hbatch : batch ∈ batches)
      (hplay : (q.play (q.insertManyDraft batch)).outcome = .ok sql)
      (hlength : q.dialect.maxStatementLength < sql.utf8ByteSize) :
      BatchFailure q batches (.statementTooLong q.dialect.engine sql.utf8ByteSize
        q.dialect.maxStatementLength)

/-- A batch has a row, and its rows are some of the rows and no more than its cap. -/
theorem subset_of_mem_batches {columns : Nat} (h : batch ∈ q.batches rows columns) :
    batch ≠ [] ∧ batch.length ≤ q.batchCap rows columns ∧ batch ⊆ rows := by
  have hpieces := q.pieces_cut rows columns
  refine ⟨hpieces.ne_nil batch h, hpieces.length_le batch h, fun row hrow => ?_⟩
  rw [← hpieces.flatten_eq]
  exact List.mem_flatten.mpr ⟨batch, h, hrow⟩

/-- A batch is drafted as one insert of its rows, where lists of tuples are taken. -/
theorem insertManyDraft_of_batch {reference : Row} (htable : q.table = some table)
    (hreference : Row.reference rows = .ok reference)
    (hbatch : batch ∈ q.batches rows reference.names.length)
    (hstyle : q.dialect.profile.multiInsert ≠ .transaction) :
    q.insertManyDraft batch =
      .ofFragment (insertFragment (.name table) (columnList reference) batch) := by
  obtain ⟨hne, hlength, hsubset⟩ := subset_of_mem_batches hbatch
  obtain ⟨first, hfirst, hnames⟩ := Row.reference_of_subset hreference hne hsubset
  have hcolumns : first.cells.length = reference.names.length := by
    rw [← hnames, Row.names, List.length_map]
  have hlist : columnList first = columnList reference := by
    rw [columnList, columnList, hnames]
  rw [insertManyDraft_eq htable hfirst, inserts_eq, hcolumns,
    groups_of_batch hstyle hne hlength, List.map_singleton, insertsFragment_alone hstyle, hlist]

/-- An insert of a batch is the statement of the batch. -/
theorem isBatch_of_insertMany {reference : Row} {st : Statement} (htable : q.table = some table)
    (hreference : Row.reference rows = .ok reference)
    (hbatch : batch ∈ q.batches rows reference.names.length)
    (h : (q.insertMany batch).outcome = .ok st) :
    q.IsBatch table reference.names batch st := by
  have hbuild : (q.build (.insertMany batch)).outcome = .ok st := h
  obtain ⟨f, hrenders⟩ := renders_of_build hbuild
  have hcarried : q.carried (.insertMany batch) = batch.flatMap Row.bound := List.append_nil _
  refine ⟨h, fun hmode => ?_, fun hmode => params_of_renders hrenders hmode, ?_, fun hstyle => ?_⟩
  · exact hcarried ▸ binds_of_renders hrenders hmode
  · rw [params_of_build hbuild, length_parameters]
    exact takes_of_build rfl hbuild
  · have hslots : f.slots = batch.flatMap Row.bound :=
      (drafts_of_outcome hrenders.outcome_eq).slots_eq.trans hcarried
    have hdraft := insertManyDraft_of_batch htable hreference hbatch hstyle
    have hf : insertFragment (.name table) (columnList reference) batch = f :=
      Except.ok.inj ((congrArg Draft.outcome hdraft).symm.trans hrenders.outcome_eq)
    have hrender := hrenders.render_eq
    rw [render_eq_fill, hslots] at hrender
    obtain ⟨tape, htape, hsql⟩ := map_eq_ok hrender
    exact ⟨tape, htape, by rw [hsql, ← hf, fill_insertFragment]⟩

/-- An insert of rows with a reference fails on a value without a literal that is to be written out,
or on a check of its statement. -/
theorem error_of_insertMany (htable : q.table = some table)
    (hreference : Row.reference batch = .ok first) (h : (q.insertMany batch).outcome = .error e) :
    (q.mode = .inline ∧
      ∃ v ∈ (insertsFragment q.dialect.profile (q.inserts (.name table) first batch)).slots,
        ∀ n, q.dialect.literal n v = .error e) ∨
      ∃ sql, (q.play (q.insertManyDraft batch)).outcome = .ok sql ∧
        q.accept (.insertMany batch) (q.play (q.insertManyDraft batch)).bound sql = .error e := by
  have hbuild : (q.build (.insertMany batch)).outcome = .error e := h
  rw [outcome_build] at hbuild
  rcases bind_eq_error hbuild with hplay | haccept
  · have hfail : (q.play (q.insertManyDraft batch)).outcome = .error e := hplay
    rw [insertManyDraft_eq htable hreference] at hfail
    exact .inl (error_of_play hfail)
  · exact .inr haccept

/-- An insert of a batch that fails does so for a reason of a batch. -/
theorem failure_of_insertMany {reference : Row} (htable : q.table = some table)
    (hreference : Row.reference rows = .ok reference) (htakes : q.Takes reference.names.length)
    (hbatch : batch ∈ q.batches rows reference.names.length)
    (h : (q.insertMany batch).outcome = .error e) :
    q.BatchFailure (q.batches rows reference.names.length) e := by
  obtain ⟨hne, hlength, hsubset⟩ := subset_of_mem_batches hbatch
  obtain ⟨first, hfirst, hnames⟩ := Row.reference_of_subset hreference hne hsubset
  have houtcome : (q.draft (.insertMany batch)).outcome =
      .ok (insertsFragment q.dialect.profile (q.inserts (.name table) first batch)) :=
    congrArg Draft.outcome (insertManyDraft_eq htable hfirst)
  rcases error_of_insertMany htable hfirst h with
    ⟨hmode, v, hv, hliteral⟩ | ⟨sql, hplay, haccept⟩
  · -- The values of the rows are written out, and one of them has no literal.
    obtain ⟨cause, rfl⟩ := Dialect.literal_eq_error (hliteral 0)
    rw [(drafts_of_outcome houtcome).slots_eq] at hv
    have hrow : v ∈ batch.flatMap Row.bound := by
      simpa [carried, Request.rows, Request.isFiltered] using hv
    exact .literal hmode hbatch hrow hliteral
  · -- The values are few enough, so the text is too long.
    have hcount := takes_of_batch hreference
      (fun row hrow => (Row.reference_eq_ok hreference).2.2 row (hsubset hrow)) hlength htakes
    have hchecked := checkParameters_eq_ok.mpr hcount
    have hlimited : (Request.insertMany batch).isLimited = true := rfl
    have hbound : (q.play (q.insertManyDraft batch)).bound = _ := bound_play houtcome
    rw [accept, if_pos hlimited, hbound, length_parameters, hchecked] at haccept
    obtain ⟨hover, rfl⟩ := statement_eq_error haccept
    exact .length hbatch hplay hover

/-- Rows with a reference are inserted batch by batch. -/
theorem insertBatches_eq {reference : Row} (hreference : Row.reference rows = .ok reference) :
    q.insertBatches rows =
      (q.batches rows reference.names.length).mapM fun batch => (q.insertMany batch).outcome := by
  have hcolumns : reference.names.length = reference.cells.length := List.length_map _
  rw [insertBatches, hreference, hcolumns]
  rfl

/-- The batches of an insert are the rows, cut into pieces of one size but for the last, and each
statement is that of its batch. Where one row does not bind more values than the engine takes, no
batch is refused for the number of its values: there are statements unless a value cannot be
written out or a text is too long. -/
theorem batches_of_rows {reference : Row} (htable : q.table = some table)
    (hreference : Row.reference rows = .ok reference) :
    Pieces (q.batchCap rows reference.names.length) rows
        (q.batches rows reference.names.length) ∧
      (∀ sts, q.insertBatches rows = .ok sts →
        List.Forall₂ (q.IsBatch table reference.names)
          (q.batches rows reference.names.length) sts) ∧
      (q.Takes reference.names.length → ∀ e, q.insertBatches rows = .error e →
        q.BatchFailure (q.batches rows reference.names.length) e) := by
  rw [insertBatches_eq hreference]
  refine ⟨q.pieces_cut rows _, fun sts hsts => ?_, fun htakes e he => ?_⟩
  · refine ((List.forall₂_and_left _ _).mpr ⟨fun _ => id, mapM_eq_ok.mp hsts⟩).imp ?_
    rintro batch st ⟨hbatch, hst⟩
    exact isBatch_of_insertMany htable hreference hbatch hst
  · obtain ⟨batch, hbatch, hfail⟩ := mapM_eq_error he
    exact failure_of_insertMany htable hreference htakes hbatch hfail

/-- A row is the reference of its copies. -/
theorem reference_longRows : Row.reference longRows = .ok (.ofCells [("k", .int 7)]) := by
  refine Row.reference_of_names (by decide) fun row hrow => ?_
  rw [← List.replicate_succ] at hrow
  rw [(List.mem_replicate.mp hrow).2]

/-- Too many values for one insert are inserted in three batches. -/
theorem batches_of_rows_longRows :
    narrow.table = some "t" ∧ Row.reference longRows = .ok (.ofCells [("k", .int 7)]) ∧
      (narrow.batches longRows 1).map List.length = [1000, 1000, 101] ∧
      ∃ sts, narrow.insertBatches longRows = .ok sts ∧
        List.Forall₂ (narrow.IsBatch "t" ["k"]) (narrow.batches longRows 1) sts := by
  obtain ⟨-, hbatches, hfailure⟩ := batches_of_rows (q := narrow) rfl reference_longRows
  refine ⟨rfl, reference_longRows, by decide +kernel, ?_⟩
  cases hinsert : narrow.insertBatches longRows with
  | ok sts => exact ⟨sts, rfl, hbatches sts hinsert⟩
  | error e =>
    have htakes : narrow.Takes 1 := by
      intro limit hlimit
      cases hlimit
      decide
    exfalso
    cases hfailure htakes e hinsert with
    | literal hmode => cases hmode
    | @length batch sql hbatch hplay hlength =>
      -- No placeholder of a batch has more than four digits, so its text is short.
      have hshort : ∀ batch ∈ narrow.batches longRows 1,
          (narrow.insertManyDraft batch).outcome.toOption.any fun f =>
            f.slots.length ≤ 1000 && f.bytes narrow.dialect ≤ 10000 := by
        decide +kernel
      obtain ⟨f, hf, hsize⟩ := (Option.any_eq_true _ _).mp (hshort batch hbatch)
      rw [Bool.and_eq_true, decide_eq_true_eq, decide_eq_true_eq] at hsize
      have hdrafted : (narrow.insertManyDraft batch).outcome = .ok f := eq_ok_of_toOption hf
      rw [outcome_play_bound rfl, hdrafted] at hplay
      have hsql : f.boundText narrow.dialect 1 = sql := Except.ok.inj hplay
      have hbytes : (f.boundText narrow.dialect 1).utf8ByteSize ≤
          f.bytes narrow.dialect + f.slots.length * (2 + 4) :=
        utf8ByteSize_boundText_le (by decide) (by omega)
      have hlimit : narrow.dialect.maxStatementLength = 268435456 := rfl
      rw [hsql] at hbytes
      omega

end Query

end SqlRender
