import SqlRender.Proofs.Paging
import SqlRender.Proofs.Predicate.Legible
import SqlRender.Proofs.Query.Request

/-!
# Rendered statements are legible

Every statement can be read piece by piece: its fixed words end or start with a break wherever a
name or a value stands beside them. Its slots hold the values that its request carries: those of
the rows, and behind them those of the filter where the statement has one.
-/

namespace SqlRender

/-- The values of the filter of a query. -/
def Query.filterValues (q : Query) : List Value :=
  (q.filter.map (·.boundValues q.dialect)).getD []

/-- The values that a request carries: those of its rows, row after row, and behind them those of
the filter. -/
def Query.carried (q : Query) (r : Request) : List Value :=
  r.rows.flatMap Row.bound ++ if r.isFiltered then q.filterValues else []

/-- What is known of the fragment that a request comes to: it is legible, and its slots hold the
values that its draft uses, which are those that the request carries. -/
structure Query.Drafts (q : Query) (r : Request) (f : Fragment) : Prop where
  legible : Fragment.Legible q.dialect.profile true f
  used_eq : (q.draft r).used = f.slots
  slots_eq : f.slots = q.carried r

/-- The words in front of the rows of a question for existence and behind them. -/
def ExistsStyle.words : ExistsStyle → String × String
  | caseWhen => ("SELECT CASE WHEN EXISTS (", ") THEN 1 ELSE 0 END AS ")
  | bare => ("SELECT EXISTS (", ") AS ")

namespace Query

open Fragment

variable {q : Query} {f : Fragment}

/-- The clause of a filter: what is kept of it, behind the keyword. -/
def whereClause (q : Query) : Fragment :=
  match q.filter.bind Predicate.kept with
  | some k => .text " WHERE " :: k.fragment q.dialect
  | none => []

/-- A filter is drafted as its clause. -/
theorem outcome_filterDraft {rows : Fragment} (h : q.filterDraft.outcome = .ok rows) :
    rows = q.whereClause ∧ q.filterDraft.used = q.whereClause.slots := by
  unfold filterDraft at h ⊢
  unfold whereClause
  cases hfilter : q.filter with
  | none =>
    rw [hfilter] at h
    cases h
    exact ⟨rfl, rfl⟩
  | some p =>
    rw [hfilter] at h
    obtain ⟨kept, hdraft, hrows, hused⟩ := Draft.outcome_bind_eq_ok h
    obtain ⟨rfl, hslots⟩ := Predicate.draft_eq_kept hdraft
    rw [Option.bind_some]
    cases hkept : p.kept with
    | none =>
      rw [hkept] at hrows hused hslots
      cases hrows
      refine ⟨rfl, ?_⟩
      simpa [hslots] using hused
    | some k =>
      rw [hkept] at hrows hused hslots
      cases hrows
      refine ⟨rfl, ?_⟩
      simpa [hslots] using hused

/-- The clause of a filter may follow anything, and holds the values of the filter. -/
theorem legible_whereClause (q : Query) :
    Legible q.dialect.profile false q.whereClause ∧ q.whereClause.slots = q.filterValues := by
  unfold whereClause filterValues
  cases q.filter with
  | none => exact ⟨trivial, rfl⟩
  | some p =>
    have hvalues := Predicate.values_kept q.dialect p
    rw [Option.bind_some]
    cases hkept : p.kept with
    | none =>
      rw [hkept] at hvalues
      exact ⟨trivial, hvalues⟩
    | some k =>
      rw [hkept] at hvalues
      refine ⟨legible_separator (by decide) k.legible_fragment.behindBreak, ?_⟩
      simpa [Kept.slots_fragment] using hvalues

/-- A statement with a filter has a table and the clause of the filter, and uses the values of
the clause where nothing else has values. -/
theorem outcome_withFilter {build : Piece → Fragment → Draft Fragment}
    (h : (q.withFilter build).outcome = .ok f)
    (hbuild : ∀ table rows, (build table rows).used = []) :
    ∃ table, q.table = some table ∧ (build (.name table) q.whereClause).outcome = .ok f ∧
      (q.withFilter build).used = q.whereClause.slots := by
  unfold withFilter tablePiece at h ⊢
  cases htable : q.table with
  | none =>
    rw [htable] at h
    cases h
  | some table =>
    rw [htable] at h
    obtain ⟨rows, hrows, houtcome, hused⟩ := Draft.outcome_bind_eq_ok h
    obtain ⟨rfl, hslots⟩ := outcome_filterDraft hrows
    refine ⟨table, rfl, houtcome, ?_⟩
    rw [hbuild, hslots, List.append_nil] at hused
    exact hused

/-- A fragment between the words of a statement and the clause of its filter. -/
theorem drafts_of_filter {r : Request} (hfiltered : r.isFiltered) (hrequest : r.rows = [])
    (hlegible : Legible q.dialect.profile true f) (hused : (q.draft r).used = q.whereClause.slots)
    (hslots : f.slots = q.whereClause.slots) : q.Drafts r f := by
  refine ⟨hlegible, hused.trans hslots.symm, ?_⟩
  rw [hslots, q.legible_whereClause.2, carried, hrequest, if_pos hfiltered]
  rfl

/-- The columns to select stand behind a break and hold no values. -/
theorem legible_projection (q : Query) :
    Legible q.dialect.profile true q.projection ∧ q.projection.slots = [] := by
  unfold projection
  split
  · exact ⟨⟨⟨Profile.readsPlainly_of_all rfl, .inl rfl⟩, trivial⟩, rfl⟩
  · refine ⟨legible_joined (by decide) fun g hg => ?_, ?_⟩
    · obtain ⟨column, -, rfl⟩ := List.mem_map.mp hg
      exact ⟨rfl, trivial⟩
    · rw [slots_joined, List.flatMap_map]
      exact List.flatMap_eq_nil_iff.mpr fun column _ => rfl

/-- The direction of an ordering behind its column may follow anything. -/
theorem legible_direction {p : Profile} (direction : Direction) :
    Legible p false [.text (" " ++ direction.keyword)] := by
  cases direction <;> exact legible_text (by decide) (by decide)

/-- The ordering may follow anything and holds no values. -/
theorem legible_orderFragment (q : Query) :
    Legible q.dialect.profile false q.orderFragment ∧ q.orderFragment.slots = [] := by
  unfold orderFragment
  split
  · exact ⟨trivial, rfl⟩
  · refine ⟨legible_separator (by decide) (legible_joined (by decide) fun g hg => ?_), ?_⟩
    · obtain ⟨order, -, rfl⟩ := List.mem_map.mp hg
      exact ⟨rfl, legible_direction order.direction⟩
    · rw [slots_text, slots_joined, List.flatMap_map]
      exact List.flatMap_eq_nil_iff.mpr fun order _ => rfl

/-- A table between words and the clause of a filter. -/
theorem legible_table {p : Profile} {words t : String} (hwords : IsSeparator words)
    {rows : Fragment} (hrows : Legible p false rows) :
    Legible p false (.text words :: .name t :: rows) :=
  legible_separator hwords ⟨rfl, hrows⟩

/-- The words of a window that stand in front of the columns. -/
def topFragment (paging : Paging) : Fragment :=
  match paging.top with
  | some words => [.text (words ++ " ")]
  | none => []

/-- A selection has a table and a window, and uses the values of the filter. -/
theorem outcome_selectDraft (h : q.selectDraft.outcome = .ok f) :
    ∃ table paging, q.table = some table ∧
      q.dialect.paging q.offset q.limit (!q.orders.isEmpty) = .ok paging ∧
      f = .text "SELECT " :: (topFragment paging ++ (q.projection ++ .text " FROM " ::
        .name table :: (q.whereClause ++ (q.orderFragment ++ [.text paging.suffix])))) ∧
      q.selectDraft.used = q.whereClause.slots := by
  obtain ⟨table, htable, hbuild, hused⟩ := outcome_withFilter h fun _ _ => by
    dsimp only
    split <;> rfl
  cases hpaging : q.dialect.paging q.offset q.limit (!q.orders.isEmpty) with
  | error e =>
    simp only [hpaging] at hbuild
    cases hbuild
  | ok paging =>
    simp only [hpaging] at hbuild
    cases hbuild
    refine ⟨table, paging, htable, rfl, ?_, hused⟩
    unfold topFragment
    cases paging.top <;> simp

/-- The fragment of a selection. -/
theorem drafts_select (h : q.selectDraft.outcome = .ok f) : q.Drafts .select f := by
  obtain ⟨table, paging, -, hpaging, rfl, hused⟩ := outcome_selectDraft h
  obtain ⟨hlegible, -⟩ := q.legible_whereClause
  obtain ⟨hprojection, hcolumns⟩ := q.legible_projection
  obtain ⟨horder, hkeys⟩ := q.legible_orderFragment
  obtain ⟨htop, hsuffix⟩ := Dialect.paging_eq_ok hpaging
  have hend : Legible q.dialect.profile false [.text paging.suffix] :=
    ⟨⟨hsuffix.1, .inr hsuffix.2⟩, trivial⟩
  have hrows := hlegible.append (horder.append hend)
  have hkeyword : IsSeparator " FROM " := by decide
  have hfrom := hprojection.append (legible_table (t := table) hkeyword hrows)
  unfold topFragment
  refine drafts_of_filter rfl rfl ?_ hused ?_
  · cases hwords : paging.top with
    | none => exact legible_lead (by decide) hfrom
    | some words => exact legible_lead (by decide) (legible_lead (htop words hwords) hfrom)
  · cases paging.top <;> simp [hcolumns, hkeys]

/-- The fragment of a deletion. -/
theorem drafts_delete (h : q.deleteDraft.outcome = .ok f) : q.Drafts .delete f := by
  obtain ⟨table, -, hbuild, hused⟩ := outcome_withFilter h fun _ _ => rfl
  obtain ⟨hlegible, -⟩ := q.legible_whereClause
  cases hbuild
  exact drafts_of_filter rfl rfl (legible_lead (by decide) ⟨rfl, hlegible⟩) hused
    rfl

/-- A question for existence has a table, and uses the values of the filter. -/
theorem outcome_existsDraft {label : String} (h : (q.existsDraft label).outcome = .ok f) :
    ∃ table, q.table = some table ∧
      f = .text q.dialect.profile.existence.words.1 :: .text "SELECT 1 FROM " :: .name table ::
        (q.whereClause ++ [.text q.dialect.profile.existence.words.2, .name label]) ∧
      (q.existsDraft label).used = q.whereClause.slots := by
  obtain ⟨table, htable, hbuild, hused⟩ := outcome_withFilter h fun _ _ => by
    dsimp only
    split <;> rfl
  refine ⟨table, htable, ?_, hused⟩
  cases hstyle : q.dialect.profile.existence with
  | caseWhen =>
    simp only [hstyle] at hbuild
    exact (Except.ok.inj hbuild).symm
  | bare =>
    simp only [hstyle] at hbuild
    exact (Except.ok.inj hbuild).symm

/-- The fragment of a question for existence. -/
theorem drafts_exists {label : String} (h : (q.existsDraft label).outcome = .ok f) :
    q.Drafts (.exists_ label) f := by
  obtain ⟨table, -, rfl, hused⟩ := outcome_existsDraft h
  obtain ⟨hlegible, -⟩ := q.legible_whereClause
  have hfront : IsLead q.dialect.profile.existence.words.1 := by
    cases q.dialect.profile.existence <;> decide
  have hback : IsSeparator q.dialect.profile.existence.words.2 := by
    cases q.dialect.profile.existence <;> decide
  have hlabel : Legible q.dialect.profile true [.name label] := ⟨rfl, trivial⟩
  have hrows := hlegible.append (legible_separator hback hlabel)
  exact drafts_of_filter rfl rfl
    (legible_lead hfront (legible_lead (by decide) ⟨rfl, hrows⟩)) hused (by simp)

/-- The fragment of a count. -/
theorem drafts_count {label : String} (h : (q.countDraft label).outcome = .ok f) :
    q.Drafts (.count label) f := by
  obtain ⟨table, -, hbuild, hused⟩ := outcome_withFilter h fun _ _ => rfl
  obtain ⟨hlegible, -⟩ := q.legible_whereClause
  cases hbuild
  exact drafts_of_filter rfl rfl
    (legible_lead (by decide) ⟨rfl, legible_table (by decide) hlegible⟩) hused rfl

/-- The fragment of a sum. -/
theorem drafts_sum {field label : String} (h : (q.sumDraft field label).outcome = .ok f) :
    q.Drafts (.sum field label) f := by
  obtain ⟨table, -, hbuild, hused⟩ := outcome_withFilter h fun _ _ => rfl
  obtain ⟨hlegible, -⟩ := q.legible_whereClause
  cases hbuild
  have hlabel : Legible q.dialect.profile false
      (.text ") AS " :: .name label :: .text " FROM " :: .name table :: q.whereClause) :=
    legible_separator (by decide) ⟨rfl, legible_table (by decide) hlegible⟩
  exact drafts_of_filter rfl rfl (legible_lead (by decide) ⟨rfl, hlabel⟩)
    hused rfl

/-- The fragment of a value is legible behind a break. -/
theorem legible_ofValue {p : Profile} (v : Value) : Legible p true (ofValue v) := by
  unfold ofValue
  split
  · exact ⟨⟨Profile.readsPlainly_of_all (by decide), .inl rfl⟩, trivial⟩
  · exact ⟨rfl, trivial⟩

/-- The columns of a row hold no values. -/
theorem slots_columnList (row : Row) : (columnList row).slots = [] := by
  rw [columnList, slots_joined, List.flatMap_map]
  exact List.flatMap_eq_nil_iff.mpr fun name _ => rfl

/-- The columns of a row are legible behind a break. -/
theorem legible_columnList {p : Profile} (row : Row) : Legible p true (columnList row) := by
  refine legible_joined (by decide) fun g hg => ?_
  obtain ⟨name, -, rfl⟩ := List.mem_map.mp hg
  exact ⟨rfl, trivial⟩

/-- The tuple of a row holds the values that the row binds. -/
theorem slots_tuple (row : Row) : (tuple row).slots = row.bound := by
  rw [tuple, List.cons_append, slots_text, slots_append, slots_joined, List.flatMap_map,
    flatMap_slots_ofValue, slots_text, slots_nil, List.append_nil]
  rfl

/-- The tuple of a row is legible behind a break. -/
theorem legible_tuple {p : Profile} (row : Row) : Legible p true (tuple row) := by
  have hvalues : Legible p true (joined ", " (row.values.map ofValue)) := by
    refine legible_joined (by decide) fun g hg => ?_
    obtain ⟨v, -, rfl⟩ := List.mem_map.mp hg
    exact legible_ofValue v
  exact legible_lead (by decide) (hvalues.append (legible_text rfl rfl))

/-- An insert holds the values of its rows. -/
theorem slots_insertFragment (table : String) (reference : Row) (rows : List Row) :
    (insertFragment (.name table) (columnList reference) rows).slots = rows.flatMap Row.bound := by
  simp only [insertFragment, List.cons_append, slots_text, slots_name, slots_append,
    slots_columnList, slots_joined, List.flatMap_map, slots_tuple, List.nil_append]

/-- An insert is legible behind a break. -/
theorem legible_insertFragment {p : Profile} (table : String) (reference : Row) (rows : List Row) :
    Legible p true (insertFragment (.name table) (columnList reference) rows) := by
  have htuples : Legible p true (joined ", " (rows.map tuple)) := by
    refine legible_joined (by decide) fun g hg => ?_
    obtain ⟨row, -, rfl⟩ := List.mem_map.mp hg
    exact legible_tuple row
  have hkeyword : IsSeparator ") VALUES " := by decide
  have hopening : IsSeparator " (" := by decide
  have hvalues := (legible_columnList reference).append (legible_separator hkeyword htuples)
  exact legible_lead (by decide) ⟨rfl, legible_separator hopening hvalues⟩

/-- Inserts inside a transaction are legible and hold the values of the inserts. -/
theorem legible_inTransaction {e : Engine} {inserts : List Fragment}
    (h : ∀ insert ∈ inserts, Legible e.profile true insert) :
    Legible e.profile true (inTransaction e.profile inserts) ∧
      (inTransaction e.profile inserts).slots = inserts.flatMap slots := by
  have hbegin : IsLead (e.profile.beginTransaction ++ " ") := by cases e <;> decide
  have hcommit : Legible e.profile false [.text ("; " ++ e.profile.commitTransaction)] := by
    cases e <;> exact legible_text (by decide) (by decide)
  refine ⟨legible_lead hbegin ((legible_joined (by decide) h).append hcommit), ?_⟩
  simp only [inTransaction, List.cons_append, slots_text, slots_append, slots_joined, slots_nil,
    List.append_nil]

/-- The inserts of one statement are legible and hold the values of the inserts. -/
theorem legible_insertsFragment {e : Engine} {inserts : List Fragment}
    (h : ∀ insert ∈ inserts, Legible e.profile true insert) :
    Legible e.profile true (insertsFragment e.profile inserts) ∧
      (insertsFragment e.profile inserts).slots = inserts.flatMap slots := by
  unfold insertsFragment
  split
  · next only _ => exact ⟨h only List.mem_cons_self, by simp⟩
  · exact legible_inTransaction h

/-- Every insert of many rows is legible, and together they hold the values of the rows. -/
theorem legible_inserts (q : Query) (table : String) (reference : Row) (rows : List Row) :
    (∀ insert ∈ q.inserts (.name table) reference rows, Legible q.dialect.profile true insert) ∧
      (q.inserts (.name table) reference rows).flatMap slots = rows.flatMap Row.bound := by
  rw [inserts_eq]
  refine ⟨fun insert hinsert => ?_, ?_⟩
  · obtain ⟨group, -, rfl⟩ := List.mem_map.mp hinsert
    exact legible_insertFragment table reference group
  · simp only [List.flatMap_map, slots_insertFragment]
    rw [← List.flatMap_assoc, List.flatMap_id', flatten_groups]

/-- A fragment without a filter. -/
theorem drafts_of_rows {r : Request} (hfiltered : r.isFiltered = false)
    (hlegible : Legible q.dialect.profile true f) (hused : (q.draft r).used = f.slots)
    (hslots : f.slots = r.rows.flatMap Row.bound) : q.Drafts r f := by
  refine ⟨hlegible, hused, ?_⟩
  rw [hslots, carried, hfiltered, if_neg (by decide), List.append_nil]

/-- An insert has a table, and its draft is its fragment. -/
theorem outcome_insertDraft {row : Row} (h : (q.insertDraft row).outcome = .ok f) :
    ∃ table, q.table = some table ∧ f = insertFragment (.name table) (columnList row) [row] ∧
      (q.insertDraft row).used = f.slots := by
  unfold insertDraft tablePiece at h ⊢
  cases htable : q.table with
  | none =>
    rw [htable] at h
    cases h
  | some table =>
    rw [htable] at h
    dsimp only at h ⊢
    split at h
    · cases h
    · next hcells =>
      rw [if_neg hcells]
      cases h
      exact ⟨table, rfl, rfl, Draft.used_ofFragment _⟩

/-- An insert of many rows has a table and a first row, and its draft is its fragment. -/
theorem outcome_insertManyDraft {rows : List Row} (h : (q.insertManyDraft rows).outcome = .ok f) :
    ∃ table reference, q.table = some table ∧ Row.reference rows = .ok reference ∧
      f = insertsFragment q.dialect.profile (q.inserts (.name table) reference rows) ∧
      (q.insertManyDraft rows).used = f.slots := by
  unfold insertManyDraft tablePiece at h ⊢
  cases htable : q.table with
  | none =>
    rw [htable] at h
    cases h
  | some table =>
    cases hreference : Row.reference rows with
    | error e =>
      rw [htable, hreference] at h
      cases h
    | ok reference =>
      rw [htable, hreference] at h
      cases h
      exact ⟨table, reference, rfl, rfl, rfl, Draft.used_ofFragment _⟩

/-- The assignments of the values of a row to its columns. -/
def assignments (row : Row) : Fragment :=
  joined ", " (row.cells.map fun (column, v) => .name column :: .text " = " :: ofValue v)

/-- An update has a table and the clause of the filter, and uses the values of the row before
those of the filter. -/
theorem outcome_updateDraft {row : Row} (h : (q.updateDraft row).outcome = .ok f) :
    ∃ table, q.table = some table ∧
      f = .text "UPDATE " :: .name table :: .text " SET " :: assignments row ++ q.whereClause ∧
      (q.updateDraft row).used = f.slots := by
  unfold updateDraft tablePiece at h ⊢
  cases htable : q.table with
  | none =>
    rw [htable] at h
    cases h
  | some table =>
    rw [htable] at h
    dsimp only at h ⊢
    split at h
    · cases h
    · next hcells =>
      rw [if_neg hcells]
      obtain ⟨set, hset, hrest, husedSet⟩ := Draft.outcome_bind_eq_ok h
      obtain ⟨rows, hrows, houtcome, husedRows⟩ := Draft.outcome_bind_eq_ok hrest
      obtain ⟨rfl, hslots⟩ := outcome_filterDraft hrows
      cases hset
      cases houtcome
      refine ⟨table, rfl, rfl, husedSet.trans ?_⟩
      rw [husedRows, hslots, Draft.used_ofFragment]
      simp

/-- The fragment of an insert. -/
theorem drafts_insert {row : Row} (h : (q.insertDraft row).outcome = .ok f) :
    q.Drafts (.insert row) f := by
  obtain ⟨table, -, rfl, hused⟩ := outcome_insertDraft h
  exact drafts_of_rows rfl (legible_insertFragment table row [row]) hused
    (slots_insertFragment table row [row])

/-- The fragment of an insert of many rows. -/
theorem drafts_insertMany {rows : List Row} (h : (q.insertManyDraft rows).outcome = .ok f) :
    q.Drafts (.insertMany rows) f := by
  obtain ⟨table, reference, -, -, rfl, hused⟩ := outcome_insertManyDraft h
  obtain ⟨hinserts, hvalues⟩ := q.legible_inserts table reference rows
  obtain ⟨hlegible, hslots⟩ := legible_insertsFragment (e := q.dialect.engine) hinserts
  exact drafts_of_rows rfl hlegible hused (hslots.trans hvalues)

/-- The assignments of a row are legible behind a break and hold the values of the row. -/
theorem legible_assignments {p : Profile} (row : Row) :
    Legible p true (assignments row) ∧ (assignments row).slots = row.bound := by
  refine ⟨legible_joined (by decide) fun g hg => ?_, ?_⟩
  · obtain ⟨⟨column, v⟩, -, rfl⟩ := List.mem_map.mp hg
    exact ⟨rfl, legible_separator (by decide) (legible_ofValue v)⟩
  · rw [assignments, slots_joined, List.flatMap_map, Row.bound, ← flatMap_slots_ofValue,
      Row.values, List.flatMap_map]
    rfl

/-- The fragment of an update. -/
theorem drafts_update {row : Row} (h : (q.updateDraft row).outcome = .ok f) :
    q.Drafts (.update row) f := by
  obtain ⟨table, -, rfl, hused⟩ := outcome_updateDraft h
  obtain ⟨hassignments, hvalues⟩ := legible_assignments (p := q.dialect.profile) row
  obtain ⟨hlegible, hfilter⟩ := q.legible_whereClause
  have hset : Legible q.dialect.profile false
      (.text " SET " :: (assignments row ++ q.whereClause)) :=
    legible_separator (by decide) (hassignments.append hlegible)
  refine ⟨legible_lead (by decide) ⟨rfl, hset⟩, hused, ?_⟩
  simp [carried, Request.rows, Request.isFiltered, hvalues, hfilter]

/-- A removal of all rows has a table and no filter. -/
theorem outcome_truncateDraft (h : q.truncateDraft.outcome = .ok f) :
    ∃ table, q.table = some table ∧
      f = [.text (q.dialect.profile.truncate ++ " "), .name table] ∧
      q.truncateDraft.used = f.slots := by
  unfold truncateDraft tablePiece at h ⊢
  cases htable : q.table with
  | none =>
    rw [htable] at h
    cases h
  | some table =>
    rw [htable] at h
    cases h
    exact ⟨table, rfl, rfl, rfl⟩

/-- The fragment of a removal of all rows. -/
theorem drafts_truncate (h : q.truncateDraft.outcome = .ok f) : q.Drafts .truncate f := by
  have hlead : IsLead (q.dialect.profile.truncate ++ " ") := by
    rw [Dialect.profile]
    cases q.dialect.engine <;> decide
  obtain ⟨table, -, rfl, hused⟩ := outcome_truncateDraft h
  exact ⟨legible_lead hlead ⟨rfl, trivial⟩, hused, rfl⟩

/-- The fragment that a request comes to is legible and holds the values that it carries. -/
theorem drafts_of_outcome {r : Request} (h : (q.draft r).outcome = .ok f) : q.Drafts r f := by
  cases r with
  | select => exact drafts_select h
  | insert row => exact drafts_insert h
  | insertMany rows => exact drafts_insertMany h
  | update row => exact drafts_update h
  | delete => exact drafts_delete h
  | exists_ label => exact drafts_exists h
  | count label => exact drafts_count h
  | sum field label => exact drafts_sum h
  | truncate => exact drafts_truncate h

end Query

end SqlRender
