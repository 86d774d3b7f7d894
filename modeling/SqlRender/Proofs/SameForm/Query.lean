import SqlRender.Proofs.Query.Legible
import SqlRender.Proofs.SameForm.Predicate

/-!
# Queries of the same form are drafted alike

Two uses of a query have the same form when they differ in values only: their filters have the same
form, and their rows have the same columns and are null at the same places. Then their drafts end
alike: both fail, or both come to fragments that are equal but for their values. Every decision on
the way (to drop a leaf, to skip a null, to cut rows into inserts) is taken on the form.
-/

namespace SqlRender

/-- Rows with the same columns that are null at the same places. -/
def Row.SameForm (r s : Row) : Prop :=
  List.Forall₂ (fun c e => c.1 = e.1 ∧ c.2.isNull = e.2.isNull) r.cells s.cells

/-- Queries that differ in the values of their filters only. -/
structure Query.SameForm (q q' : Query) : Prop where
  dialect_eq : q.dialect = q'.dialect
  mode_eq : q.mode = q'.mode
  table_eq : q.table = q'.table
  columns_eq : q.columns = q'.columns
  filter : Option.Rel Predicate.SameForm q.filter q'.filter
  orders_eq : q.orders = q'.orders
  offset_eq : q.offset = q'.offset
  limit_eq : q.limit = q'.limit

/-- Requests that differ in the values of their rows only. -/
inductive Request.SameForm : Request → Request → Prop
  | select : SameForm .select .select
  | insert {r s : Row} (h : r.SameForm s) : SameForm (.insert r) (.insert s)
  | insertMany {rs ss : List Row} (h : List.Forall₂ Row.SameForm rs ss) :
    SameForm (.insertMany rs) (.insertMany ss)
  | update {r s : Row} (h : r.SameForm s) : SameForm (.update r) (.update s)
  | delete : SameForm .delete .delete
  | exists_ (label : String) : SameForm (.exists_ label) (.exists_ label)
  | count (label : String) : SameForm (.count label) (.count label)
  | sum (field label : String) : SameForm (.sum field label) (.sum field label)
  | truncate : SameForm .truncate .truncate

/-- Terminals that differ in the values of their rows only. -/
inductive Terminal.SameForm : Terminal → Terminal → Prop
  | statement {r s : Request} (h : r.SameForm s) : SameForm (.statement r) (.statement s)
  | insertBatches {rs ss : List Row} (h : List.Forall₂ Row.SameForm rs ss) :
    SameForm (.insertBatches rs) (.insertBatches ss)

/-- Statements with the same text and the same placeholders. -/
def Statement.SameText (st st' : Statement) : Prop :=
  st.sql = st'.sql ∧ st.params.map (·.placeholder) = st'.params.map (·.placeholder)

namespace Row

variable {r s : Row}

/-- Rows of the same form have the same columns. -/
theorem SameForm.names_eq (h : r.SameForm s) : r.names = s.names := by
  rw [names, names, ← List.forall₂_eq_eq_eq, List.forall₂_map_left_iff, List.forall₂_map_right_iff]
  exact h.imp fun _ _ hcell => hcell.1

/-- The first rows of rows of the same form have the same form, and they are missing together. -/
theorem sameEnd_reference {rs ss : List Row} (h : List.Forall₂ SameForm rs ss) :
    SameEnd SameForm (reference rs) (reference ss) := by
  have hnames : rs.map names = ss.map names := by
    rw [← List.forall₂_eq_eq_eq, List.forall₂_map_left_iff, List.forall₂_map_right_iff]
    exact h.imp fun _ _ => SameForm.names_eq
  have hfind : ∀ names' : List String, rs.findIdx? (fun r => r.names != names') =
      ss.findIdx? (fun s => s.names != names') := by
    intro names'
    have hmap : ∀ rows : List Row, rows.findIdx? (fun r => r.names != names') =
        (rows.map names).findIdx? (· != names') := by
      intro rows
      rw [List.findIdx?_map]
      rfl
    rw [hmap, hmap, hnames]
  cases h with
  | nil => exact .error _ _
  | @cons r s rest rest' hrow hrest =>
    unfold reference
    dsimp only
    rw [isEmpty_of_forall₂ hrow]
    split
    · exact .error _ _
    · rw [hfind, hrow.names_eq]
      cases (s :: rest').findIdx? fun row => row.names != s.names with
      | none => exact .ok hrow
      | some index => exact .error _ _

end Row

namespace Query

open Fragment

variable {q q' : Query}

/-- Two drafts of a statement that end alike: both in an error, or in fragments that are equal but
for their values. -/
abbrev SameDraft (x y : Draft Fragment) : Prop :=
  SameEnd (fun f g => f.blank = g.blank) x.outcome y.outcome

/-- Filters of the same form are drafted alike. -/
theorem SameForm.filterDraft (h : q.SameForm q') : SameDraft q.filterDraft q'.filterDraft := by
  have hfilter := h.filter
  unfold Query.filterDraft
  rw [← h.dialect_eq]
  generalize q.filter = p at hfilter ⊢
  generalize q'.filter = p' at hfilter ⊢
  cases hfilter with
  | none => exact .ok rfl
  | some hform =>
    simp only [SameDraft, Draft.outcome_bind]
    refine hform.draft.bind fun f g hfg => ?_
    cases f with
    | none =>
      cases g with
      | none => exact .ok rfl
      | some g => cases hfg
    | some f =>
      cases g with
      | none => cases hfg
      | some g => exact .ok (congrArg (Piece.text " WHERE " :: ·) (Option.some.inj hfg))

/-- Queries of the same form have the same table. -/
theorem SameForm.tablePiece_eq (h : q.SameForm q') : q.tablePiece = q'.tablePiece := by
  rw [tablePiece, tablePiece, h.table_eq]

/-- What is built alike on a table and on filters of the same form is drafted alike. -/
theorem SameForm.withFilter (h : q.SameForm q') {build build' : Piece → Fragment → Draft Fragment}
    (hbuild : ∀ table rows rows', blank rows = blank rows' →
      SameDraft (build table rows) (build' table rows')) :
    SameDraft (q.withFilter build) (q'.withFilter build') := by
  unfold Query.withFilter
  rw [h.tablePiece_eq]
  cases q'.tablePiece with
  | error e => exact .error _ _
  | ok table =>
    simp only [SameDraft, Draft.outcome_bind]
    exact h.filterDraft.bind fun rows rows' => hbuild table rows rows'

/-- Selections of the same form are drafted alike. -/
theorem SameForm.selectDraft (h : q.SameForm q') : SameDraft q.selectDraft q'.selectDraft := by
  refine h.withFilter fun table rows rows' hrows => ?_
  dsimp only
  rw [projection, projection, orderFragment, orderFragment, h.dialect_eq, h.columns_eq,
    h.orders_eq, h.offset_eq, h.limit_eq]
  cases q'.dialect.paging q'.offset q'.limit (!q'.orders.isEmpty) with
  | error e => exact .error _ _
  | ok paging => exact .ok (by simp only [List.cons_append, blank_cons, blank_append, hrows])

/-- Questions for existence of the same form are drafted alike. -/
theorem SameForm.existsDraft (h : q.SameForm q') (label : String) :
    SameDraft (q.existsDraft label) (q'.existsDraft label) := by
  refine h.withFilter fun table rows rows' hrows => ?_
  dsimp only
  rw [h.dialect_eq]
  split <;> exact .ok (by simp only [List.cons_append, blank_cons, blank_append, hrows])

/-- The tuples of rows of the same form are equal but for their values. -/
theorem blank_tuple {r s : Row} (h : r.SameForm s) : blank (tuple r) = blank (tuple s) := by
  have hvalues : List.Forall₂ (fun v w : Value => v.isNull = w.isNull) r.values s.values := by
    rw [Row.values, Row.values, List.forall₂_map_left_iff, List.forall₂_map_right_iff]
    exact h.imp fun _ _ hcell => hcell.2
  simp only [tuple, List.cons_append, blank_cons, blank_append,
    blank_joined_map ", " hvalues fun _ _ => blank_ofValue]

/-- The assignments of rows of the same form are equal but for their values. -/
theorem blank_assignments {r s : Row} (h : r.SameForm s) :
    blank (assignments r) = blank (assignments s) := by
  refine blank_joined_map ", " h ?_
  rintro ⟨a, v⟩ ⟨b, w⟩ ⟨hname, hnull⟩
  dsimp only at hname hnull ⊢
  rw [hname, blank_cons, blank_cons, blank_cons, blank_cons, blank_ofValue hnull]

/-- Inserts of rows of the same form are equal but for their values. -/
theorem blank_insertFragment (table : Piece) {r s : Row} (h : r.SameForm s) {rs ss : List Row}
    (hrows : List.Forall₂ Row.SameForm rs ss) :
    blank (insertFragment table (columnList r) rs) =
      blank (insertFragment table (columnList s) ss) := by
  simp only [insertFragment, columnList, h.names_eq, List.cons_append, blank_cons, blank_append,
    blank_joined_map ", " hrows fun _ _ => blank_tuple]

/-- The inserts of rows of the same form are equal but for their values. -/
theorem SameForm.blank_inserts (h : q.SameForm q') (table : Piece) {r s : Row}
    (hreference : r.SameForm s) {rs ss : List Row} (hrows : List.Forall₂ Row.SameForm rs ss) :
    (q.inserts table r rs).map blank = (q'.inserts table s ss).map blank := by
  have hcells : r.cells.length = s.cells.length := List.Forall₂.length_eq hreference
  rw [inserts_eq, inserts_eq, hcells, ← List.forall₂_eq_eq_eq]
  simp only [List.forall₂_map_left_iff, List.forall₂_map_right_iff]
  exact (forall₂_groups h.mode_eq h.dialect_eq _ hrows).imp fun _ _ =>
    blank_insertFragment table hreference

/-- Inserts are put together without a look at their values. -/
theorem blank_insertsFragment (p : Profile) (inserts : List Fragment) :
    blank (insertsFragment p inserts) = insertsFragment p (inserts.map blank) := by
  have htransaction : blank (inTransaction p inserts) = inTransaction p (inserts.map blank) := by
    simp only [inTransaction, List.cons_append, blank_cons, blank_append, blank_joined, blank_nil,
      Piece.blank_text]
  unfold insertsFragment
  cases p.multiInsert with
  | transaction => exact htransaction
  | valuesList cap =>
    cases inserts with
    | nil => exact htransaction
    | cons only rest =>
      cases rest with
      | nil => rfl
      | cons next rest => exact htransaction

/-- Inserts of rows of the same form are drafted alike. -/
theorem SameForm.insertDraft (h : q.SameForm q') {r s : Row} (hrow : r.SameForm s) :
    SameDraft (q.insertDraft r) (q'.insertDraft s) := by
  unfold Query.insertDraft
  rw [h.tablePiece_eq, isEmpty_of_forall₂ hrow]
  cases q'.tablePiece with
  | error e => exact .error _ _
  | ok table =>
    dsimp only
    split
    · exact .error _ _
    · exact .ok (blank_insertFragment table hrow (.cons hrow .nil))

/-- Inserts of many rows of the same form are drafted alike. -/
theorem SameForm.insertManyDraft (h : q.SameForm q') {rs ss : List Row}
    (hrows : List.Forall₂ Row.SameForm rs ss) :
    SameDraft (q.insertManyDraft rs) (q'.insertManyDraft ss) := by
  have hreference := Row.sameEnd_reference hrows
  unfold Query.insertManyDraft
  rw [h.tablePiece_eq]
  cases q'.tablePiece with
  | error e => exact .error _ _
  | ok table =>
    generalize Row.reference rs = first at hreference ⊢
    generalize Row.reference ss = first' at hreference ⊢
    cases hreference with
    | error e e' => exact .error _ _
    | ok hfirst =>
      refine .ok ?_
      rw [blank_insertsFragment, blank_insertsFragment, h.blank_inserts table hfirst hrows,
        h.dialect_eq]

/-- Updates with rows of the same form are drafted alike. -/
theorem SameForm.updateDraft (h : q.SameForm q') {r s : Row} (hrow : r.SameForm s) :
    SameDraft (q.updateDraft r) (q'.updateDraft s) := by
  unfold Query.updateDraft
  rw [h.tablePiece_eq, isEmpty_of_forall₂ hrow]
  cases q'.tablePiece with
  | error e => exact .error _ _
  | ok table =>
    dsimp only
    split
    · exact .error _ _
    · have hassignments : SameDraft (Draft.ofFragment (assignments r))
          (Draft.ofFragment (assignments s)) := .ok (blank_assignments hrow)
      simp only [SameDraft, Draft.outcome_bind]
      refine hassignments.bind fun set set' hset => ?_
      refine h.filterDraft.bind fun rows rows' hwhere => .ok ?_
      simp only [List.cons_append, blank_cons, blank_append, hset, hwhere]

/-- Requests of the same form are drafted alike. -/
theorem SameForm.draft (h : q.SameForm q') {r s : Request} (hr : r.SameForm s) :
    SameDraft (q.draft r) (q'.draft s) := by
  cases hr with
  | select => exact h.selectDraft
  | insert hrow => exact h.insertDraft hrow
  | insertMany hrows => exact h.insertManyDraft hrows
  | update hrow => exact h.updateDraft hrow
  | exists_ label => exact h.existsDraft label
  | delete =>
    exact h.withFilter fun _ _ _ hrows => .ok (by simp only [blank_cons, hrows])
  | count label =>
    exact h.withFilter fun _ _ _ hrows => .ok (by simp only [blank_cons, hrows])
  | sum field label =>
    exact h.withFilter fun _ _ _ hrows => .ok (by simp only [blank_cons, hrows])
  | truncate =>
    unfold Query.draft truncateDraft
    rw [h.tablePiece_eq, h.dialect_eq]
    cases q'.tablePiece with
    | error e => exact .error _ _
    | ok table => exact .ok rfl

end Query

end SqlRender
