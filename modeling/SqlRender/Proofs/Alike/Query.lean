import SqlRender.Proofs.Alike.Predicate
import SqlRender.Proofs.Query.Legible

/-!
# Statements that differ in their contents only

Two uses of a query are alike when they differ in nothing but the contents of texts and of names.
Every request of the one then comes to a fragment that is like the other's, and the statements
written out have the same tokens up to what stands inside the quotes of names and strings.
-/

namespace SqlRender

/-- Rows with alike columns and values. -/
def Row.Alike (r s : Row) : Prop :=
  List.Forall₂ (fun c e => AlikeNames c.1 e.1 ∧ c.2.Alike e.2) r.cells s.cells

/-- Keys of an ordering with alike columns and the same direction. -/
structure Order.Alike (o o' : Order) : Prop where
  column : AlikeNames o.column o'.column
  direction_eq : o.direction = o'.direction

/-- Queries that differ in the contents of names and texts only. -/
structure Query.Alike (q q' : Query) : Prop where
  dialect_eq : q.dialect = q'.dialect
  mode_eq : q.mode = q'.mode
  table : Option.Rel AlikeNames q.table q'.table
  columns : List.Forall₂ AlikeNames q.columns q'.columns
  filter : Option.Rel Predicate.Alike q.filter q'.filter
  orders : List.Forall₂ Order.Alike q.orders q'.orders
  offset_eq : q.offset = q'.offset
  limit_eq : q.limit = q'.limit

/-- Requests that differ in the contents of names and texts only. -/
inductive Request.Alike : Request → Request → Prop
  | select : Alike .select .select
  | insert {r s : Row} (h : r.Alike s) : Alike (.insert r) (.insert s)
  | insertMany {rs ss : List Row} (h : List.Forall₂ Row.Alike rs ss) :
    Alike (.insertMany rs) (.insertMany ss)
  | update {r s : Row} (h : r.Alike s) : Alike (.update r) (.update s)
  | delete : Alike .delete .delete
  | exists_ {a b : String} (h : AlikeNames a b) : Alike (.exists_ a) (.exists_ b)
  | count {a b : String} (h : AlikeNames a b) : Alike (.count a) (.count b)
  | sum {a b a' b' : String} (hfield : AlikeNames a b) (hlabel : AlikeNames a' b') :
    Alike (.sum a a') (.sum b b')
  | truncate : Alike .truncate .truncate

/-- Terminals that differ in the contents of names and texts only. -/
inductive Terminal.Alike : Terminal → Terminal → Prop
  | statement {r s : Request} (h : r.Alike s) : Alike (.statement r) (.statement s)
  | insertBatches {rs ss : List Row} (h : List.Forall₂ Row.Alike rs ss) :
    Alike (.insertBatches rs) (.insertBatches ss)

namespace Query

open Fragment

variable {q q' : Query} {f g : Fragment}

/-- The tables of alike queries are alike pieces. -/
theorem Alike.table_piece (h : q.Alike q') {a b : String} (ha : q.table = some a)
    (hb : q'.table = some b) : (Piece.name a).Alike (.name b) := by
  have htable := h.table
  rw [ha, hb] at htable
  cases htable with
  | some hname => exact .name hname

/-- The clauses of alike filters are alike. -/
theorem Alike.whereClause (h : q.Alike q') : q.whereClause.Alike q'.whereClause := by
  have hfilter := h.filter
  unfold Query.whereClause
  rw [← h.dialect_eq]
  cases hq : q.filter with
  | none =>
    rw [hq] at hfilter
    cases hq' : q'.filter with
    | none => exact .nil
    | some p' =>
      rw [hq'] at hfilter
      cases hfilter
  | some p =>
    rw [hq] at hfilter
    cases hq' : q'.filter with
    | none =>
      rw [hq'] at hfilter
      cases hfilter
    | some p' =>
      rw [hq'] at hfilter
      cases hfilter with
      | some hpredicate =>
        have hkept := Predicate.alike_kept (d := q.dialect) hpredicate
        rw [Option.bind_some, Option.bind_some]
        cases hk : p.kept with
        | none =>
          cases hk' : p'.kept with
          | none => exact .nil
          | some k' =>
            rw [hk, hk'] at hkept
            cases hkept
        | some k =>
          cases hk' : p'.kept with
          | none =>
            rw [hk, hk'] at hkept
            cases hkept
          | some k' =>
            rw [hk, hk'] at hkept
            cases hkept with
            | some hfragment => exact .cons (.text _) hfragment

/-- Names between separators are alike when the names are. -/
theorem alike_names {as bs : List String} (h : List.Forall₂ AlikeNames as bs) :
    (joined ", " (as.map fun a => [.name a])).Alike (joined ", " (bs.map fun b => [.name b])) := by
  refine Fragment.Alike.joined ?_
  rw [List.forall₂_map_left_iff, List.forall₂_map_right_iff]
  exact h.imp fun a b hname => .cons (.name hname) .nil

/-- Alike queries select alike columns. -/
theorem Alike.projection (h : q.Alike q') : q.projection.Alike q'.projection := by
  unfold Query.projection
  rw [isEmpty_of_forall₂ h.columns]
  split
  · exact .cons (.text _) .nil
  · exact alike_names h.columns

/-- Alike queries have alike orderings. -/
theorem Alike.orderFragment (h : q.Alike q') : q.orderFragment.Alike q'.orderFragment := by
  unfold Query.orderFragment
  rw [isEmpty_of_forall₂ h.orders]
  split
  · exact .nil
  · refine .cons (.text _) (Fragment.Alike.joined ?_)
    rw [List.forall₂_map_left_iff, List.forall₂_map_right_iff]
    refine h.orders.imp fun o o' horder => ?_
    rw [horder.direction_eq]
    exact .cons (.name horder.column) (.cons (.text _) .nil)

/-- Alike rows have alike columns. -/
theorem alike_columnList {r s : Row} (h : r.Alike s) : (columnList r).Alike (columnList s) := by
  refine alike_names ?_
  rw [Row.names, Row.names, List.forall₂_map_left_iff, List.forall₂_map_right_iff]
  exact h.imp fun c e hcell => hcell.1

/-- Alike rows have alike tuples. -/
theorem alike_tuple {r s : Row} (h : r.Alike s) : (tuple r).Alike (tuple s) := by
  have hvalues : (joined ", " (r.values.map ofValue)).Alike
      (joined ", " (s.values.map ofValue)) := by
    refine Fragment.Alike.joined ?_
    rw [Row.values, Row.values, List.map_map, List.map_map, List.forall₂_map_left_iff,
      List.forall₂_map_right_iff]
    exact h.imp fun c e hcell => alike_ofValue hcell.2
  exact .cons (.text _) (hvalues.append (.cons (.text _) .nil))

/-- Alike rows are assigned alike. -/
theorem alike_assignments {r s : Row} (h : r.Alike s) : (assignments r).Alike (assignments s) := by
  refine Fragment.Alike.joined ?_
  rw [List.forall₂_map_left_iff, List.forall₂_map_right_iff]
  exact h.imp fun c e hcell => .cons (.name hcell.1) (.cons (.text _) (alike_ofValue hcell.2))

/-- Inserts of alike rows into alike tables are alike. -/
theorem alike_insertFragment {a b : Piece} (htable : a.Alike b) {r s : Row} (h : r.Alike s)
    {rs ss : List Row} (hrows : List.Forall₂ Row.Alike rs ss) :
    (insertFragment a (columnList r) rs).Alike (insertFragment b (columnList s) ss) := by
  have htuples : (joined ", " (rs.map tuple)).Alike (joined ", " (ss.map tuple)) := by
    refine Fragment.Alike.joined ?_
    rw [List.forall₂_map_left_iff, List.forall₂_map_right_iff]
    exact hrows.imp fun r s => alike_tuple
  have hcolumns := (alike_columnList h).append (.cons (.text ") VALUES ") htuples)
  exact .cons (.text _) (.cons htable (.cons (.text _) hcolumns))

/-- The first rows of alike rows are alike. -/
theorem alike_reference {rs ss : List Row} (h : List.Forall₂ Row.Alike rs ss) {r s : Row}
    (hr : Row.reference rs = .ok r) (hs : Row.reference ss = .ok s) : r.Alike s := by
  obtain ⟨hr, -⟩ := Row.reference_eq_ok hr
  obtain ⟨hs, -⟩ := Row.reference_eq_ok hs
  cases h with
  | nil => cases hr
  | cons hhead _ =>
    cases hr
    cases hs
    exact hhead

/-- Alike inserts are put together alike. -/
theorem alike_insertsFragment {p : Profile} {fs gs : List Fragment}
    (h : List.Forall₂ Fragment.Alike fs gs) :
    (insertsFragment p fs).Alike (insertsFragment p gs) := by
  have htransaction : (inTransaction p fs).Alike (inTransaction p gs) :=
    .cons (.text _) ((Fragment.Alike.joined h).append (.cons (.text _) .nil))
  cases hmulti : p.multiInsert with
  | transaction => simpa only [insertsFragment, hmulti] using htransaction
  | valuesList cap =>
    cases h with
    | nil => simpa only [insertsFragment, hmulti] using htransaction
    | cons hhead hrest =>
      cases hrest with
      | nil => simpa only [insertsFragment, hmulti] using hhead
      | cons hnext hrest => simpa only [insertsFragment, hmulti] using htransaction

/-- Alike rows are inserted alike. -/
theorem Alike.inserts (h : q.Alike q') {a b : Piece} (htable : a.Alike b) {r s : Row}
    (hreference : r.Alike s) {rs ss : List Row} (hrows : List.Forall₂ Row.Alike rs ss) :
    List.Forall₂ Fragment.Alike (q.inserts a r rs) (q'.inserts b s ss) := by
  rw [inserts_eq, inserts_eq, List.Forall₂.length_eq hreference, List.forall₂_map_left_iff,
    List.forall₂_map_right_iff]
  exact (forall₂_groups h.mode_eq h.dialect_eq _ hrows).imp fun _ _ =>
    alike_insertFragment htable hreference

/-- The words behind a table and the clause of a filter. -/
theorem Alike.table_whereClause (h : q.Alike q') {a b : String} (ha : q.table = some a)
    (hb : q'.table = some b) :
    Fragment.Alike (.name a :: q.whereClause) (.name b :: q'.whereClause) :=
  .cons (h.table_piece ha hb) h.whereClause

/-- Alike selections are drafted alike. -/
theorem Alike.selectDraft (h : q.Alike q') (hf : q.selectDraft.outcome = .ok f)
    (hg : q'.selectDraft.outcome = .ok g) : f.Alike g := by
  obtain ⟨a, paging, ha, hpaging, rfl, -⟩ := outcome_selectDraft hf
  obtain ⟨b, paging', hb, hpaging', rfl, -⟩ := outcome_selectDraft hg
  rw [← h.dialect_eq, ← h.offset_eq, ← h.limit_eq, ← isEmpty_of_forall₂ h.orders,
    hpaging] at hpaging'
  cases hpaging'
  have htop : (topFragment paging).Alike (topFragment paging) := by
    unfold topFragment
    cases paging.top with
    | none => exact .nil
    | some words => exact .cons (.text _) .nil
  have hend := h.orderFragment.append (.cons (.text paging.suffix) .nil)
  have hrows := (h.table_whereClause ha hb).append hend
  exact .cons (.text _) (htop.append (h.projection.append (.cons (.text " FROM ") hrows)))

/-- Alike questions for existence are drafted alike. -/
theorem Alike.existsDraft (h : q.Alike q') {a b : String} (hlabel : AlikeNames a b)
    (hf : (q.existsDraft a).outcome = .ok f) (hg : (q'.existsDraft b).outcome = .ok g) :
    f.Alike g := by
  obtain ⟨table, htable, rfl, -⟩ := outcome_existsDraft hf
  obtain ⟨table', htable', rfl, -⟩ := outcome_existsDraft hg
  rw [← h.dialect_eq]
  have hrows := (h.table_whereClause htable htable').append
    (.cons (.text q.dialect.profile.existence.words.2) (.cons (.name hlabel) .nil))
  exact .cons (.text _) (.cons (.text _) hrows)

/-- Alike requests of alike queries are drafted alike. -/
theorem Alike.draft (h : q.Alike q') {r s : Request} (hr : r.Alike s)
    (hf : (q.draft r).outcome = .ok f) (hg : (q'.draft s).outcome = .ok g) : f.Alike g := by
  cases hr with
  | select => exact h.selectDraft hf hg
  | exists_ hlabel => exact h.existsDraft hlabel hf hg
  | insert hrow =>
    obtain ⟨a, ha, rfl, -⟩ := outcome_insertDraft hf
    obtain ⟨b, hb, rfl, -⟩ := outcome_insertDraft hg
    exact alike_insertFragment (h.table_piece ha hb) hrow (.cons hrow .nil)
  | insertMany hrows =>
    obtain ⟨a, r, ha, hr, rfl, -⟩ := outcome_insertManyDraft hf
    obtain ⟨b, s, hb, hs, rfl, -⟩ := outcome_insertManyDraft hg
    rw [← h.dialect_eq]
    exact alike_insertsFragment
      (h.inserts (h.table_piece ha hb) (alike_reference hrows hr hs) hrows)
  | update hrow =>
    obtain ⟨a, ha, rfl, -⟩ := outcome_updateDraft hf
    obtain ⟨b, hb, rfl, -⟩ := outcome_updateDraft hg
    have hset := (alike_assignments hrow).append h.whereClause
    exact .cons (.text _) (.cons (h.table_piece ha hb) (.cons (.text _) hset))
  | delete =>
    obtain ⟨a, ha, hf, -⟩ := outcome_withFilter hf fun _ _ => rfl
    obtain ⟨b, hb, hg, -⟩ := outcome_withFilter hg fun _ _ => rfl
    cases hf
    cases hg
    exact .cons (.text _) (h.table_whereClause ha hb)
  | count hlabel =>
    obtain ⟨a, ha, hf, -⟩ := outcome_withFilter hf fun _ _ => rfl
    obtain ⟨b, hb, hg, -⟩ := outcome_withFilter hg fun _ _ => rfl
    cases hf
    cases hg
    exact .cons (.text _)
      (.cons (.name hlabel) (.cons (.text _) (h.table_whereClause ha hb)))
  | sum hfield hlabel =>
    obtain ⟨a, ha, hf, -⟩ := outcome_withFilter hf fun _ _ => rfl
    obtain ⟨b, hb, hg, -⟩ := outcome_withFilter hg fun _ _ => rfl
    cases hf
    cases hg
    have hrest := Fragment.Alike.append (.cons (.name hlabel) (.cons (.text " FROM ") .nil))
      (h.table_whereClause ha hb)
    exact .cons (.text _) (.cons (.name hfield) (.cons (.text _) hrest))
  | truncate =>
    obtain ⟨a, ha, rfl, -⟩ := outcome_truncateDraft hf
    obtain ⟨b, hb, rfl, -⟩ := outcome_truncateDraft hg
    rw [← h.dialect_eq]
    exact .cons (.text _) (.cons (h.table_piece ha hb) .nil)

/-- Alike terminals of alike queries have alike requests. -/
theorem Alike.requests (h : q.Alike q') {t t' : Terminal} (ht : t.Alike t')
    {sts sts' : List Statement} (hsts : q.statements t = .ok sts)
    (hsts' : q'.statements t' = .ok sts') :
    List.Forall₂ Request.Alike (q.requests t) (q'.requests t') := by
  cases ht with
  | statement hr => exact .cons hr .nil
  | @insertBatches rs ss hrows =>
    obtain ⟨r, hr⟩ := reference_of_statements hsts
    obtain ⟨s, hs⟩ := reference_of_statements hsts'
    have hcells := List.Forall₂.length_eq (alike_reference hrows hr hs)
    have hcap : q.batchCap rs r.cells.length = q'.batchCap ss s.cells.length := by
      rw [hcells, batchCap_congr h.mode_eq h.dialect_eq hrows.length_eq]
    simp only [Query.requests, hr, hs, hcap]
    rw [List.forall₂_map_left_iff, List.forall₂_map_right_iff]
    exact (forall₂_chunks _ hrows).imp fun _ _ => .insertMany

end Query

end SqlRender
