import SqlRender.Proofs.Lists
import SqlRender.Query.Insert

/-!
# Rows in groups

The rows of a long insert are cut into groups, one for each insert. The groups are the rows, one
after the other; each has a row, and no more rows than the engine lets one insert hold. Where the
rows are cut depends on the number of rows and columns and on nothing else about them.
-/

namespace SqlRender

/-- Pieces of a list put together are the list. -/
theorem flatten_chunks {α : Type} (size : Nat) (xs : List α) : (chunks size xs).flatten = xs := by
  fun_induction chunks size xs with
  | case1 => rfl
  | case2 x rest ih =>
    rw [List.flatten_cons, ih, List.cons_append, List.take_append_drop]

/-- Related lists are cut into related pieces. -/
theorem forall₂_chunks {α β : Type} {R : α → β → Prop} (size : Nat) {xs : List α} {ys : List β}
    (h : List.Forall₂ R xs ys) :
    List.Forall₂ (List.Forall₂ R) (chunks size xs) (chunks size ys) := by
  fun_induction chunks size xs generalizing ys with
  | case1 =>
    cases h
    rw [chunks]
    exact .nil
  | case2 x rest ih =>
    cases h with
    | cons hhead hrest =>
      rw [chunks]
      exact .cons (.cons hhead (List.forall₂_take size hrest)) (ih (List.forall₂_drop size hrest))

/-- Pieces of a list have an element, and no more than their size. -/
theorem length_of_mem_chunks {α : Type} {size : Nat} {xs piece : List α}
    (h : piece ∈ chunks size xs) : 1 ≤ piece.length ∧ piece.length ≤ size + 1 := by
  fun_induction chunks size xs with
  | case1 => cases h
  | case2 x rest ih =>
    rcases List.mem_cons.mp h with rfl | h
    · rw [List.length_cons, List.length_take]
      omega
    · exact ih h

/-- The first row is the one whose columns an insert lists; it has columns, and every row has
them. -/
theorem Row.reference_eq_ok {rows : List Row} {first : Row} (h : reference rows = .ok first) :
    rows.head? = some first ∧ first.cells ≠ [] ∧ ∀ row ∈ rows, row.names = first.names := by
  cases rows with
  | nil => cases h
  | cons row rest =>
    unfold reference at h
    dsimp only at h
    split at h
    · cases h
    · next hcells =>
      cases hfind : (row :: rest).findIdx? fun r => r.names != row.names with
      | some index =>
        rw [hfind] at h
        cases h
      | none =>
        rw [hfind] at h
        cases h
        refine ⟨rfl, by simpa using hcells, fun r hr => ?_⟩
        simpa using List.findIdx?_eq_none_iff.mp hfind r hr

namespace Query

variable {q q' : Query}

/-- Queries with one dialect and mode cap the rows of an insert alike. -/
theorem rowCap_congr (hmode : q.mode = q'.mode) (hdialect : q.dialect = q'.dialect)
    (cap columns : Nat) : q.rowCap cap columns = q'.rowCap cap columns := by
  rw [rowCap, rowCap, hmode, hdialect]

/-- Queries with one dialect and mode cap the rows of a batch alike. -/
theorem batchCap_congr (hmode : q.mode = q'.mode) (hdialect : q.dialect = q'.dialect)
    {rs ss : List Row} (hlength : rs.length = ss.length) (columns : Nat) :
    q.batchCap rs columns = q'.batchCap ss columns := by
  rw [batchCap, batchCap, hdialect, hlength]
  split <;> rw [rowCap_congr hmode hdialect]

/-- The rows of each insert of many rows. -/
def groups (q : Query) (columns : Nat) (rows : List Row) : List (List Row) :=
  match q.dialect.profile.multiInsert with
  | .valuesList cap => cut (q.rowCap (cap.getD rows.length) columns) rows
  | .transaction => rows.map fun row => [row]

/-- The inserts of many rows are those of the groups. -/
theorem inserts_eq (q : Query) (table : Piece) (reference : Row) (rows : List Row) :
    q.inserts table reference rows =
      (q.groups reference.cells.length rows).map
        (insertFragment table (columnList reference)) := by
  unfold inserts groups
  cases q.dialect.profile.multiInsert with
  | valuesList cap => rfl
  | transaction =>
    rw [List.map_map]
    rfl

/-- The groups are the rows, one after the other. -/
theorem flatten_groups (q : Query) (columns : Nat) (rows : List Row) :
    (q.groups columns rows).flatten = rows := by
  unfold groups
  cases q.dialect.profile.multiInsert with
  | valuesList cap => exact flatten_chunks _ rows
  | transaction =>
    rw [← List.flatMap_def]
    exact List.flatMap_singleton' rows

/-- Queries with one dialect and mode group related rows alike. -/
theorem forall₂_groups {R : Row → Row → Prop} (hmode : q.mode = q'.mode)
    (hdialect : q.dialect = q'.dialect) (columns : Nat) {rs ss : List Row}
    (h : List.Forall₂ R rs ss) :
    List.Forall₂ (List.Forall₂ R) (q.groups columns rs) (q'.groups columns ss) := by
  unfold groups
  rw [hdialect]
  split
  · rw [rowCap_congr hmode hdialect, h.length_eq]
    exact forall₂_chunks _ h
  · rw [List.forall₂_map_left_iff, List.forall₂_map_right_iff]
    exact h.imp fun _ _ hrow => .cons hrow .nil

/-- A row is in a group, so there is one group when there is no second one. -/
theorem groups_eq_singleton {columns : Nat} {rows : List Row} {first : Row}
    (hfirst : rows.head? = some first) (h : ¬1 < (q.groups columns rows).length) :
    ∃ group, q.groups columns rows = [group] := by
  have hflatten := q.flatten_groups columns rows
  match hgroups : q.groups columns rows with
  | [] =>
    rw [hgroups] at hflatten
    rw [← hflatten] at hfirst
    cases hfirst
  | [group] => exact ⟨group, rfl⟩
  | _ :: _ :: _ =>
    rw [hgroups] at h
    exact absurd (by simp) h

/-- So many tuples of so many columns are what an insert may hold: at least one; only one where
every row has an insert of its own; and otherwise no more than the engine's lists hold, and no more
than have their values bound within the limit unless it is one. -/
structure Holds (q : Query) (columns count : Nat) : Prop where
  pos : 1 ≤ count
  transaction : q.dialect.profile.multiInsert = .transaction → count = 1
  valuesList : ∀ cap, q.dialect.profile.multiInsert = .valuesList (some cap) → count ≤ cap
  bound : q.mode = .parameterized → ∀ limit, q.dialect.profile.maxParameters = some limit →
    count ≤ max 1 (limit / columns)

/-- Rows are cut into no more than the cap, and no more than bind within the limit. -/
theorem rowCap_le (q : Query) (cap columns : Nat) : 1 ≤ q.rowCap cap columns ∧
    q.rowCap cap columns ≤ max 1 cap ∧
    (q.mode = .parameterized → ∀ limit, q.dialect.profile.maxParameters = some limit →
      q.rowCap cap columns ≤ max 1 (limit / max 1 columns)) := by
  unfold rowCap
  split
  · next limit hmode hlimit =>
    refine ⟨Nat.le_max_left _ _, by omega, fun _ limit' hlimit' => ?_⟩
    rw [hlimit] at hlimit'
    cases hlimit'
    omega
  · next hnone =>
    refine ⟨Nat.le_max_left _ _, Nat.le_refl _, fun hmode limit hlimit => ?_⟩
    exact absurd hlimit (hnone limit hmode)

/-- An engine whose lists of tuples are capped lets them hold one. -/
theorem pos_of_valuesList {e : Engine} {cap : Nat}
    (h : e.profile.multiInsert = .valuesList (some cap)) : 1 ≤ cap := by
  cases e with
  | sqlServer =>
    cases h
    decide
  | mySql => cases h
  | postgres => cases h
  | sqlite => cases h

/-- Every group of rows is one that an insert may hold. -/
theorem holds_of_mem_groups {columns : Nat} (hcolumns : columns ≠ 0) {rows group : List Row}
    (h : group ∈ q.groups columns rows) : q.Holds columns group.length := by
  unfold groups at h
  cases hstyle : q.dialect.profile.multiInsert with
  | transaction =>
    rw [hstyle] at h
    obtain ⟨row, -, rfl⟩ := List.mem_map.mp h
    refine ⟨Nat.le_refl _, fun _ => rfl, fun cap hcap => ?_, fun _ limit _ => Nat.le_max_left _ _⟩
    rw [hstyle] at hcap
    cases hcap
  | valuesList cap =>
    rw [hstyle] at h
    obtain ⟨hpos, hsize⟩ := length_of_mem_chunks h
    obtain ⟨hone, hcap, hbound⟩ := q.rowCap_le (cap.getD rows.length) columns
    refine ⟨hpos, fun htransaction => ?_, fun limit hlimit => ?_, fun hmode limit hlimit => ?_⟩
    · rw [hstyle] at htransaction
      cases htransaction
    · have hlist := pos_of_valuesList hlimit
      rw [hstyle] at hlimit
      cases hlimit
      rw [Option.getD_some] at hsize hone hcap
      omega
    · have hlimited := hbound hmode limit hlimit
      have hmax : max 1 columns = columns := by omega
      rw [hmax] at hlimited
      omega

end Query

end SqlRender
