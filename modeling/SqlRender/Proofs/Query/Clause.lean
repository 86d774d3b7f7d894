import SqlRender.Proofs.Compiler
import SqlRender.Proofs.Query.Legible

/-!
# The clause of a filter in a statement

Every statement with a filter is made in one way: what stands in front of the clause, the clause,
and what stands behind it. `run_draft_eq` says so of all of them at once. The compiler that has
bound the values in front renders the clause, and only an update has values there, so that the
other statements have the clause of a compiler that has bound nothing.
-/

namespace SqlRender

namespace Query

/-- The clause of what is left of a filter. -/
def clauseFragment : Option Fragment → Fragment
  | some f => .text " WHERE " :: f
  | none => []

/-- A filter is drafted as the clause of what is left of it. -/
theorem filterDraft_of_some {q : Query} {p : Predicate} (hfilter : q.filter = some p) :
    q.filterDraft =
      ⟨(p.draft q.dialect).steps, (p.draft q.dialect).outcome.map clauseFragment⟩ := by
  rw [← Draft.bind_pure_eq, filterDraft, hfilter]
  dsimp only
  congr 1
  funext f
  cases f <;> rfl

end Query

namespace Compiler

variable {c : Compiler}

/-- The clause of what is left of a filter: its text behind the keyword, or nothing. -/
def clauseText : Option String → String
  | some s => " WHERE " ++ s
  | none => ""

/-- Renders the clause of a filter, if there is one. -/
def clause (c : Compiler) (filter : Option Predicate) : Compiler × Played String :=
  andThen (c.compile? filter) fun c text => c.done (clauseText text)

/-- The clause of a filter plays the draft of the filter. -/
theorem clause_eq_run {q : Query} (h : c.dialect = q.dialect) : c.clause q.filter =
    c.run (Fragment.render c.dialect c.mode c.next) q.filterDraft := by
  have hempty : Fragment.render c.dialect c.mode c.next [] = .ok "" :=
    Fragment.render_of_slots_eq_nil rfl c.next
  cases hfilter : q.filter with
  | none =>
    rw [Query.filterDraft, hfilter]
    exact done_eq_run hempty
  | some p =>
    rw [Query.filterDraft_of_some hfilter, ← h]
    refine run_done fun f _ => ?_
    cases f with
    | none => exact hempty
    | some f =>
      have hword : Fragment.render c.dialect c.mode c.next [.text " WHERE "] = .ok " WHERE " :=
        Fragment.render_of_slots_eq_nil rfl c.next
      have hmap : Option.mapM (Fragment.render c.dialect c.mode c.next) (some f) =
          (f.render c.dialect c.mode c.next).map some := rfl
      have hbehind : Fragment.render c.dialect c.mode c.next ([.text " WHERE "] ++ f) =
          (f.render c.dialect c.mode c.next).map (" WHERE " ++ ·) :=
        Fragment.render_append_eq hword
      rw [hmap]
      refine hbehind.trans ?_
      cases f.render c.dialect c.mode c.next <;> rfl

end Compiler

namespace Query

open Fragment

variable {q : Query} {r : Request} {table : String} {front back : Fragment}

/-- The compiler of a statement, which has bound nothing yet. -/
def compiler (q : Query) : Compiler := { dialect := q.dialect, mode := q.mode }

/-- A statement is numbered from one. -/
theorem next_compiler (q : Query) : q.compiler.next = 1 := by
  unfold compiler Compiler.next
  cases q.mode <;> rfl

/-- The compiler of a statement plays a draft as the query does. -/
theorem run_compiler (q : Query) (draft : Draft Fragment) :
    (q.compiler.run (render q.dialect q.mode 1) draft).2 = q.play draft := by
  rw [Compiler.run, next_compiler]
  rfl

/-- What stands in front of the clause of the filter in the statement of a request, and what stands
behind it. -/
def frame (q : Query) (table : String) : Request → Except Error (Fragment × Fragment)
  | .select =>
    (q.dialect.paging q.offset q.limit (!q.orders.isEmpty)).map fun paging =>
      (.text "SELECT " :: (topFragment paging ++ (q.projection ++ [.text " FROM ", .name table])),
        q.orderFragment ++ [.text paging.suffix])
  | .update row =>
    if row.cells.isEmpty then .error (.malformed (.noData "UPDATE"))
    else .ok (.text "UPDATE " :: .name table :: .text " SET " :: assignments row, [])
  | .delete => .ok ([.text "DELETE FROM ", .name table], [])
  | .exists_ label =>
    .ok ([.text q.dialect.profile.existence.words.1, .text "SELECT 1 FROM ", .name table],
      [.text q.dialect.profile.existence.words.2, .name label])
  | .count label =>
    .ok ([.text "SELECT COUNT(*) AS ", .name label, .text " FROM ", .name table], [])
  | .sum field label =>
    .ok ([.text "SELECT SUM(", .name field, .text ") AS ", .name label, .text " FROM ",
      .name table], [])
  | .insert _ | .insertMany _ | .truncate => .ok ([], [])

/-- A statement on the rows of a table goes on from the draft of the filter. -/
theorem withFilter_eq (htable : q.table = some table) (build : Piece → Fragment → Draft Fragment) :
    q.withFilter build = q.filterDraft.bind (build (.name table)) := by
  rw [withFilter, tablePiece, htable]

/-- The frame of a request has the values of its rows in front of the clause, and none behind. -/
theorem slots_frame (hframe : q.frame table r = .ok (front, back)) (hfiltered : r.isFiltered) :
    front.slots = r.rows.flatMap Row.bound ∧ back.slots = [] := by
  cases r with
  | select =>
    obtain ⟨paging, -, hpair⟩ := map_eq_ok hframe
    cases hpair
    have htop : (topFragment paging).slots = [] := by
      unfold topFragment
      cases paging.top <;> rfl
    simp [htop, q.legible_projection.2, q.legible_orderFragment.2, Request.rows]
  | update row =>
    rw [frame] at hframe
    split at hframe
    · cases hframe
    · cases hframe
      simp [(legible_assignments (p := q.dialect.profile) row).2, Request.rows]
  | insert _ | insertMany _ | truncate => cases hfiltered
  | _ =>
    cases hframe
    exact ⟨rfl, rfl⟩

/-- Every statement with a filter is drafted in one way: the frame in front, the filter, and the
frame behind. -/
theorem draft_eq_frame (htable : q.table = some table)
    (hframe : q.frame table r = .ok (front, back)) (hfiltered : r.isFiltered) :
    q.draft r = (Draft.ofFragment front).bind fun front =>
      q.filterDraft.bind fun rows => pure (front ++ (rows ++ back)) := by
  have hslots := slots_frame hframe hfiltered
  -- Only an update has values in front; the others start with the filter.
  have hnone : front.slots = [] → ((Draft.ofFragment front).bind fun front =>
      q.filterDraft.bind fun rows => pure (front ++ (rows ++ back))) =
      q.filterDraft.bind fun rows => pure (front ++ (rows ++ back)) := by
    intro hfront
    rw [Draft.ofFragment_of_slots_eq_nil hfront]
    rfl
  cases r with
  | select =>
    obtain ⟨paging, hpaging, hpair⟩ := map_eq_ok hframe
    cases hpair
    rw [hnone hslots.1, draft, selectDraft, withFilter_eq htable]
    simp only [hpaging]
    congr 1
    funext rows
    unfold topFragment
    cases paging.top <;> simp
  | update row =>
    rw [frame] at hframe
    split at hframe
    · cases hframe
    · next hcells =>
      cases hframe
      have hbind : ∀ (f : Fragment) (next : Fragment → Draft Fragment),
          (Draft.ofFragment f).bind next =
            ⟨f.slots.map .use ++ (next f).steps, (next f).outcome⟩ := fun _ _ => rfl
      simp only [draft, updateDraft, tablePiece, htable, if_neg hcells, hbind, List.append_nil,
        slots_text, slots_name]
      rfl
  | delete =>
    cases hframe
    rw [hnone hslots.1, draft, deleteDraft, withFilter_eq htable]
    simp
  | exists_ label =>
    cases hframe
    rw [hnone hslots.1, draft, existsDraft, withFilter_eq htable]
    congr 1
    funext rows
    cases q.dialect.profile.existence <;> simp [ExistsStyle.words]
  | count label =>
    cases hframe
    rw [hnone hslots.1, draft, countDraft, withFilter_eq htable]
    simp
  | sum field label =>
    cases hframe
    rw [hnone hslots.1, draft, sumDraft, withFilter_eq htable]
    simp
  | insert _ | insertMany _ | truncate => cases hfiltered

/-- A request on no table has no statement. -/
theorem outcome_draft_of_no_table (hfiltered : r.isFiltered) (htable : q.table = none) :
    (q.draft r).outcome = .error (.missingClause "from") := by
  have hfilter : ∀ build, (q.withFilter build).outcome = .error (.missingClause "from") := by
    intro build
    rw [withFilter, tablePiece, htable]
    rfl
  cases r with
  | insert _ | insertMany _ | truncate => cases hfiltered
  | update row =>
    simp only [draft, updateDraft, tablePiece, htable]
    rfl
  | _ => exact hfilter _

/-- A request without a frame has no statement. -/
theorem outcome_draft_of_no_frame {e : Error} (hfiltered : r.isFiltered)
    (htable : q.table = some table) (hframe : q.frame table r = .error e) :
    ∃ e, (q.draft r).outcome = .error e := by
  cases r with
  | insert _ | insertMany _ | truncate => cases hfiltered
  | delete | exists_ _ | count _ | sum _ _ => cases hframe
  | update row =>
    rw [frame] at hframe
    split at hframe
    · next hcells =>
      simp only [draft, updateDraft, tablePiece, htable, if_pos hcells]
      exact ⟨_, rfl⟩
    · cases hframe
  | select =>
    cases hpaging : q.dialect.paging q.offset q.limit (!q.orders.isEmpty) with
    | ok paging =>
      rw [frame, hpaging] at hframe
      cases hframe
    | error e =>
      rw [draft, selectDraft, withFilter_eq htable, Draft.outcome_bind]
      simp only [hpaging]
      cases q.filterDraft.outcome with
      | error e' => exact ⟨e', rfl⟩
      | ok rows => exact ⟨e, rfl⟩

/-- Every statement with a filter is rendered in one way: what stands in front, then the clause of
the filter by the compiler that has bound the values in front, and what stands behind. -/
theorem run_draft_eq (htable : q.table = some table)
    (hframe : q.frame table r = .ok (front, back)) (hfiltered : r.isFiltered) :
    q.compiler.run (render q.dialect q.mode 1) (q.draft r) =
      Compiler.andThen (q.compiler.run (render q.dialect q.mode 1) (Draft.ofFragment front))
        fun c before => Compiler.andThen (c.clause q.filter)
          fun c text => c.done (before ++ (text ++ back.fill q.dialect [])) := by
  obtain ⟨-, hback⟩ := slots_frame hframe hfiltered
  rw [draft_eq_frame htable hframe hfiltered]
  refine (Compiler.run_bind fun f hf hplay => ?_).symm
  cases hf
  have hused : (Draft.ofFragment front).used = front.slots := Draft.used_ofFragment front
  have hmet : Draft.playError? q.dialect q.mode (Draft.ofFragment front).steps = none := hplay
  obtain ⟨xs, -, hbefore⟩ := Draft.render_of_playError? hmet hused 1
  refine ⟨_, hbefore, ?_⟩
  -- What has been bound in front matters only as the number where the clause goes on.
  generalize hc : (q.compiler.run (render q.dialect q.mode 1) (Draft.ofFragment front)).1 = c
  have hdialect : c.dialect = q.dialect := by
    rw [← hc]
    rfl
  have hmode : c.mode = q.mode := by
    rw [← hc]
    rfl
  rw [Draft.bind_pure_eq, Compiler.clause_eq_run hdialect]
  refine Compiler.run_done fun rows _ => ?_
  have hnext : c.next = 1 + front.slots.length := by
    rw [← hc, Compiler.next_run hplay, hused, next_compiler]
  rw [hdialect, hmode, hnext, render_append_eq hbefore, render_append_of_slots_eq_nil hback]
  cases render q.dialect q.mode (1 + front.slots.length) rows <;> rfl

/-- A request with a filter that comes to an outcome has a table and a frame. -/
theorem exists_frame {f : Fragment} (hfiltered : r.isFiltered) (h : (q.draft r).outcome = .ok f) :
    ∃ table front back, q.table = some table ∧ q.frame table r = .ok (front, back) := by
  cases htable : q.table with
  | none =>
    rw [outcome_draft_of_no_table hfiltered htable] at h
    cases h
  | some table =>
    cases hframe : q.frame table r with
    | error e =>
      obtain ⟨e', he⟩ := outcome_draft_of_no_frame hfiltered htable hframe
      rw [he] at h
      cases h
    | ok pair => exact ⟨table, pair.1, pair.2, rfl, hframe⟩

end Query

end SqlRender
