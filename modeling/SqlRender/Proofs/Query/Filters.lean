import SqlRender.Proofs.Predicate.Fold
import SqlRender.Proofs.Query.SameRows

/-!
# Filters one after the other

A query that is given filters holds them joined, the last one in front. So its clause is that of
the filters that are not dropped, in that order: a filter that is dropped widens nothing that the
others select, and the clause is missing only where nothing is left of any filter.
-/

namespace SqlRender

namespace Query

variable {q : Query} {r : Request} {st : Statement}

/-- The query with predicates joined for its filter. -/
def holding (q : Query) (ps : List Predicate) : Query :=
  { q with filter := Predicate.joinAll .and ps }

/-- A filter is added in front of the filters that are held. -/
theorem addFilter_holding (q : Query) (ps : List Predicate) (p : Predicate) :
    (q.holding ps).addFilter p = q.holding (p :: ps) := by
  rw [addFilter, holding, holding, Predicate.joinAll]
  cases Predicate.joinAll .and ps <;> rfl

/-- Filters are added one in front of the other. -/
theorem foldl_addFilter_holding (q : Query) (ps added : List Predicate) :
    added.foldl addFilter (q.holding ps) = q.holding (added.reverse ++ ps) := by
  induction added generalizing ps with
  | nil => rfl
  | cons p rest ih =>
    rw [List.foldl_cons, addFilter_holding, ih, List.reverse_cons, List.append_assoc,
      List.singleton_append]

/-- A query without a filter holds nothing. -/
theorem holding_nil (h : q.filter = none) : q.holding [] = q := by
  rw [holding, Predicate.joinAll, ← h]

/-- The clause of a query that holds predicates is that of what they come to, joined. -/
theorem outcome_clause_holding (q : Query) (ps : List Predicate) :
    (q.holding ps).clause.outcome =
      (q.compiler.compile? (Predicate.joinAll .and ps)).2.outcome.map Compiler.clauseText := by
  rw [clause_eq_compile?]
  rfl

/-- A clause is empty when nothing is left of its filter. -/
theorem clauseText_eq_empty {s : Option String} : Compiler.clauseText s = "" ↔ s = none := by
  cases s <;> simp [Compiler.clauseText]

/-- The clause of joined predicates is that of those that are not dropped, wherever it is
rendered. -/
theorem sameResult_clause (c : Compiler) (ps : List Predicate) :
    Compiler.SameResult (c.clause (Predicate.joinAll .and ps))
      (c.clause (Predicate.joinAll .and (ps.filter (!c.drops ·)))) :=
  (Compiler.folds rfl ps c).survivors.andThen fun _ => .refl _

/-- A statement that is made of predicates has the table and the frame of the query. -/
theorem exists_frame_of_holding {ps : List Predicate} (hfiltered : r.isFiltered)
    (h : ((q.holding ps).build r).outcome = .ok st) :
    ∃ table front back, q.table = some table ∧ q.frame table r = .ok (front, back) := by
  obtain ⟨hplay, -⟩ := play_of_build h
  obtain ⟨f, hf, -⟩ := Draft.outcome_play_eq_ok hplay
  exact exists_frame (q := q.holding ps) hfiltered hf

/-- Within one frame, the statement of joined predicates is that of those that are not dropped. -/
theorem outcome_build_holding {table : String} {front back : Fragment} (ps : List Predicate)
    (hfiltered : r.isFiltered) (htable : q.table = some table)
    (hframe : q.frame table r = .ok (front, back)) :
    ((q.holding ps).build r).outcome =
      ((q.holding (ps.filter (!q.compiler.drops ·))).build r).outcome := by
  have hrun : ∀ ps, q.compiler.run (Fragment.render q.dialect q.mode 1) ((q.holding ps).draft r) =
      Compiler.andThen
        (q.compiler.run (Fragment.render q.dialect q.mode 1) (Draft.ofFragment front))
        fun c before => Compiler.andThen (c.clause (Predicate.joinAll .and ps))
          fun c text => c.done (before ++ (text ++ back.fill q.dialect [])) :=
    fun ps => run_draft_eq (q := q.holding ps) htable hframe hfiltered
  -- What has been bound in front does not change the dialect or the mode, nor what is dropped.
  have hsame : Compiler.SameResult
      (q.compiler.run (Fragment.render q.dialect q.mode 1) ((q.holding ps).draft r))
      (q.compiler.run (Fragment.render q.dialect q.mode 1)
        ((q.holding (ps.filter (!q.compiler.drops ·))).draft r)) := by
    rw [hrun, hrun]
    exact (Compiler.SameResult.refl _).andThen fun before =>
      (sameResult_clause _ ps).andThen fun text => .refl _
  have hbuild : ∀ ps, ((q.holding ps).build r).outcome =
      (q.compiler.run (Fragment.render q.dialect q.mode 1) ((q.holding ps).draft r)).2.outcome.bind
        (q.accept r (q.compiler.run (Fragment.render q.dialect q.mode 1)
          ((q.holding ps).draft r)).2.bound) := by
    intro ps
    rw [run_compiler]
    exact outcome_build (q.holding ps) r
  rw [hbuild, hbuild, hsame.outcome_eq, hsame.bound_eq]

/-- The statements of joined predicates are those of the predicates that are not dropped. -/
theorem build_holding_iff (ps : List Predicate) (hfiltered : r.isFiltered) :
    ((q.holding ps).build r).outcome = .ok st ↔
      ((q.holding (ps.filter (!q.compiler.drops ·))).build r).outcome = .ok st := by
  constructor
  · intro h
    obtain ⟨table, front, back, htable, hframe⟩ := exists_frame_of_holding hfiltered h
    rwa [outcome_build_holding ps hfiltered htable hframe] at h
  · intro h
    obtain ⟨table, front, back, htable, hframe⟩ := exists_frame_of_holding hfiltered h
    rwa [outcome_build_holding ps hfiltered htable hframe]

/-- What a query comes to that is given filters: it holds them joined, the last one in front, and
fails when one of them fails by itself. Its clause is that of the filters that are not dropped, in
that order, made of their texts, and it is missing when all of them are dropped. So its statements
are those of a query that has only been given the others. -/
structure TakesFilters (q : Query) (ps : List Predicate) : Prop where
  eq_holding : ps.foldl addFilter q = q.holding ps.reverse
  fails_iff : (∃ e, (q.holding ps.reverse).clause.outcome = .error e) ↔
    ∃ p ∈ ps, q.compiler.Fails p
  survivors_outcome : (q.holding ps.reverse).clause.outcome =
    (q.holding (ps.reverse.filter (!q.compiler.drops ·))).clause.outcome
  survivors_bound : (q.holding ps.reverse).clause.bound =
    (q.holding (ps.reverse.filter (!q.compiler.drops ·))).clause.bound
  text : ∀ s, (q.holding ps.reverse).clause.outcome = .ok s → s = Compiler.clauseText
    (Predicate.nestTexts .and (Compiler.texts (q.compiler.calls (ps.reverse.map .compile)).2))
  missing_iff : (q.holding ps.reverse).clause.outcome = .ok "" ↔ ∀ p ∈ ps, q.compiler.drops p
  statements : ∀ r st, r.isFiltered → (((q.holding ps.reverse).build r).outcome = .ok st ↔
    ((q.holding (ps.reverse.filter (!q.compiler.drops ·))).build r).outcome = .ok st)

/-- A query without a filter takes the filters that it is given. -/
theorem takesFilters (hfilter : q.filter = none) (ps : List Predicate) : q.TakesFilters ps := by
  have heq : ps.foldl addFilter q = q.holding ps.reverse := by
    have hfold := foldl_addFilter_holding q [] ps
    rwa [holding_nil hfilter, List.append_nil] at hfold
  have houtcome := outcome_clause_holding q ps.reverse
  have hfolds : q.compiler.Folds .and ps.reverse := Compiler.folds rfl ps.reverse q.compiler
  have hsame := sameResult_clause q.compiler ps.reverse
  refine ⟨heq, ?_, hsame.outcome_eq, hsame.bound_eq, fun s hs => ?_, ?_,
    fun r st hfiltered => build_holding_iff ps.reverse hfiltered⟩
  · have hfails := hfolds.fails_iff
    simp only [List.mem_reverse] at hfails
    rw [houtcome, ← hfails]
    cases (q.compiler.compile? (Predicate.joinAll .and ps.reverse)).2.outcome <;>
      simp [Except.map]
  · rw [houtcome] at hs
    obtain ⟨text, htext, rfl⟩ := map_eq_ok hs
    rw [hfolds.text text htext]
  · have hdrops := hfolds.drops_iff
    simp only [List.mem_reverse] at hdrops
    rw [houtcome, ← hdrops]
    cases (q.compiler.compile? (Predicate.joinAll .and ps.reverse)).2.outcome <;>
      simp [Except.map, clauseText_eq_empty]

/-- Dropping goes before joining. Predicates that are joined by any combinator, from any compiler,
fail when one of them fails by itself, are dropped when all of them are, and otherwise have the text
and the parameters of those that are not dropped, joined in the same order. So have the filters of a
query, of which the last one is in front. -/
theorem filters_fold (ps : List Predicate) :
    (∀ (c : Compiler) (op : Operator), op.isCombinator → c.Folds op ps) ∧
      ∀ q : Query, q.filter = none → q.TakesFilters ps :=
  ⟨fun c _ hop => Compiler.folds hop ps c, fun _ hfilter => takesFilters hfilter ps⟩

/-- Filters of which one between the others and the last one are dropped. -/
def looseFilters : List Predicate :=
  [.compare .equals "a" (.int 1), .compare .equals "x" .null, .member .isIn "b" [.int 2],
    .compare .contains "y" (.int 3)]

/-- A query that holds no filter yet. -/
def unfiltered : Query where
  dialect := .ofEngine .postgres
  mode := .parameterized
  table := some "t"

/-- The clause of the filters that are left, with the later one in front. -/
theorem filters_fold_loose :
    unfiltered.compiler.Folds .or looseFilters ∧
      (looseFilters.foldl addFilter unfiltered).clause.outcome =
        .ok " WHERE ((\"b\" IN ($1)) AND (\"a\" = $2))" ∧
      (looseFilters.foldl addFilter unfiltered).clause.bound =
        [⟨"$1", .int 2⟩, ⟨"$2", .int 1⟩] := by
  obtain ⟨hfolds, htakes⟩ := filters_fold looseFilters
  have hheld := htakes unfiltered rfl
  have hsurvivors : looseFilters.reverse.filter (!unfiltered.compiler.drops ·) =
      [.member .isIn "b" [.int 2], .compare .equals "a" (.int 1)] := rfl
  refine ⟨hfolds unfiltered.compiler .or rfl, ?_, ?_⟩
  · rw [hheld.eq_holding, hheld.survivors_outcome, hsurvivors]
    exact eq_ok_of_toOption (by decide +kernel)
  · rw [hheld.eq_holding, hheld.survivors_bound, hsurvivors]
    decide +kernel

end Query

end SqlRender
