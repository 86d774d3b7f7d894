import SqlRender.Proofs.Predicate.Modes
import SqlRender.Proofs.Query.Clause

/-!
# Statements on the same rows

Counting, summing, asking, selecting and deleting take the rows of one clause: its text and its
values are the same in all of them, and those of the filter by itself. An update binds the values
of its row first, so its clause has the same text with every placeholder raised by as many. A filter
that cannot be rendered leaves none of the statements.
-/

namespace SqlRender

namespace Compiler

variable {c c' : Compiler} {q : Query}

/-- A filter that comes to a clause uses the values of its slots. -/
theorem used_filterDraft {rows : Fragment} (h : q.filterDraft.outcome = .ok rows) :
    q.filterDraft.used = rows.slots := by
  obtain ⟨hclause, hused⟩ := Query.outcome_filterDraft h
  rw [hused, hclause]

/-- A clause is that of the filter with the texts of its values, numbered from where the compiler
stands. -/
theorem clause_eq_fill (h : c.dialect = q.dialect) {text : String}
    (htext : (c.clause q.filter).2.outcome = .ok text) :
    ∃ rows xs, q.filterDraft.outcome = .ok rows ∧
      Fragment.valueTexts q.dialect c.mode c.next rows.slots = .ok xs ∧
      text = rows.fill q.dialect xs := by
  rw [clause_eq_run h] at htext
  obtain ⟨rows, hrows, hrender⟩ := Draft.outcome_play_eq_ok htext
  rw [h, Fragment.render_eq_fill] at hrender
  obtain ⟨xs, hxs, hfill⟩ := map_eq_ok hrender
  exact ⟨rows, xs, hrows, hxs, hfill⟩

/-- With placeholders, a clause binds the values of the filter. -/
theorem bound_clause (h : c.dialect = q.dialect) (hmode : c.mode = .parameterized) :
    (c.clause q.filter).2.bound = Fragment.parameters q.dialect c.next q.filterDraft.used := by
  rw [clause_eq_run h, bound_run hmode, h]

/-- With literals, a clause binds nothing. -/
theorem bound_clause_inline (h : c.dialect = q.dialect) (hmode : c.mode = .inline) :
    (c.clause q.filter).2.bound = [] := by
  rw [clause_eq_run h]
  exact bound_run_inline hmode _

/-- A clause that fails for one compiler fails for every other. -/
theorem clause_error (h : c.dialect = q.dialect) (h' : c'.dialect = q.dialect)
    (hmode : c.mode = c'.mode) {e : Error} (he : (c.clause q.filter).2.outcome = .error e) :
    (c'.clause q.filter).2.outcome = .error e := by
  rw [clause_eq_run h] at he
  rw [clause_eq_run h']
  -- The draft is the same, and what ends it is not looked for in the numbers.
  have hsame : Draft.playError? c.dialect c.mode q.filterDraft.steps =
      Draft.playError? c'.dialect c'.mode q.filterDraft.steps := by rw [h, h', hmode]
  cases hplay : Draft.playError? c'.dialect c'.mode q.filterDraft.steps with
  | some e' =>
    cases (Draft.outcome_play_of_playError? (hsame.trans hplay)).symm.trans he
    exact Draft.outcome_play_of_playError? hplay
  | none =>
    have hbind := (Draft.outcome_play (hsame.trans hplay)).symm.trans he
    refine (Draft.outcome_play hplay).trans ?_
    cases hrows : q.filterDraft.outcome with
    | error e' =>
      rw [hrows] at hbind
      exact hbind
    | ok rows =>
      obtain ⟨xs, -, hrender⟩ := Draft.render_of_playError? (hsame.trans hplay)
        (used_filterDraft hrows) c.next
      rw [hrows] at hbind
      cases hrender.symm.trans hbind

end Compiler

namespace Query

variable {q : Query} {r : Request} {table : String} {front back : Fragment} {st : Statement}

/-- The clause of the filter of a query, by a compiler that has bound nothing. -/
def clause (q : Query) : Played String := (q.compiler.clause q.filter).2

/-- The clause of a query is that of what its filter comes to. -/
theorem clause_eq_compile? (q : Query) : q.clause =
    ⟨(q.compiler.compile? q.filter).2.bound, (q.compiler.compile? q.filter).2.written,
      (q.compiler.compile? q.filter).2.drops,
      (q.compiler.compile? q.filter).2.outcome.map Compiler.clauseText⟩ := by
  rw [clause, Compiler.clause, Compiler.andThen_done]

/-- The compiler that has bound the values in front of a clause. -/
def compilerBehind (q : Query) (front : Fragment) : Compiler :=
  (q.compiler.run (Fragment.render q.dialect q.mode 1) (.ofFragment front)).1

/-- A statement has the text and the parameters that its draft plays to. -/
theorem play_of_build (h : (q.build r).outcome = .ok st) :
    (q.play (q.draft r)).outcome = .ok st.sql ∧ st.params = (q.play (q.draft r)).bound := by
  rw [outcome_build] at h
  obtain ⟨sql, hplay, haccept⟩ := bind_eq_ok h
  have hst := accept_eq_ok haccept
  subst hst
  exact ⟨hplay, rfl⟩

/-- A statement with a filter is its frame around the clause of the compiler that has bound the
values in front, which goes on behind them, and has the values in front and those of the clause. -/
theorem clause_of_build (hfiltered : r.isFiltered) (h : (q.build r).outcome = .ok st) :
    ∃ table front back before text, q.table = some table ∧
      q.frame table r = .ok (front, back) ∧
      front.render q.dialect q.mode 1 = .ok before ∧
      (q.compilerBehind front).next = 1 + front.slots.length ∧
      ((q.compilerBehind front).clause q.filter).2.outcome = .ok text ∧
      st.sql = before ++ (text ++ back.fill q.dialect []) ∧
      st.params = (q.compilerBehind front).params ++
        ((q.compilerBehind front).clause q.filter).2.bound := by
  obtain ⟨hplay, hparams⟩ := play_of_build h
  obtain ⟨f, hf, -⟩ := Draft.outcome_play_eq_ok hplay
  obtain ⟨table, front, back, htable, hframe⟩ := exists_frame hfiltered hf
  rw [← run_compiler, run_draft_eq htable hframe hfiltered] at hplay hparams
  obtain ⟨before, hbefore, hplay, hbound⟩ := Compiler.andThen_eq_ok hplay
  obtain ⟨_, hfront, hrender⟩ := Draft.outcome_play_eq_ok hbefore
  cases hfront
  have hnext : (q.compilerBehind front).next =
      q.compiler.next + (Draft.ofFragment front).used.length :=
    Compiler.next_run (Draft.playError?_of_play hbefore)
  rw [next_compiler, Draft.used_ofFragment] at hnext
  rw [hbound, Compiler.andThen_done] at hparams
  rw [Compiler.andThen_done] at hplay
  obtain ⟨text, htext, hsql⟩ := map_eq_ok hplay
  exact ⟨table, front, back, before, text, htable, hframe, hrender, hnext, htext, hsql, hparams⟩

/-- Where nothing in front has a value, nothing has been bound. -/
theorem compilerBehind_of_slots_eq_nil (h : front.slots = []) :
    q.compilerBehind front = q.compiler := by
  have hrender : front.render q.dialect q.mode 1 = .ok (front.fill q.dialect []) :=
    Fragment.render_of_slots_eq_nil h 1
  rw [compilerBehind, Draft.ofFragment_of_slots_eq_nil h, ← Compiler.done_eq_run hrender]
  rfl

/-- With literals, nothing is bound in front of a clause. -/
theorem params_compilerBehind_inline (front : Fragment) (hmode : q.mode = .inline) :
    (q.compilerBehind front).params = [] := by
  have hbound : (q.compiler.run (Fragment.render q.dialect q.mode 1) (.ofFragment front)).2.bound =
      [] := Compiler.bound_run_inline hmode _
  exact hbound

/-- With placeholders, the values in front of a clause are bound. -/
theorem params_compilerBehind (front : Fragment) (hmode : q.mode = .parameterized) :
    (q.compilerBehind front).params = Fragment.parameters q.dialect 1 front.slots := by
  have hbound : (q.compiler.run (Fragment.render q.dialect q.mode 1) (.ofFragment front)).2.bound =
      Fragment.parameters q.dialect q.compiler.next (Draft.ofFragment front).used :=
    Compiler.bound_run hmode _
  rw [next_compiler, Draft.used_ofFragment] at hbound
  exact hbound

/-- A clause that starts further on is the clause between the same gaps, with the texts of the same
values further on. -/
theorem clause_raised {c : Compiler} (hdialect : c.dialect = q.dialect) (hmode : c.mode = q.mode)
    {text : String} (htext : (c.clause q.filter).2.outcome = .ok text) :
    ∃ (values : List Value) (gaps xs ys : List String), q.filterDraft.used = values ∧
      gaps.length = values.length + 1 ∧
      Fragment.valueTexts q.dialect q.mode 1 values = .ok xs ∧
      q.clause.outcome = .ok (interleave gaps xs) ∧
      Fragment.valueTexts q.dialect q.mode c.next values = .ok ys ∧
      text = interleave gaps ys := by
  obtain ⟨first, hfirst⟩ : ∃ first, q.clause.outcome = .ok first := by
    cases hclause : q.clause.outcome with
    | ok first => exact ⟨first, rfl⟩
    | error e =>
      have herror := Compiler.clause_error rfl hdialect hmode.symm hclause
      cases htext.symm.trans herror
  obtain ⟨rows, xs, hrows, hxs, rfl⟩ := Compiler.clause_eq_fill rfl hfirst
  obtain ⟨_, ys, hrows', hys, rfl⟩ := Compiler.clause_eq_fill hdialect htext
  -- One fragment gives both texts, so the gaps between their values are the same.
  cases hrows.symm.trans hrows'
  rw [next_compiler] at hxs
  rw [hmode] at hys
  rw [Fragment.fill_eq_interleave _ _ (Fragment.length_valueTexts hxs)] at hfirst
  exact ⟨rows.slots, rows.gaps q.dialect, xs, ys, Compiler.used_filterDraft hrows,
    Fragment.length_gaps .., hxs, hfirst, hys,
    Fragment.fill_eq_interleave _ _ (Fragment.length_valueTexts hys)⟩

/-- A statement of the rows of a clause: the clause of a compiler that has bound nothing within the
frame of the request, with the values of the clause. -/
inductive SelectsBy (q : Query) (r : Request) : Statement → Prop
  | mk {table : String} {front back : Fragment} {text : String} (htable : q.table = some table)
    (hframe : q.frame table r = .ok (front, back)) (htext : q.clause.outcome = .ok text) :
    SelectsBy q r
      ⟨front.fill q.dialect [] ++ (text ++ back.fill q.dialect []), q.clause.bound⟩

/-- An update of the rows of a clause. With literals it has the clause between the same gaps and with
the literals of the same values, numbered behind those of its row; they are the same literals where
no tags are drawn, and where the same ones are. With placeholders it binds the values of its row in
front of those of the clause, and has the clause with its placeholders raised by as many. -/
inductive UpdatesBy (q : Query) (row : Row) : Statement → Prop
  | inline {table : String} {front : Fragment} {before : String} {values : List Value}
    {gaps literals raised : List String} (hmode : q.mode = .inline)
    (htable : q.table = some table) (hframe : q.frame table (.update row) = .ok (front, []))
    (hbefore : front.render q.dialect .inline 1 = .ok before)
    (hgaps : gaps.length = values.length + 1)
    (hliterals : List.Forall₂ (fun vn x => q.dialect.literal vn.2 vn.1 = .ok x)
      (values.zipIdx 1) literals)
    (htext : q.clause.outcome = .ok (interleave gaps literals))
    (hraised : List.Forall₂ (fun vn x => q.dialect.literal vn.2 vn.1 = .ok x)
      (values.zipIdx (1 + row.bound.length)) raised)
    (hsame : q.dialect.engine ≠ .postgres ∨
      (∀ n, q.dialect.tag (n + row.bound.length) = q.dialect.tag n) → raised = literals) :
    UpdatesBy q row ⟨before ++ interleave gaps raised, q.clause.bound⟩
  | bound {table : String} {front : Fragment} {before : String} {gaps : List String}
    (hmode : q.mode = .parameterized) (htable : q.table = some table)
    (hframe : q.frame table (.update row) = .ok (front, []))
    (hbefore : front.render q.dialect .parameterized 1 = .ok before)
    (hgaps : gaps.length = q.clause.bound.length + 1)
    (htext : q.clause.outcome =
      .ok (interleave gaps (Fragment.placeholders q.dialect 1 q.clause.bound.length))) :
    UpdatesBy q row
      ⟨before ++ interleave gaps
          (Fragment.placeholders q.dialect (1 + row.bound.length) q.clause.bound.length),
        Fragment.parameters q.dialect 1 (row.bound ++ q.clause.bound.map (·.value))⟩

/-- A filter by itself is its clause without the blank in front, with the values of the clause, and
there is none where the clause is empty. -/
structure StandsAlone (q : Query) (p : Predicate) : Prop where
  none_iff : (q.dialect.filterClause p).outcome = .ok none ↔ q.clause.outcome = .ok ""
  some_iff : ∀ st, (q.dialect.filterClause p).outcome = .ok (some st) ↔
    q.clause.outcome = .ok (" " ++ st.sql) ∧ st.params = q.clause.bound
  error_iff : ∀ e, (q.dialect.filterClause p).outcome = .error e ↔ q.clause.outcome = .error e

/-- Statements without rows of their own take the rows of the clause. -/
theorem selectsBy_of_build (hfiltered : r.isFiltered) (hrows : r.rows = [])
    (h : (q.build r).outcome = .ok st) : q.SelectsBy r st := by
  obtain ⟨table, front, back, before, text, htable, hframe, hbefore, -, htext, hsql, hparams⟩ :=
    clause_of_build hfiltered h
  have hfront : front.slots = [] := by
    rw [(slots_frame hframe hfiltered).1, hrows]
    rfl
  rw [Fragment.render_of_slots_eq_nil hfront] at hbefore
  rw [compilerBehind_of_slots_eq_nil hfront] at htext hparams
  obtain ⟨sql, params⟩ := st
  cases hbefore
  cases hsql
  cases hparams
  exact .mk htable hframe htext

/-- An update takes the rows of the clause. -/
theorem updatesBy_of_build {row : Row} (h : (q.build (.update row)).outcome = .ok st) :
    q.UpdatesBy row st := by
  obtain ⟨table, front, back, before, text, htable, hframe, hbefore, hnext, htext, hsql, hparams⟩ :=
    clause_of_build rfl h
  have hslots : front.slots = row.bound := by
    rw [(slots_frame hframe rfl).1]
    exact List.append_nil _
  have hback : back = [] := by
    rw [frame] at hframe
    split at hframe <;> cases hframe
    rfl
  subst hback
  have hst : st = ⟨before ++ text, (q.compilerBehind front).params ++
      ((q.compilerBehind front).clause q.filter).2.bound⟩ := by
    rw [Fragment.fill, String.append_empty] at hsql
    rw [← hsql, ← hparams]
  have hdialect : (q.compilerBehind front).dialect = q.dialect := rfl
  have hbehind : (q.compilerBehind front).mode = q.mode := rfl
  obtain ⟨values, gaps, xs, ys, hvalues, hgaps, hxs, hfirst, hys, rfl⟩ :=
    clause_raised hdialect hbehind htext
  rw [hnext, hslots] at hys
  rw [hst]
  cases hmode : q.mode with
  | inline =>
    rw [hmode] at hbefore hxs hys
    have hclause : q.clause.bound = [] := Compiler.bound_clause_inline rfl hmode
    have hraised : ((q.compilerBehind front).clause q.filter).2.bound = [] :=
      Compiler.bound_clause_inline hdialect (hbehind.trans hmode)
    have hliterals : Fragment.literals q.dialect 1 values = .ok xs := hxs
    have hfurther : Fragment.literals q.dialect (1 + row.bound.length) values = .ok ys := hys
    rw [params_compilerBehind_inline front hmode, hraised, List.nil_append, ← hclause]
    refine .inline hmode htable hframe hbefore hgaps (Fragment.literals_eq_ok.mp hliterals) hfirst
      (Fragment.literals_eq_ok.mp hfurther) fun hsame => ?_
    have hequal : Fragment.literals q.dialect (1 + row.bound.length) values =
        Fragment.literals q.dialect 1 values := by
      refine Fragment.literals_add (fun n v => ?_) 1 values
      rcases hsame with hengine | htag
      · exact Dialect.literal_eq hengine _ _ v
      · exact Dialect.literal_of_tag (htag n) v
    rw [hliterals, hfurther] at hequal
    exact Except.ok.inj hequal
  | parameterized =>
    rw [hmode] at hbefore hxs hys
    have hclause : q.clause.bound = Fragment.parameters q.dialect q.compiler.next values := by
      rw [← hvalues]
      exact Compiler.bound_clause rfl hmode
    have hraised : ((q.compilerBehind front).clause q.filter).2.bound =
        Fragment.parameters q.dialect (1 + row.bound.length)
          (q.clause.bound.map (·.value)) := by
      rw [Compiler.bound_clause hdialect (hbehind.trans hmode), hnext, hslots, hvalues, hclause,
        Fragment.map_value_parameters]
    have hcount : values.length = q.clause.bound.length := by
      rw [hclause, Fragment.length_parameters]
    cases hxs
    cases hys
    rw [hcount] at hgaps hfirst ⊢
    rw [params_compilerBehind front hmode, hslots, hraised, ← Fragment.parameters_append]
    exact .bound hmode htable hframe hbefore hgaps hfirst

/-- A filter by itself is its clause, in the mode of the dialect. -/
theorem standsAlone (hmode : q.mode = q.dialect.mode) {p : Predicate}
    (hfilter : q.filter = some p) : q.StandsAlone p := by
  have hclause : q.clause = ⟨(q.compiler.compile p).2.bound, (q.compiler.compile p).2.written,
      (q.compiler.compile p).2.drops,
      (q.compiler.compile p).2.outcome.map Compiler.clauseText⟩ := by
    rw [clause_eq_compile?, hfilter]
    rfl
  have halone : (q.dialect.filterClause p).outcome = (q.compiler.compile p).2.outcome.map
      (Option.map fun text => ⟨"WHERE " ++ text, (q.compiler.compile p).2.bound⟩) := by
    rw [Dialect.filterClause, compiler, hmode]
  have hblank : ∀ s : String, " WHERE " ++ s = " " ++ ("WHERE " ++ s) := fun s => by
    rw [← String.append_assoc]
    rfl
  cases houtcome : (q.compiler.compile p).2.outcome with
  | error e =>
    rw [houtcome] at halone
    constructor <;> simp [halone, hclause, houtcome, Except.map]
  | ok text =>
    rw [houtcome] at halone
    cases text with
    | none =>
      constructor <;> simp [halone, hclause, houtcome, Except.map, Compiler.clauseText]
    | some s =>
      constructor
      · simp [halone, hclause, houtcome, Except.map, Compiler.clauseText]
      · rintro ⟨sql, params⟩
        simp only [halone, hclause, houtcome, Except.map, Compiler.clauseText, hblank,
          Option.map_some, Except.ok.injEq, Option.some.injEq, Statement.mk.injEq,
          String.append_right_inj]
        exact and_congr_right fun _ => eq_comm
      · simp [halone, hclause, houtcome, Except.map]

/-- A filter that fails has no clause. -/
theorem clause_of_compile_error {p : Predicate} {e : Error} (hfilter : q.filter = some p)
    (h : (q.compiler.compile p).2.outcome = .error e) : q.clause.outcome = .error e := by
  have hcompile : (q.compiler.compile? q.filter).2.outcome = .error e := by
    rw [hfilter]
    exact h
  rw [clause_eq_compile?, hcompile]
  rfl

/-- Without a clause there is no statement with a filter. -/
theorem build_error_of_clause {e : Error} (hclause : q.clause.outcome = .error e)
    (hfiltered : r.isFiltered) : ∃ e, (q.build r).outcome = .error e := by
  cases hbuild : (q.build r).outcome with
  | error e => exact ⟨e, rfl⟩
  | ok st =>
    obtain ⟨table, front, back, before, text, -, -, -, -, htext, -⟩ :=
      clause_of_build hfiltered hbuild
    have hdialect : (q.compilerBehind front).dialect = q.dialect := rfl
    have hmode : q.compiler.mode = (q.compilerBehind front).mode := rfl
    have hfail := Compiler.clause_error rfl hdialect hmode hclause
    rw [hfail] at htext
    cases htext

/-- The statements of a query take the same rows. Each of those without rows of its own is its frame
around one clause, with the values of the clause. An update has the clause behind its assignments,
raised by the values that it assigns. In the mode of the dialect, the filter by itself is the clause
as well. If the filter fails, so do all of them. -/
theorem sameRows (q : Query) :
    (∀ r st, r.isFiltered → r.rows = [] → (q.build r).outcome = .ok st → q.SelectsBy r st) ∧
    (∀ row st, (q.build (.update row)).outcome = .ok st → q.UpdatesBy row st) ∧
    (∀ p, q.filter = some p → q.mode = q.dialect.mode → q.StandsAlone p) ∧
    (∀ p e, q.filter = some p → (q.compiler.compile p).2.outcome = .error e →
      (∀ r, r.isFiltered → ∃ e', (q.build r).outcome = .error e') ∧
        (q.mode = q.dialect.mode → (q.dialect.filterClause p).outcome = .error e)) := by
  refine ⟨fun r st hfiltered hrows => selectsBy_of_build hfiltered hrows,
    fun row st => updatesBy_of_build, fun p hfilter hmode => standsAlone hmode hfilter,
    fun p e hfilter hfail => ?_⟩
  have hclause := clause_of_compile_error hfilter hfail
  exact ⟨fun r hfiltered => build_error_of_clause hclause hfiltered,
    fun hmode => ((standsAlone hmode hfilter).error_iff e).mpr hclause⟩

/-- A query whose filter has a leaf that is dropped between two that are not. -/
def overdue : Query where
  dialect := .ofEngine .sqlServer
  mode := .parameterized
  table := some "loans"
  filter := some (.and (.compare .lessThan "due" (.int 9))
    (.and (.compare .equals "copy" .null) (.member .isIn "branch" [.int 1, .int 2])))

/-- A row with a value that is bound and one that is not. -/
def fined : Row := .ofCells [("fine", .int 5), ("note", .null)]

/-- An update of what is counted: the placeholders of its filter follow the one of its row. -/
theorem sameRows_overdue :
    overdue.SelectsBy (.count "n")
        ⟨"SELECT COUNT(*) AS [n] FROM [loans] WHERE (([due] < @p1) AND ([branch] IN (@p2, @p3)))",
          [⟨"@p1", .int 9⟩, ⟨"@p2", .int 1⟩, ⟨"@p3", .int 2⟩]⟩ ∧
      overdue.UpdatesBy fined
        ⟨"UPDATE [loans] SET [fine] = @p1, [note] = NULL" ++
            " WHERE (([due] < @p2) AND ([branch] IN (@p3, @p4)))",
          [⟨"@p1", .int 5⟩, ⟨"@p2", .int 9⟩, ⟨"@p3", .int 1⟩, ⟨"@p4", .int 2⟩]⟩ := by
  obtain ⟨hselects, hupdates, -⟩ := sameRows overdue
  have hcount := eq_ok_of_toOption (x := (overdue.build (.count "n")).outcome)
    (a := ⟨"SELECT COUNT(*) AS [n] FROM [loans] WHERE (([due] < @p1) AND ([branch] IN (@p2, @p3)))",
      [⟨"@p1", .int 9⟩, ⟨"@p2", .int 1⟩, ⟨"@p3", .int 2⟩]⟩) (by decide +kernel)
  have hupdate := eq_ok_of_toOption (x := (overdue.build (.update fined)).outcome)
    (a := ⟨"UPDATE [loans] SET [fine] = @p1, [note] = NULL" ++
      " WHERE (([due] < @p2) AND ([branch] IN (@p3, @p4)))",
      [⟨"@p1", .int 5⟩, ⟨"@p2", .int 9⟩, ⟨"@p3", .int 1⟩, ⟨"@p4", .int 2⟩]⟩) (by decide +kernel)
  exact ⟨hselects _ _ rfl rfl hcount, hupdates _ _ hupdate⟩

end Query

end SqlRender
