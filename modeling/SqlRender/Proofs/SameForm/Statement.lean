import SqlRender.Proofs.SameForm.Query

/-!
# Bound text does not depend on the values

Where values are bound, two uses of a query of the same form come to the same: both fail, or both
give the same texts with the same placeholders. The limits on the bytes of a text and on the number
of its values are no way out, because the one sees the text only and the other the number of slots.
-/

namespace SqlRender

/-- Requests of the same form are limited together. -/
theorem Request.SameForm.isLimited_eq {r s : Request} (h : r.SameForm s) :
    r.isLimited = s.isLimited := by
  cases h <;> rfl

namespace Query

variable {q q' : Query} {r s : Request}

/-- A text is accepted together with as many parameters. -/
theorem SameForm.accept (h : q.SameForm q') (hr : r.SameForm s) {params params' : List Parameter}
    (hparams : params.map (·.placeholder) = params'.map (·.placeholder)) (sql : String) :
    SameEnd Statement.SameText (q.accept r params sql) (q'.accept s params' sql) := by
  have hlength : params.length = params'.length := by
    simpa using congrArg List.length hparams
  have hstatement : SameEnd Statement.SameText (q.statement params sql)
      (q'.statement params' sql) := by
    unfold Query.statement
    rw [h.dialect_eq]
    cases q'.dialect.checkLength sql with
    | error e => exact .error _ _
    | ok _ => exact .ok ⟨rfl, hparams⟩
  have hcheck : q.checkParameters params.length = q'.checkParameters params'.length := by
    rw [checkParameters, checkParameters, h.dialect_eq, hlength]
  unfold Query.accept
  rw [hr.isLimited_eq, hcheck]
  split
  · cases q'.checkParameters params'.length with
    | error e => exact .error _ _
    | ok _ => exact hstatement
  · exact hstatement

/-- Requests of the same form are built alike. -/
theorem SameForm.build (h : q.SameForm q') (hmode : q.mode = .parameterized) (hr : r.SameForm s) :
    SameEnd Statement.SameText (q.build r).outcome (q'.build s).outcome := by
  have hmode' : q'.mode = .parameterized := h.mode_eq ▸ hmode
  rw [outcome_build, outcome_build, outcome_play_bound hmode, outcome_play_bound hmode']
  rcases (h.draft hr).ends with ⟨f, g, hf, hg, hblank⟩ | ⟨e, e', hf, hg⟩
  · rw [hf, hg, bound_play_bound hmode, bound_play_bound hmode', (drafts_of_outcome hf).used_eq,
      (drafts_of_outcome hg).used_eq, ← h.dialect_eq]
    have hplaceholders : (Fragment.parameters q.dialect 1 f.slots).map (·.placeholder) =
        (Fragment.parameters q.dialect 1 g.slots).map (·.placeholder) := by
      rw [Fragment.map_placeholder_parameters, Fragment.map_placeholder_parameters,
        Fragment.length_slots_of_blank hblank]
    have htext : f.boundText q.dialect 1 = g.boundText q.dialect 1 :=
      Fragment.boundText_of_blank hblank 1
    change SameEnd _ (q.accept r _ (f.boundText q.dialect 1))
      (q'.accept s _ (g.boundText q.dialect 1))
    rw [htext]
    exact h.accept hr hplaceholders _
  · rw [hf, hg]
    exact .error _ _

/-- Where values are bound, two uses of a query that differ in values only, and in those only so far
that the same of them are null, texts, and members of a list, either both fail or give the same
texts with the same placeholders. -/
theorem sameText_of_statements (hq : q.SameForm q') (hmode : q.mode = .parameterized)
    {t t' : Terminal} (ht : t.SameForm t') :
    SameEnd (List.Forall₂ Statement.SameText) (q.statements t) (q'.statements t') := by
  cases ht with
  | statement hr =>
    exact (hq.build hmode hr).map fun st st' hsame => .cons hsame .nil
  | @insertBatches rs ss hrows =>
    have hcut : ∀ r s, Row.SameForm r s → q.batchCap rs r.cells.length =
        q'.batchCap ss s.cells.length := by
      intro r s hrow
      have hcells : r.cells.length = s.cells.length := List.Forall₂.length_eq hrow
      rw [hcells, batchCap_congr hq.mode_eq hq.dialect_eq hrows.length_eq]
    refine SameEnd.bind (Row.sameEnd_reference hrows) fun r s hrow => ?_
    rw [hcut r s hrow]
    exact SameEnd.mapM (forall₂_chunks _ hrows) fun rs ss hbatch =>
      hq.build hmode (.insertMany hbatch)

/-- The accounts with a key and either an owner or a note that contains a text. -/
def accountsOf (key : Value) (owners : List Value) (note : String) : Query where
  dialect := .ofEngine .postgres
  mode := .parameterized
  table := some "accounts"
  filter := some (.and (.compare .equals "id" key)
    (.or (.member .isIn "owner" owners) (.pattern .contains "note" note)))

/-- A row that closes an account with a state. -/
def closingRow (state : Value) : Row := .ofCells [("state", state), ("closed", .null)]

/-- The update that closes an account. -/
def closing : Statement where
  sql := "UPDATE \"accounts\" SET \"state\" = $1, \"closed\" = NULL WHERE " ++
    "((\"id\" = $2) AND ((\"owner\" IN ($3, $4)) OR " ++
    "(\"note\" LIKE $5 OR \"note\" LIKE $6 OR \"note\" LIKE $7)))"
  params := [⟨"$1", .int 0⟩, ⟨"$2", .int 1⟩, ⟨"$3", .int 2⟩, ⟨"$4", .int 3⟩,
    ⟨"$5", .string "%x"⟩, ⟨"$6", .string "%x%"⟩, ⟨"$7", .string "x%"⟩]

/-- Nothing in the text shows which values are texts with quotes, which element of a list is null
and how long a value is. -/
theorem sameText_of_statements_closing :
    (accountsOf (.int 1) [.int 2, .int 3] "x").SameForm
        (accountsOf (.string "' OR 1=1 --") [.null, .bool true, .string "$9"] "") ∧
      (accountsOf (.int 1) [.int 2, .int 3] "x").statements
        (.statement (.update (closingRow (.int 0)))) = .ok [closing] ∧
      ∃ st, (accountsOf (.string "' OR 1=1 --") [.null, .bool true, .string "$9"] "").statements
        (.statement (.update (closingRow (.string "NULL")))) = .ok [st] ∧ closing.SameText st := by
  have hkey : Predicate.SameForm (.compare .equals "id" (.int 1))
      (.compare .equals "id" (.string "' OR 1=1 --")) :=
    .node (.field "id") _ (.value (fun _ => rfl) (by decide))
  have howners : Predicate.SameForm (.member .isIn "owner" [.int 2, .int 3])
      (.member .isIn "owner" [.null, .bool true, .string "$9"]) :=
    .node (.field "owner") _ (.list rfl)
  have hnote : Predicate.SameForm (.pattern .contains "note" "x")
      (.pattern .contains "note" "") :=
    .node (.field "note") _ (.value (by decide) fun _ => rfl)
  have hfilter := Predicate.SameForm.node (.nested hkey) .and
    (.nested (.node (.nested howners) .or (.nested hnote)))
  have hquery : (accountsOf (.int 1) [.int 2, .int 3] "x").SameForm
      (accountsOf (.string "' OR 1=1 --") [.null, .bool true, .string "$9"] "") :=
    ⟨rfl, rfl, rfl, rfl, .some hfilter, rfl, rfl, rfl⟩
  have hrow : (closingRow (.int 0)).SameForm (closingRow (.string "NULL")) :=
    .cons ⟨rfl, rfl⟩ (.cons ⟨rfl, rfl⟩ .nil)
  have hplain : (accountsOf (.int 1) [.int 2, .int 3] "x").statements
      (.statement (.update (closingRow (.int 0)))) = .ok [closing] :=
    eq_ok_of_toOption (by decide +kernel)
  have hsame := sameText_of_statements hquery rfl (.statement (.update hrow))
  rw [hplain] at hsame
  refine ⟨hquery, hplain, ?_⟩
  obtain ⟨sts, sts', hsts, hsts', hforall⟩ | ⟨e, _, he, -⟩ := hsame.ends
  · cases hsts
    obtain ⟨st, rest, htext, hrest, rfl⟩ := List.forall₂_cons_left_iff.mp hforall
    cases hrest
    exact ⟨st, hsts', htext⟩
  · cases he

end Query

end SqlRender
