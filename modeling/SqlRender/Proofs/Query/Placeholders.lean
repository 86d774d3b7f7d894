import SqlRender.Proofs.Query.Legible

/-!
# Placeholders and parameters

The placeholders that an engine reads in a statement are the ones that its parameters name, one
after the other and numbered from one, and the parameters hold the values of the rows and then
those of the filter. No name can put a placeholder of its own between them, because the
placeholders are those among the tokens of the whole text.
-/

namespace SqlRender

/-- A statement binds values: the placeholders among its tokens are those of its parameters,
numbered from one, and the parameters hold the values in order. -/
structure Statement.Binds (d : Dialect) (values : List Value) (st : Statement) : Prop where
  placeholders_eq : (d.profile.tokens? st.sql.toList).map (·.filterMap Token.placeholder?) =
    some (st.params.map (·.placeholder))
  numbered : st.params.map (·.placeholder) = (List.range' 1 st.params.length).map d.placeholder
  values_eq : st.values = values

namespace Fragment

variable {d : Dialect}

/-- The placeholders among tokens that are placeholders. -/
theorem filterMap_placeholder (xs : List String) :
    (xs.map fun x => [Token.placeholder x.toList]).flatten.filterMap Token.placeholder? = xs := by
  induction xs with
  | nil => rfl
  | cons x rest ih =>
    rw [List.map_cons, List.flatten_cons, List.filterMap_append, ih]
    simp [Token.placeholder?]

/-- The placeholders among the tokens of a legible fragment are those that bind its slots. -/
theorem tokens_boundText {f : Fragment} (hf : Legible d.profile true f) (start : Nat) :
    (d.profile.tokens? (f.boundText d start).toList).map (·.filterMap Token.placeholder?) =
      some (placeholders d start f.slots.length) := by
  have hreads := reads_fill hf (reads_placeholders d start f.slots.length)
  have hlength : ((placeholders d start f.slots.length).map fun x =>
      [Token.placeholder x.toList]).length = f.slots.length := by simp [placeholders]
  rw [boundText_eq_fill, hreads.tokens?, Option.map_some, placeholders_fillTokens hf hlength,
    filterMap_placeholder]

end Fragment

namespace Query

variable {q : Query}

/-- A parameterized statement binds the values that its request carries. -/
theorem binds_of_renders {r : Request} {f : Fragment} {st : Statement} (h : q.Renders r f st)
    (hmode : q.mode = .parameterized) : st.Binds q.dialect (q.carried r) := by
  obtain ⟨hlegible, hused, hslots⟩ := drafts_of_outcome h.outcome_eq
  have hparams : st.params = Fragment.parameters q.dialect 1 f.slots := by
    rw [h.params_eq, hmode, ← hused]
    rfl
  have hsql : st.sql = f.boundText q.dialect 1 := by
    have hrender := h.render_eq
    rw [hmode] at hrender
    exact (Except.ok.inj hrender).symm
  have hlength : st.params.length = f.slots.length := by simp [hparams, Fragment.parameters]
  have hplaceholders : st.params.map (·.placeholder) =
      Fragment.placeholders q.dialect 1 f.slots.length := by
    rw [hparams, Fragment.map_placeholder_parameters]
  refine ⟨?_, ?_, ?_⟩
  · rw [hsql, hplaceholders, Fragment.tokens_boundText hlegible]
  · rw [hplaceholders, hlength]
    rfl
  · rw [Statement.values, hparams, Fragment.map_value_parameters, hslots]

/-- An inline statement has no parameters. -/
theorem params_of_renders {r : Request} {f : Fragment} {st : Statement} (h : q.Renders r f st)
    (hmode : q.mode = .inline) : st.params = [] := by
  rw [h.params_eq, hmode]
  rfl

/-- The placeholders of every statement are numbered from one in the order of the text, and they
stand for the values of the statement's rows and of the filter: the rows of the statements of one
terminal are the rows given, one part after the other. Inline statements have no parameters. -/
theorem binds_of_statements {t : Terminal} {sts : List Statement} (h : q.statements t = .ok sts) :
    (q.mode = .inline → ∀ st ∈ sts, st.params = []) ∧
    (q.mode = .parameterized → ∃ parts : List (List Row), parts.flatten = t.rows ∧
      List.Forall₂ (fun rows st => st.Binds q.dialect
        (rows.flatMap Row.bound ++ if t.isFiltered then q.filterValues else [])) parts sts) := by
  have hbuild := build_of_statements h
  refine ⟨fun hmode => forall_of_forall₂ hbuild fun r st hr => ?_, fun hmode => ?_⟩
  · obtain ⟨f, hrenders⟩ := renders_of_build hr
    exact params_of_renders hrenders hmode
  · have hfiltered : ∀ r ∈ q.requests t, r.isFiltered = t.isFiltered := fun r =>
      isFiltered_of_mem_requests
    refine ⟨(q.requests t).map Request.rows, ?_, ?_⟩
    · rw [← List.flatMap_def]
      exact flatMap_rows_requests h
    · rw [List.forall₂_map_left_iff]
      refine ((List.forall₂_and_left _ _).mpr ⟨hfiltered, hbuild⟩).imp fun r st hr => ?_
      obtain ⟨f, hrenders⟩ := renders_of_build hr.2
      have hbinds := binds_of_renders hrenders hmode
      rwa [carried, hr.1] at hbinds

/-- A row with a column that is named like a placeholder. -/
def lookalikeRow : Row :=
  .ofCells [("@p2", .string "x"), ("n", .null), ("m", .bool true)]

/-- A query on names like placeholders, with a list that holds null and a comparison that is
dropped. -/
def lookalike : Query where
  dialect := .ofEngine .sqlServer
  mode := .parameterized
  table := some "dbo.@p1]"
  filter := some (.or (.pattern .contains "@p9" "50%")
    (.and (.member .isIn "k" [.null, .int 7]) (.compare .equals "@p8" .null)))

/-- The update of a query on names like placeholders. -/
def lookalikeUpdate : Statement where
  sql := "UPDATE [dbo].[@p1]]] SET [@p2] = @p1, [n] = NULL, [m] = @p2 WHERE " ++
    "(([@p9] LIKE @p3 OR [@p9] LIKE @p4 OR [@p9] LIKE @p5) OR ([k] IN (@p6)))"
  params := [⟨"@p1", .string "x"⟩, ⟨"@p2", .bool true⟩, ⟨"@p3", .string "%50[%]"⟩,
    ⟨"@p4", .string "%50[%]%"⟩, ⟨"@p5", .string "50[%]%"⟩, ⟨"@p6", .int 7⟩]

set_option maxRecDepth 4000 in
/-- Names like placeholders shift no number. -/
theorem binds_of_statements_lookalike :
    lookalike.statements (.statement (.update lookalikeRow)) = .ok [lookalikeUpdate] ∧
      ∃ parts : List (List Row), parts.flatten = [lookalikeRow] ∧
        List.Forall₂ (fun rows st => st.Binds lookalike.dialect
          (rows.flatMap Row.bound ++ lookalike.filterValues)) parts [lookalikeUpdate] := by
  have h : lookalike.statements (.statement (.update lookalikeRow)) = .ok [lookalikeUpdate] := by
    rfl
  exact ⟨h, (binds_of_statements h).2 rfl⟩

end Query

end SqlRender
