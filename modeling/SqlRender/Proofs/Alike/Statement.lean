import SqlRender.Proofs.Alike.Query

/-!
# Contents stay inside their quotes

Outside dollar tags, no text and no name can change how an inline statement is read: two uses of
a query that differ in the contents of texts and names only are read as the same tokens, up to
what stands inside the quotes, and neither holds a comment or an open quote.
-/

namespace SqlRender.Query

variable {q q' : Query}

/-- An inline statement is its fragment written out. -/
theorem writtenText_of_renders {r : Request} {f : Fragment} {st : Statement}
    (h : q.Renders r f st) (hmode : q.mode = .inline) :
    f.writtenText q.dialect 1 = .ok st.sql := by
  have hrender := h.render_eq
  rwa [hmode] at hrender

/-- The statements of alike requests have the same shape. -/
theorem Alike.sameShape (h : q.Alike q') (hengine : q.dialect.engine ≠ .postgres)
    (hmode : q.mode = .inline) {r s : Request} (hr : r.Alike s) {st st' : Statement}
    (hst : (q.build r).outcome = .ok st) (hst' : (q'.build s).outcome = .ok st') :
    q.dialect.profile.SameShape st.sql st'.sql := by
  obtain ⟨f, hf⟩ := renders_of_build hst
  obtain ⟨g, hg⟩ := renders_of_build hst'
  have hlegible := (drafts_of_outcome hf.outcome_eq).legible
  have hlegible' := (drafts_of_outcome hg.outcome_eq).legible
  have hwritten := writtenText_of_renders hf hmode
  have hwritten' := writtenText_of_renders hg (h.mode_eq ▸ hmode)
  rw [← h.dialect_eq] at hlegible' hwritten'
  exact Fragment.sameShape_writtenText hengine (h.draft hr hf.outcome_eq hg.outcome_eq) hlegible
    hlegible' hwritten hwritten'

/-- Two uses of a query that differ in the contents of texts and names only give, statement by
statement, the same tokens up to the contents of names and strings. -/
theorem sameShape_of_statements (hq : q.Alike q') (hengine : q.dialect.engine ≠ .postgres)
    (hmode : q.mode = .inline) {t t' : Terminal} (ht : t.Alike t') {sts sts' : List Statement}
    (h : q.statements t = .ok sts) (h' : q'.statements t' = .ok sts') :
    List.Forall₂ (fun st st' => q.dialect.profile.SameShape st.sql st'.sql) sts sts' :=
  forall₂_of_related (hq.requests ht h h') (build_of_statements h) (build_of_statements h')
    fun _ _ _ _ hr hst hst' => hq.sameShape hengine hmode hr hst hst'

/-- A query that looks for a text in a column of a table. -/
def lookingFor (table column text : String) : Query where
  dialect := .ofEngine .mySql
  mode := .inline
  table := some table
  filter := some (.or (.compare .equals column (.string text)) (.pattern .startsWith column text))

/-- The deletion of the rows with a plain text in a plain column. -/
def plainDelete : Statement where
  sql := "DELETE FROM `users` WHERE ((`name` = 'bob') OR (`name` LIKE 'bob%'))"
  params := []

/-- The deletion of the rows with a text that ends in a backslash, a quote and a comment mark. -/
def hostileDelete : Statement where
  sql := "DELETE FROM `us``ers` WHERE ((`a`` -- ?` = '\\\\'' OR 1=1  ') OR " ++
    "(`a`` -- ?` LIKE '\\\\\\\\'' OR 1=1  %'))"
  params := []

/-- Marks in names, and a text that would end its quotes without its backslash, change no
token. -/
theorem sameShape_of_statements_hostile :
    (lookingFor "users" "name" "bob").Alike (lookingFor "us`ers" "a` -- ?" "\\' OR 1=1 -- ") ∧
      (lookingFor "users" "name" "bob").statements (.statement .delete) = .ok [plainDelete] ∧
      (lookingFor "us`ers" "a` -- ?" "\\' OR 1=1 -- ").statements (.statement .delete) =
        .ok [hostileDelete] ∧
      List.Forall₂ (fun st st' => Profile.mySql.SameShape st.sql st'.sql) [plainDelete]
        [hostileDelete] := by
  have hcolumn : AlikeNames "name" "a` -- ?" := by decide
  have hfilter : Predicate.Alike
      (.or (.compare .equals "name" (.string "bob")) (.pattern .startsWith "name" "bob"))
      (.or (.compare .equals "a` -- ?" (.string "\\' OR 1=1 -- "))
        (.pattern .startsWith "a` -- ?" "\\' OR 1=1 -- ")) :=
    .node (.nested (.node (.field hcolumn) _ (.value (.strings _ _)))) _
      (.nested (.node (.field hcolumn) _ (.value (.strings _ _))))
  have hquery : (lookingFor "users" "name" "bob").Alike
      (lookingFor "us`ers" "a` -- ?" "\\' OR 1=1 -- ") := by
    have htable : AlikeNames "users" "us`ers" := by decide
    exact ⟨rfl, rfl, .some htable, .nil, .some hfilter, .nil, rfl, rfl⟩
  have hplain : (lookingFor "users" "name" "bob").statements (.statement .delete) =
      .ok [plainDelete] := eq_ok_of_toOption (by decide +kernel)
  have hhostile : (lookingFor "us`ers" "a` -- ?" "\\' OR 1=1 -- ").statements
      (.statement .delete) = .ok [hostileDelete] := eq_ok_of_toOption (by decide +kernel)
  exact ⟨hquery, hplain, hhostile,
    sameShape_of_statements hquery (by decide) rfl (.statement .delete) hplain hhostile⟩

end SqlRender.Query
