import SqlRender.Proofs.Draft
import SqlRender.Proofs.Lists
import SqlRender.Proofs.Predicate.Kept
import SqlRender.Proofs.Query.Groups
import SqlRender.Query.Select

/-!
# Requests

A request says which statement is made from a query, and a terminal is a request or the batches
of a long insert. Every request has one draft: the statement is its fragment, rendered from the
first placeholder, and the values bound are those that the draft uses. A statement of a batch is
the insert of the batch's rows, and the batches are the rows one after the other.
-/

namespace SqlRender

/-- What one statement is made for. -/
inductive Request
  | select
  | insert (row : Row)
  | insertMany (rows : List Row)
  | update (row : Row)
  | delete
  | exists_ (label : String)
  | count (label : String)
  | sum (field label : String)
  | truncate

/-- What a query ends in: one statement, or the batches of an insert. -/
inductive Terminal
  | statement (r : Request)
  | insertBatches (rows : List Row)

/-- The values of a row that are bound: all but nulls, in the order of the columns. -/
def Row.bound (row : Row) : List Value := row.values.filter (!·.isNull)

namespace Request

/-- The rows whose values a request carries. -/
def rows : Request → List Row
  | insert row | update row => [row]
  | insertMany rows => rows
  | _ => []

/-- Whether the statement of a request has the filter of the query. -/
def isFiltered : Request → Bool
  | insert _ | insertMany _ | truncate => false
  | _ => true

/-- Whether a request is refused when it binds more values than the engine takes. -/
def isLimited : Request → Bool
  | insertMany _ => true
  | _ => false

end Request

namespace Terminal

/-- The rows whose values a terminal carries. -/
def rows : Terminal → List Row
  | statement r => r.rows
  | insertBatches rows => rows

/-- Whether the statements of a terminal have the filter of the query. -/
def isFiltered : Terminal → Bool
  | statement r => r.isFiltered
  | insertBatches _ => false

end Terminal

namespace Query

/-- The draft of a request. -/
def draft (q : Query) : Request → Draft Fragment
  | .select => q.selectDraft
  | .insert row => q.insertDraft row
  | .insertMany rows => q.insertManyDraft rows
  | .update row => q.updateDraft row
  | .delete => q.deleteDraft
  | .exists_ label => q.existsDraft label
  | .count label => q.countDraft label
  | .sum field label => q.sumDraft field label
  | .truncate => q.truncateDraft

/-- The statement of a request. -/
def build (q : Query) : Request → Played Statement
  | .select => q.select
  | .insert row => q.insert row
  | .insertMany rows => q.insertMany rows
  | .update row => q.update row
  | .delete => q.delete
  | .exists_ label => q.exists_ label
  | .count label => q.count label
  | .sum field label => q.sum field label
  | .truncate => q.truncate

/-- The statement of a request with a text and parameters, unless they are more than the engine
takes. -/
def accept (q : Query) (r : Request) (params : List Parameter) (sql : String) :
    Except Error Statement :=
  if r.isLimited then (q.checkParameters params.length).bind fun _ => q.statement params sql
  else q.statement params sql

/-- The statements of a terminal. -/
def statements (q : Query) : Terminal → Except Error (List Statement)
  | .statement r => (q.build r).outcome.map fun st => [st]
  | .insertBatches rows => q.insertBatches rows

/-- A fragment and a statement that a request comes to: the fragment is the outcome of its draft,
the text is the fragment rendered, and the parameters are those of the values used. -/
structure Renders (q : Query) (r : Request) (f : Fragment) (st : Statement) : Prop where
  outcome_eq : (q.draft r).outcome = .ok f
  render_eq : f.render q.dialect q.mode 1 = .ok st.sql
  params_eq : st.params = Draft.boundParameters q.dialect q.mode 1 (q.draft r).steps

variable {q : Query}

/-- A request is built by playing its draft and accepting what comes of it. -/
theorem outcome_build (q : Query) (r : Request) : (q.build r).outcome =
    (q.play (q.draft r)).outcome.bind (q.accept r (q.play (q.draft r)).bound) := by
  cases r <;> rfl

/-- With placeholders, a draft plays to its bound text. -/
theorem outcome_play_bound (hmode : q.mode = .parameterized) (draft : Draft Fragment) :
    (q.play draft).outcome = draft.outcome.map (·.boundText q.dialect 1) := by
  unfold play Draft.play
  rw [hmode]
  cases draft.outcome <;> rfl

/-- With placeholders, playing a draft binds the values that it uses. -/
theorem bound_play_bound (hmode : q.mode = .parameterized) (draft : Draft Fragment) :
    (q.play draft).bound = Fragment.parameters q.dialect 1 draft.used := by
  unfold play Draft.play
  rw [hmode]
  rfl

/-- A statement that is accepted has the text and the parameters that it was given. -/
theorem statement_eq_ok {params : List Parameter} {sql : String} {st : Statement}
    (h : q.statement params sql = .ok st) : st = ⟨sql, params⟩ := by
  obtain ⟨-, -, hst⟩ := bind_eq_ok h
  exact (Except.ok.inj hst).symm

/-- A statement that is not accepted has a text longer than the engine takes. -/
theorem statement_eq_error {params : List Parameter} {sql : String} {e : Error}
    (h : q.statement params sql = .error e) : q.dialect.maxStatementLength < sql.utf8ByteSize ∧
      e = .statementTooLong q.dialect.engine sql.utf8ByteSize q.dialect.maxStatementLength := by
  rcases bind_eq_error h with hlength | ⟨-, -, hdone⟩
  · unfold Dialect.checkLength at hlength
    split at hlength
    · next hover => exact ⟨hover, (Except.error.inj hlength).symm⟩
    · cases hlength
  · cases hdone

/-- A text that is accepted for a request becomes its statement with the parameters. -/
theorem accept_eq_ok {r : Request} {params : List Parameter} {sql : String} {st : Statement}
    (h : q.accept r params sql = .ok st) : st = ⟨sql, params⟩ := by
  unfold accept at h
  split at h
  · obtain ⟨-, -, hstatement⟩ := bind_eq_ok h
    exact statement_eq_ok hstatement
  · exact statement_eq_ok h

/-- The statement of a request is rendered from its draft. -/
theorem renders_of_build {r : Request} {st : Statement} (h : (q.build r).outcome = .ok st) :
    ∃ f, q.Renders r f st := by
  rw [outcome_build] at h
  obtain ⟨sql, hplay, haccept⟩ := bind_eq_ok h
  obtain ⟨f, hf, hrender⟩ := Draft.outcome_play_eq_ok hplay
  have hst := accept_eq_ok haccept
  subst hst
  exact ⟨f, hf, hrender, rfl⟩

/-- The requests of a terminal: its own, or one insert for each batch of rows. -/
def requests (q : Query) : Terminal → List Request
  | .statement r => [r]
  | .insertBatches rows =>
    match Row.reference rows with
    | .ok reference => (cut (q.batchCap rows reference.cells.length) rows).map .insertMany
    | .error _ => []

/-- Batches that are made have a first row. -/
theorem reference_of_statements {rows : List Row} {sts : List Statement}
    (h : q.statements (.insertBatches rows) = .ok sts) :
    ∃ reference, Row.reference rows = .ok reference := by
  obtain ⟨reference, hreference, -⟩ := bind_eq_ok h
  exact ⟨reference, hreference⟩

/-- The statements of a terminal are those of its requests. -/
theorem build_of_statements {t : Terminal} {sts : List Statement} (h : q.statements t = .ok sts) :
    List.Forall₂ (fun r st => (q.build r).outcome = .ok st) (q.requests t) sts := by
  cases t with
  | statement r =>
    obtain ⟨st, hst, rfl⟩ := map_eq_ok h
    exact .cons hst .nil
  | insertBatches rows =>
    obtain ⟨reference, hreference⟩ := reference_of_statements h
    rw [statements, insertBatches, hreference] at h
    simp only [requests, hreference]
    exact List.forall₂_map_left_iff.mpr (mapM_eq_ok.mp h)

/-- The requests of a terminal carry its rows between them. -/
theorem flatMap_rows_requests {t : Terminal} {sts : List Statement}
    (h : q.statements t = .ok sts) : (q.requests t).flatMap Request.rows = t.rows := by
  cases t with
  | statement r => simp [requests, Terminal.rows]
  | insertBatches rows =>
    obtain ⟨reference, hreference⟩ := reference_of_statements h
    have hrows : ∀ batches : List (List Row),
        (batches.map Request.insertMany).flatMap Request.rows = batches.flatten := by
      intro batches
      rw [List.flatMap_map, List.flatMap_def]
      exact congrArg List.flatten (List.map_id batches)
    simp only [requests, hreference]
    rw [hrows]
    exact flatten_chunks _ rows

/-- The requests of a terminal have the filter of the query when the terminal has. -/
theorem isFiltered_of_mem_requests {t : Terminal} {r : Request} (h : r ∈ q.requests t) :
    r.isFiltered = t.isFiltered := by
  cases t with
  | statement r' => rw [List.mem_singleton.mp h]; rfl
  | insertBatches rows =>
    unfold requests at h
    dsimp only at h
    split at h
    · obtain ⟨batch, -, rfl⟩ := List.mem_map.mp h
      rfl
    · cases h

end Query

end SqlRender
