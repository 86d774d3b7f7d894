import SqlRender.Proofs.Compiler
import SqlRender.Proofs.Query.Placeholders

/-!
# A compiler over its whole life

A compiler may be called any number of times, and it goes on after a call that fails. A call that
gives a text has bound the placeholders of the text, and a call that drops everything has bound
nothing. A call that fails keeps what it bound on the way: the first of two predicates that are
joined may have been bound when the second one fails. So the placeholders of the texts are those of
the parameters exactly when no call has failed in this way.
-/

namespace SqlRender

/-- What a compiler is called for. -/
inductive Call
  | compile (p : Predicate)
  | value (v : Value)

/-- What is drafted for a call. -/
def Call.draft (d : Dialect) : Call → Draft (Option Fragment)
  | compile p => p.draft d
  | value v => some <$> Draft.ofFragment (Fragment.ofValue v)

/-- The placeholders that an engine reads in a text, from left to right. -/
def Dialect.placeholdersIn (d : Dialect) (sql : String) : Option (List String) :=
  (d.profile.tokens? sql.toList).map (·.filterMap Token.placeholder?)

/-- What a call leaves behind: a text has the placeholders that were bound for it, nothing is bound
where all is dropped, and a failure binds something only where predicates are joined. -/
structure Call.Leaves (d : Dialect) (x : Call) (played : Played (Option String)) : Prop where
  text : ∀ sql, played.outcome = .ok (some sql) →
    d.placeholdersIn sql = some (played.bound.map (·.placeholder))
  dropped : played.outcome = .ok none → played.bound = []
  failed : ∀ e, played.outcome = .error e → played.bound ≠ [] →
    ∃ left op right, op.isCombinator ∧ x = .compile (.node (.nested left) op right)

namespace Predicate

variable {d : Dialect} {op : Operator} {field : String} {right : Operand}

/-- Dropping a leaf uses no value. -/
theorem used_dropLeaf (leaf : Drop) : (dropLeaf d leaf).used = [] := by
  unfold dropLeaf
  split <;> rfl

/-- A comparison that fails has used no value. -/
theorem used_of_comparison_error {e : Error}
    (h : (draftComparison d op field right).outcome = .error e) :
    (draftComparison d op field right).used = [] := by
  cases right with
  | value v =>
    cases v with
    | null => exact used_dropLeaf _
    | _ => cases h
  | absent => exact used_dropLeaf _
  | list vs => rfl
  | nested p => rfl

/-- A membership that fails has used no value. -/
theorem used_of_membership_error {e : Error}
    (h : (some <$> draftMembership op field right).outcome = .error e) :
    (some <$> draftMembership op field right).used = [] := by
  cases right with
  | list vs =>
    unfold draftMembership at h
    dsimp only at h
    split at h <;> cases h
  | value v => rfl
  | nested p => rfl
  | absent => rfl

/-- A pattern that fails has used no value. -/
theorem used_of_pattern_error {e : Error}
    (h : (draftPattern d op field right).outcome = .error e) :
    (draftPattern d op field right).used = [] := by
  cases right with
  | value v =>
    cases v with
    | string s => cases h
    | _ => exact used_dropLeaf _
  | list vs => exact used_dropLeaf _
  | nested p => exact used_dropLeaf _
  | absent => exact used_dropLeaf _

/-- A leaf that fails has used no value. -/
theorem used_of_leaf_error {e : Error} (h : (draftLeaf d op field right).outcome = .error e) :
    (draftLeaf d op field right).used = [] := by
  unfold draftLeaf at h ⊢
  cases hfamily : op.family with
  | nullity => rfl
  | membership => exact used_of_membership_error (by rwa [hfamily] at h)
  | pattern => exact used_of_pattern_error (by rwa [hfamily] at h)
  | comparison => exact used_of_comparison_error (by rwa [hfamily] at h)
  | combinator => exact used_of_comparison_error (by rwa [hfamily] at h)

/-- A predicate that fails has used values only where it joins others. -/
theorem used_of_error {p : Predicate} {e : Error} (h : (p.draft d).outcome = .error e)
    (hused : (p.draft d).used ≠ []) :
    ∃ left op right, op.isCombinator ∧ p = .node (.nested left) op right := by
  obtain ⟨left, op, right⟩ := p
  cases left with
  | field name =>
    rw [draft] at h hused
    cases hop : op.isCombinator with
    | true =>
      rw [hop] at hused
      exact absurd rfl hused
    | false =>
      rw [hop] at h hused
      exact absurd (used_of_leaf_error h) hused
  | nested l =>
    cases hop : op.isCombinator with
    | true => exact ⟨l, op, right, hop, rfl⟩
    | false =>
      rw [draft, hop] at hused
      exact absurd rfl hused

end Predicate

namespace Call

variable {d : Dialect} {x : Call}

/-- What a call drafts uses the values of its slots. -/
theorem used_of_outcome {f : Option Fragment} (h : (x.draft d).outcome = .ok f) :
    (x.draft d).used = (f.map Fragment.slots).getD [] := by
  cases x with
  | compile p => exact (Predicate.draft_eq_kept h).2
  | value v =>
    obtain ⟨rfl, hused⟩ := Predicate.outcome_some_ofFragment h
    exact hused

/-- What a call drafts is legible. -/
theorem legible_of_outcome {f : Fragment} (h : (x.draft d).outcome = .ok (some f)) :
    Fragment.Legible d.profile true f := by
  cases x with
  | compile p =>
    obtain ⟨hf, -⟩ := Predicate.draft_eq_kept h
    obtain ⟨k, -, rfl⟩ := Option.map_eq_some_iff.mp hf.symm
    exact k.legible_fragment.behindBreak
  | value v =>
    cases h
    exact Query.legible_ofValue v

end Call

namespace Compiler

variable {c : Compiler} {x : Call}

/-- One call: what it leaves of the compiler, and what it comes to. -/
def call (c : Compiler) : Call → Compiler × Played (Option String)
  | .compile p => c.compile p
  | .value v =>
    let (after, played) := c.value v
    (after, { played with outcome := played.outcome.map some })

/-- Calls one after the other, whatever they come to. -/
def calls : Compiler → List Call → Compiler × List (Played (Option String))
  | c, [] => (c, [])
  | c, x :: rest =>
    let first := c.call x
    let others := first.1.calls rest
    (others.1, first.2 :: others.2)

/-- The texts that calls have come to. -/
def texts (results : List (Played (Option String))) : List String :=
  results.filterMap fun played => played.outcome.toOption.join

/-- A call plays its draft. -/
theorem call_eq_run (c : Compiler) (x : Call) : c.call x = c.run c.finish (x.draft c.dialect) := by
  cases x with
  | compile p => rfl
  | value v =>
    have hdraft : Call.draft c.dialect (.value v) =
        ⟨(Fragment.ofValue v).slots.map .use, .ok (some (Fragment.ofValue v))⟩ :=
      congrArg (Draft.mk · _) (List.append_nil _)
    rw [hdraft]
    simp only [call, value, run, Draft.play, Draft.ofFragment]
    cases Draft.playError? c.dialect c.mode ((Fragment.ofValue v).slots.map .use) <;> rfl

/-- A call keeps what it has bound and written, and nothing else changes. -/
theorem fst_call (c : Compiler) (x : Call) :
    (c.call x).1 = c.keep (c.call x).2.bound (c.call x).2.written := by
  rw [call_eq_run]
  rfl

/-- With placeholders, a call binds the values that its draft uses. -/
theorem bound_call (hmode : c.mode = .parameterized) (x : Call) :
    (c.call x).2.bound = Fragment.parameters c.dialect c.next (x.draft c.dialect).used := by
  rw [call_eq_run]
  exact bound_run hmode _

/-- With placeholders, a call comes to what its draft comes to with bound text. -/
theorem outcome_call (hmode : c.mode = .parameterized) (x : Call) : (c.call x).2.outcome =
    (x.draft c.dialect).outcome.map (Option.map (·.boundText c.dialect c.next)) := by
  rw [call_eq_run]
  exact outcome_run_bound hmode _

/-- With placeholders, one call leaves what calls leave. -/
theorem leaves_call (hmode : c.mode = .parameterized) (x : Call) :
    x.Leaves c.dialect (c.call x).2 := by
  have houtcome := outcome_call hmode x
  have hbound := bound_call hmode x
  refine ⟨fun sql hsql => ?_, fun hnone => ?_, fun e he hne => ?_⟩
  · rw [hsql] at houtcome
    obtain ⟨f, hdraft, htext⟩ := map_eq_ok houtcome.symm
    obtain ⟨g, rfl, rfl⟩ := Option.map_eq_some_iff.mp htext.symm
    have hused : (x.draft c.dialect).used = g.slots := Call.used_of_outcome hdraft
    rw [hbound, hused, Fragment.map_placeholder_parameters]
    exact Fragment.tokens_boundText (Call.legible_of_outcome hdraft) c.next
  · rw [hnone] at houtcome
    obtain ⟨f, hdraft, htext⟩ := map_eq_ok houtcome.symm
    have hf := Option.map_eq_none_iff.mp htext.symm
    subst hf
    rw [hbound, Call.used_of_outcome hdraft]
    rfl
  · have hused : (x.draft c.dialect).used ≠ [] := by
      intro hused
      rw [hbound, hused] at hne
      exact hne rfl
    rw [he] at houtcome
    cases x with
    | value v => cases houtcome
    | compile p =>
      cases hdraft : (p.draft c.dialect).outcome with
      | ok f =>
        rw [Call.draft, hdraft] at houtcome
        cases houtcome
      | error e' =>
        obtain ⟨left, op, right, hop, rfl⟩ := Predicate.used_of_error hdraft hused
        exact ⟨left, op, right, hop, rfl⟩

/-- The parameters of a compiler are numbered one after the other. -/
def Numbered (c : Compiler) : Prop :=
  c.params.map (·.placeholder) = Fragment.placeholders c.dialect 1 c.params.length

/-- A call goes on numbering where the parameters end. -/
theorem Numbered.call (h : c.Numbered) (hmode : c.mode = .parameterized) (x : Call) :
    (c.call x).1.Numbered := by
  unfold Numbered at h
  rw [fst_call, bound_call hmode, Numbered, keep]
  dsimp only
  rw [List.map_append, h, Fragment.map_placeholder_parameters]
  simp only [Fragment.placeholders, Fragment.parameters, next, hmode, List.length_append,
    List.length_map, List.length_zipIdx]
  rw [← List.map_append, Nat.add_comm c.params.length 1, List.range'_append_1]

/-- What holds of a call wherever it is made holds of every call among others. -/
theorem forall₂_calls {R : Call → Played (Option String) → Prop} (xs : List Call)
    (h : ∀ c' : Compiler, c'.dialect = c.dialect → c'.mode = c.mode → ∀ x, R x (c'.call x).2) :
    List.Forall₂ R xs (c.calls xs).2 := by
  induction xs generalizing c with
  | nil => exact .nil
  | cons x rest ih =>
    refine .cons (h c rfl rfl x) (ih fun c' hdialect hmode => h c' ?_ ?_)
    · rw [hdialect, fst_call]
      rfl
    · rw [hmode, fst_call]
      rfl

/-- Calls keep what they have bound, one after the other. -/
theorem params_calls (c : Compiler) (xs : List Call) :
    (c.calls xs).1.params = c.params ++ (c.calls xs).2.flatMap (·.bound) := by
  induction xs generalizing c with
  | nil => exact (List.append_nil _).symm
  | cons x rest ih =>
    rw [calls]
    dsimp only
    rw [ih, fst_call, keep, List.flatMap_cons, List.append_assoc]

/-- Calls number their parameters in one sequence. -/
theorem Numbered.calls (h : c.Numbered) (hmode : c.mode = .parameterized) (xs : List Call) :
    (c.calls xs).1.Numbered := by
  induction xs generalizing c with
  | nil => exact h
  | cons x rest ih =>
    have hafter : (c.call x).1.mode = .parameterized := by
      rw [fst_call]
      exact hmode
    exact ih (h.call hmode x) hafter

/-- The placeholders of the texts are those that were bound by the calls that did not fail. -/
theorem placeholders_texts {d : Dialect} {xs : List Call} {results : List (Played (Option String))}
    (h : List.Forall₂ (Call.Leaves d) xs results) :
    ((texts results).mapM d.placeholdersIn).map List.flatten =
      some ((results.filter (·.outcome.isOk)).flatMap fun played =>
        played.bound.map (·.placeholder)) := by
  induction h with
  | nil => rfl
  | @cons x played xs rest hleaves _ ih =>
    obtain ⟨xss, hrest, hflatten⟩ := Option.map_eq_some_iff.mp ih
    cases hplayed : played.outcome with
    | error e =>
      have htexts : texts (played :: rest) = texts rest := by
        simp [texts, hplayed, Except.toOption]
      rw [htexts, List.filter_cons_of_neg (by simp [hplayed, Except.isOk, Except.toBool]), ih]
    | ok f =>
      rw [List.filter_cons_of_pos (by simp [hplayed, Except.isOk, Except.toBool]),
        List.flatMap_cons]
      cases f with
      | none =>
        have htexts : texts (played :: rest) = texts rest := by
          simp [texts, hplayed, Except.toOption]
        rw [htexts, ih, hleaves.dropped hplayed, List.map_nil, List.nil_append]
      | some sql =>
        have htexts : texts (played :: rest) = sql :: texts rest := by
          simp [texts, hplayed, Except.toOption]
        rw [htexts, List.mapM_cons, hleaves.text sql hplayed, hrest, ← hflatten]
        rfl

/-- After any calls of a new compiler, whatever they come to, the parameters are those that the
calls have bound, one after the other and numbered in one sequence. A text has the placeholders
bound for it, nothing is bound where all is dropped, and a failure binds something only where
predicates are joined. The placeholders of the texts are those of the parameters exactly when no
call that failed has bound anything. -/
theorem placeholders_of_calls (hmode : c.mode = .parameterized) (hnew : c.params = [])
    (xs : List Call) :
    (c.calls xs).1.params = (c.calls xs).2.flatMap (·.bound) ∧
    (c.calls xs).1.Numbered ∧
    List.Forall₂ (Call.Leaves c.dialect) xs (c.calls xs).2 ∧
    (((texts (c.calls xs).2).mapM c.dialect.placeholdersIn).map List.flatten =
        some ((c.calls xs).1.params.map (·.placeholder)) ↔
      ∀ played ∈ (c.calls xs).2, played.outcome.isOk ∨ played.bound = []) := by
  have hparams : (c.calls xs).1.params = (c.calls xs).2.flatMap (·.bound) := by
    rw [params_calls, hnew, List.nil_append]
  have hnumbered : c.Numbered := by
    rw [Numbered, hnew]
    rfl
  have hleaves : List.Forall₂ (Call.Leaves c.dialect) xs (c.calls xs).2 :=
    forall₂_calls xs fun c' hdialect hmode' x => by
      rw [← hdialect]
      exact leaves_call (hmode'.trans hmode) x
  refine ⟨hparams, hnumbered.calls hmode xs, hleaves, ?_⟩
  rw [placeholders_texts hleaves, hparams, List.map_flatMap, Option.some_inj,
    flatMap_filter_eq_iff]
  simp only [List.map_eq_nil_iff]

/-- A new compiler whose placeholders all look the same. -/
def unnumbered : Compiler where
  dialect := .ofEngine .mySql
  mode := .parameterized

/-- Calls of which one drops everything, and one fails before it has bound anything. -/
def carefulCalls : List Call :=
  [.compile (.and (.compare .equals "a" (.int 1)) (.member .isIn "b" [.null, .int 2])),
    .compile (.compare .equals "c" .null), .compile (.compare .isIn "d" (.int 4)), .value (.int 3)]

/-- Calls that are dropped and leaves that fail leave no trace among the parameters. -/
theorem placeholders_of_calls_careful :
    (unnumbered.calls carefulCalls).1.params = [⟨"?", .int 1⟩, ⟨"?", .int 2⟩, ⟨"?", .int 3⟩] ∧
      texts (unnumbered.calls carefulCalls).2 = ["((`a` = ?) AND (`b` IN (?)))", "?"] ∧
      ((texts (unnumbered.calls carefulCalls).2).mapM unnumbered.dialect.placeholdersIn).map
        List.flatten = some ["?", "?", "?"] := by
  have hparams : (unnumbered.calls carefulCalls).1.params =
      [⟨"?", .int 1⟩, ⟨"?", .int 2⟩, ⟨"?", .int 3⟩] := by decide +kernel
  have htexts : texts (unnumbered.calls carefulCalls).2 =
      ["((`a` = ?) AND (`b` IN (?)))", "?"] := by decide +kernel
  have hbound : ∀ played ∈ (unnumbered.calls carefulCalls).2,
      played.outcome.isOk ∨ played.bound = [] := by decide +kernel
  have hread := (placeholders_of_calls (c := unnumbered) rfl rfl carefulCalls).2.2.2.mpr hbound
  rw [hparams] at hread
  exact ⟨hparams, htexts, hread⟩

/-- Two predicates joined, of which the second one fails when the first one is bound. -/
def brokenJoin : Predicate :=
  .and (.compare .equals "a" (.int 1)) (.compare .isIn "b" (.int 2))

/-- A failure behind a value that is bound leaves a parameter without a placeholder, in front of
those of the next text. -/
theorem orphan_of_brokenJoin :
    (unnumbered.call (.compile brokenJoin)).2.outcome.isOk = false ∧
      (unnumbered.call (.compile brokenJoin)).1.params = [⟨"?", .int 1⟩] ∧
      texts (unnumbered.calls [.compile brokenJoin, .value (.int 3)]).2 = ["?"] ∧
      (unnumbered.calls [.compile brokenJoin, .value (.int 3)]).1.params =
        [⟨"?", .int 1⟩, ⟨"?", .int 3⟩] ∧
      ((texts (unnumbered.calls [.compile brokenJoin, .value (.int 3)]).2).mapM
        unnumbered.dialect.placeholdersIn).map List.flatten ≠
          some ((unnumbered.calls [.compile brokenJoin, .value (.int 3)]).1.params.map
            (·.placeholder)) := by
  decide +kernel

end Compiler

end SqlRender
