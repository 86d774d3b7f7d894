import SqlRender.Proofs.Compiler
import SqlRender.Proofs.Predicate.Modes

/-!
# Strict dialects

A strict dialect refuses the leaves that a lenient one drops. What it makes of a predicate is what
the lenient dialect makes of it up to the first dropped leaf, where it stops: `draft_strict` says so
of drafts. So where the lenient dialect drops nothing, the strict one renders the same text and
binds the same values, and everywhere else it fails.
-/

namespace SqlRender

namespace Draft

variable {α β : Type} {d : Dialect} {mode : Mode}

/-- A draft behind a step. -/
def behind (step : Step) (draft : Draft α) : Draft α := ⟨step :: draft.steps, draft.outcome⟩

/-- Goes through steps to an outcome, and refuses the first leaf that is dropped on the way. -/
def refuse (outcome : Except Error α) : List Step → Draft α
  | [] => ⟨[], outcome⟩
  | .drop leaf :: _ => .fail (.unrenderable (.dropped leaf))
  | .use v :: rest => (refuse outcome rest).behind (.use v)

/-- The draft up to the first leaf that it drops, where it is refused. -/
def refused (draft : Draft α) : Draft α := refuse draft.outcome draft.steps

/-- What is behind a draft is behind the step in front of it. -/
theorem behind_bind (step : Step) (first : Draft α) (next : α → Draft β) :
    (first.behind step).bind next = (first.bind next).behind step := by
  unfold bind behind
  cases first.outcome <;> rfl

/-- Drafts in a row are refused one after the other. -/
theorem refused_bind (first : Draft α) (next : α → Draft β) :
    (first.bind next).refused = first.refused.bind fun a => (next a).refused := by
  obtain ⟨steps, outcome⟩ := first
  induction steps with
  | nil =>
    cases outcome with
    | error e => rfl
    | ok a => rfl
  | cons step rest ih =>
    have hbind : Draft.bind ⟨step :: rest, outcome⟩ next =
        (Draft.bind ⟨rest, outcome⟩ next).behind step := behind_bind step ⟨rest, outcome⟩ next
    rw [hbind]
    cases step with
    | drop leaf => rfl
    | use v =>
      have hrefused : ∀ {γ : Type} (draft : Draft γ),
          (draft.behind (.use v)).refused = draft.refused.behind (.use v) := fun _ => rfl
      have hfirst : (⟨.use v :: rest, outcome⟩ : Draft α) = behind (.use v) ⟨rest, outcome⟩ := rfl
      rw [hfirst, hrefused, hrefused, ih, behind_bind]

/-- A draft that drops nothing is not refused. -/
theorem refused_eq_self {draft : Draft α} (h : draft.steps.filterMap Step.dropped? = []) :
    draft.refused = draft := by
  obtain ⟨steps, outcome⟩ := draft
  induction steps with
  | nil => rfl
  | cons step rest ih =>
    cases step with
    | drop leaf => cases h
    | use v => exact congrArg (behind (.use v)) (ih h)

/-- A draft that drops a leaf is refused. -/
theorem outcome_refused {draft : Draft α} (h : draft.steps.filterMap Step.dropped? ≠ []) :
    ∃ leaf, draft.refused.outcome = .error (.unrenderable (.dropped leaf)) := by
  obtain ⟨steps, outcome⟩ := draft
  induction steps with
  | nil => exact absurd rfl h
  | cons step rest ih =>
    cases step with
    | drop leaf => exact ⟨leaf, rfl⟩
    | use v => exact ih h

/-- The draft of a fragment drops nothing. -/
theorem refused_ofFragment (f : Fragment) : (ofFragment f).refused = ofFragment f := by
  refine refused_eq_self ?_
  have hdropped : Step.dropped? ∘ Step.use = fun _ => none := rfl
  rw [ofFragment, List.filterMap_map, hdropped, List.filterMap_none]

/-- A result that is changed is refused where it was. -/
theorem refused_map (g : α → β) (draft : Draft α) : (g <$> draft).refused = g <$> draft.refused :=
  refused_bind draft fun a => pure (g a)

end Draft

/-- The dialect that refuses to drop leaves. -/
def Dialect.strict (d : Dialect) : Dialect := { d with strictPredicates := true }

/-- The dialect that drops leaves. -/
def Dialect.lenient (d : Dialect) : Dialect := { d with strictPredicates := false }

namespace Predicate

variable {d : Dialect} {op : Operator} {field : String} {right : Operand}

/-- A strict dialect refuses a leaf that a lenient one drops. -/
theorem dropLeaf_strict (leaf : Drop) :
    dropLeaf d.strict leaf = (dropLeaf d.lenient leaf).refused := rfl

/-- A fragment that is always drafted is not refused. -/
theorem refused_some_ofFragment (f : Fragment) :
    (some <$> Draft.ofFragment f : Draft (Option Fragment)).refused =
      some <$> Draft.ofFragment f := by
  rw [Draft.refused_map, Draft.refused_ofFragment]

/-- A strict comparison is a lenient one that is refused. -/
theorem draftComparison_strict :
    draftComparison d.strict op field right =
      (draftComparison d.lenient op field right).refused := by
  cases right with
  | absent => exact dropLeaf_strict _
  | list vs => rfl
  | nested p => rfl
  | value v =>
    cases v with
    | null => exact dropLeaf_strict _
    | _ => exact (refused_some_ofFragment _).symm

/-- A membership drops nothing, whether it fails or not. -/
theorem refused_draftMembership :
    (draftMembership op field right).refused = draftMembership op field right := by
  cases right with
  | list vs =>
    unfold draftMembership
    dsimp only
    split
    · rfl
    · exact Draft.refused_ofFragment _
  | _ => rfl

/-- A strict pattern is a lenient one that is refused. -/
theorem draftPattern_strict :
    draftPattern d.strict op field right = (draftPattern d.lenient op field right).refused := by
  cases right with
  | value v =>
    cases v with
    | string s => exact (refused_some_ofFragment _).symm
    | _ => exact dropLeaf_strict _
  | _ => exact dropLeaf_strict _

/-- A strict leaf is a lenient one that is refused. -/
theorem draftLeaf_strict :
    draftLeaf d.strict op field right = (draftLeaf d.lenient op field right).refused := by
  unfold draftLeaf
  cases op.family with
  | nullity => rfl
  | membership => rw [Draft.refused_map, refused_draftMembership]
  | pattern => exact draftPattern_strict
  | comparison => exact draftComparison_strict
  | combinator => exact draftComparison_strict

/-- The strict draft of a predicate is the lenient one, refused at the first leaf that it drops. -/
theorem draft_strict (d : Dialect) (p : Predicate) :
    p.draft d.strict = (p.draft d.lenient).refused := by
  induction p using induction_sides with
  | field name op right ih =>
    rw [draft, draft]
    cases op.isCombinator with
    | true => rfl
    | false => exact draftLeaf_strict
  | nested left op right hleft hright =>
    rw [draft, draft]
    cases op.isCombinator with
    | false => rfl
    | true =>
      simp only [if_true]
      rw [Draft.refused_bind, hleft]
      refine congrArg _ (funext fun front => ?_)
      cases right with
      | nested r =>
        dsimp only
        rw [Draft.refused_bind, hright r rfl]
        rfl
      | _ => rfl

/-- What is made of a result by `some` is never nothing. -/
theorem outcome_some_ne_none {draft : Draft Fragment} :
    (some <$> draft : Draft (Option Fragment)).outcome ≠ .ok none := by
  intro h
  obtain ⟨f, -, hf, -⟩ := Draft.outcome_map_eq_ok h
  cases hf

/-- A leaf that a strict dialect does not refuse has a fragment. -/
theorem outcome_strict_leaf_ne_none : (draftLeaf d.strict op field right).outcome ≠ .ok none := by
  have hdrop : ∀ leaf, (dropLeaf d.strict leaf).outcome ≠ .ok none := nofun
  have hcomparison : (draftComparison d.strict op field right).outcome ≠ .ok none := by
    cases right with
    | absent => exact hdrop _
    | list vs => nofun
    | nested p => nofun
    | value v =>
      cases v with
      | null => exact hdrop _
      | _ => exact outcome_some_ne_none
  unfold draftLeaf
  cases op.family with
  | nullity => nofun
  | membership => exact outcome_some_ne_none
  | comparison => exact hcomparison
  | combinator => exact hcomparison
  | pattern =>
    cases right with
    | value v =>
      cases v with
      | string s => exact outcome_some_ne_none
      | _ => exact hdrop _
    | _ => exact hdrop _

/-- A predicate that a strict dialect does not refuse has a fragment. -/
theorem outcome_strict_ne_none (d : Dialect) (p : Predicate) :
    (p.draft d.strict).outcome ≠ .ok none := by
  induction p using induction_sides with
  | field name op right ih =>
    rw [draft]
    cases op.isCombinator with
    | false => exact outcome_strict_leaf_ne_none
    | true =>
      intro h
      cases h
  | nested left op right hleft hright =>
    rw [draft]
    cases op.isCombinator with
    | false =>
      intro h
      cases h
    | true =>
      intro h
      obtain ⟨front, hfront, hback, -⟩ := Draft.outcome_bind_eq_ok h
      cases front with
      | none => exact hleft hfront
      | some front =>
        cases right with
        | nested r =>
          obtain ⟨back, -, hjoin, -⟩ := Draft.outcome_bind_eq_ok hback
          cases back <;> cases hjoin
        | _ => cases hback

end Predicate

namespace Draft

variable {α β : Type} {d : Dialect} {mode : Mode} {start : Nat} {finish : α → Except Error β}
  {draft : Draft α}

/-- A draft that drops nothing drops nothing when it is played. -/
theorem drops_play_eq_nil (h : draft.steps.filterMap Step.dropped? = []) :
    (draft.play d mode start finish).drops = [] := by
  have hmet : (metSteps d mode draft.steps).Sublist draft.steps := by
    cases mode with
    | parameterized => exact List.Sublist.refl _
    | inline => exact (List.takeWhile_prefix _).sublist
  exact List.eq_nil_of_sublist_nil (h ▸ hmet.filterMap Step.dropped?)

/-- What a draft drops is dropped when it is played, unless an error comes first. -/
theorem drops_play (h : playError? d mode draft.steps = none) :
    (draft.play d mode start finish).drops = draft.steps.filterMap Step.dropped? :=
  congrArg (List.filterMap Step.dropped?) (metSteps_eq_self h)

end Draft

namespace Compiler

/-- The compiler with its dialect made strict. -/
def strict (c : Compiler) : Compiler := { c with dialect := c.dialect.strict }

/-- The compiler with its dialect made lenient. -/
def lenient (c : Compiler) : Compiler := { c with dialect := c.dialect.lenient }

/-- A strict compiler plays what the lenient one drafts, refused at the first leaf dropped. -/
theorem compile_strict (c : Compiler) (p : Predicate) :
    (c.strict.compile p).2 =
        (c.lenient.run c.lenient.finish (p.draft c.dialect.lenient).refused).2 ∧
      (c.strict.compile p).1.params =
        (c.lenient.run c.lenient.finish (p.draft c.dialect.lenient).refused).1.params := by
  rw [← Predicate.draft_strict]
  exact ⟨rfl, rfl⟩

/-- Something is left of every predicate that a strict compiler does not fail on. -/
theorem compile_strict_ne_none (c : Compiler) (p : Predicate) :
    (c.strict.compile p).2.outcome ≠ .ok none := by
  intro h
  obtain ⟨f, hdraft, hfinish⟩ := Draft.outcome_play_eq_ok h
  cases f with
  | none => exact Predicate.outcome_strict_ne_none c.dialect p hdraft
  | some f =>
    obtain ⟨s, -, hs⟩ := render_of_finish hfinish
    cases hs

/-- Compiling strictly is compiling without drops: what is left of a predicate is never nothing, it
is what the lenient compiler makes of a predicate of which it drops nothing, and a predicate fails
when the lenient compiler fails on it or drops a leaf of it. -/
theorem strict_iff_no_drop (c : Compiler) (p : Predicate) :
    (c.strict.compile p).2.outcome ≠ .ok none ∧
    (∀ sql, (c.strict.compile p).2.outcome = .ok (some sql) →
      (c.lenient.compile p).2.outcome = .ok (some sql) ∧
        (c.lenient.compile p).1.params = (c.strict.compile p).1.params ∧
        (c.lenient.compile p).2.drops = []) ∧
    ((∃ e, (c.strict.compile p).2.outcome = .error e) ↔
      (∃ e, (c.lenient.compile p).2.outcome = .error e) ∨ (c.lenient.compile p).2.drops ≠ []) := by
  obtain ⟨hplayed, hparams⟩ := compile_strict c p
  refine ⟨compile_strict_ne_none c p, ?_⟩
  by_cases hdrops : (p.draft c.dialect.lenient).steps.filterMap Step.dropped? = []
  · -- The lenient compiler drops nothing, so both play the same draft.
    rw [Draft.refused_eq_self hdrops] at hplayed hparams
    have hnone : (c.lenient.compile p).2.drops = [] := Draft.drops_play_eq_nil hdrops
    refine ⟨fun sql hsql => ⟨hplayed ▸ hsql, hparams.symm, hnone⟩, ?_⟩
    rw [hplayed, hnone]
    exact (or_iff_left (fun h => h rfl)).symm
  · obtain ⟨leaf, hrefused⟩ := Draft.outcome_refused hdrops
    obtain ⟨e, he⟩ : ∃ e, (c.strict.compile p).2.outcome = .error e := by
      rw [hplayed]
      exact Draft.outcome_play_error hrefused
    refine ⟨fun sql hsql => ?_, ⟨fun _ => ?_, fun _ => ⟨e, he⟩⟩⟩
    · rw [he] at hsql
      cases hsql
    · cases hplay : Draft.playError? c.dialect.lenient c.mode (p.draft c.dialect.lenient).steps with
      | none =>
        refine .inr fun hnone => hdrops ?_
        rw [← hnone]
        exact (Draft.drops_play hplay).symm
      | some e' =>
        exact .inl ⟨e', Draft.outcome_play_of_playError? hplay⟩

/-- A leaf that is rendered, with one behind it that is dropped. -/
def halfDropped : Predicate :=
  .and (.compare .equals "copy" (.string "x")) (.compare .contains "title" (.int 1))

/-- A leaf by itself is rendered strictly as leniently, and the strict compiler fails on the tree
with the leaf that is dropped. -/
theorem strict_iff_no_drop_half :
    let c : Compiler := { dialect := .ofEngine .mySql, mode := .inline }
    (c.lenient.compile (.compare .equals "copy" (.string "x"))).2.outcome =
        .ok (some "(`copy` = 'x')") ∧
      (c.lenient.compile (.compare .equals "copy" (.string "x"))).2.drops = [] ∧
      ∃ e, (c.strict.compile halfDropped).2.outcome = .error e := by
  intro c
  obtain ⟨-, hsame, -⟩ := strict_iff_no_drop c (.compare .equals "copy" (.string "x"))
  obtain ⟨-, -, hfails⟩ := strict_iff_no_drop c halfDropped
  have hstrict := eq_ok_of_toOption
    (x := (c.strict.compile (.compare .equals "copy" (.string "x"))).2.outcome)
    (a := some "(`copy` = 'x')") (by decide +kernel)
  obtain ⟨hlenient, -, hdrops⟩ := hsame _ hstrict
  refine ⟨hlenient, hdrops, hfails.mpr (.inr ?_)⟩
  exact List.cons_ne_nil _ _

end Compiler

end SqlRender
