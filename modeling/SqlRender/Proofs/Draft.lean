import Mathlib.Data.List.TakeWhile
import SqlRender.Draft
import SqlRender.Proofs.Literal.Numbered
import SqlRender.Proofs.Results

/-!
# What a draft uses and how it plays

The values a draft uses, and its outcome, put together from the drafts it is made of. A draft
that plays to a result has come to an outcome of its own, and the values it binds are those it
uses.
-/

namespace SqlRender

namespace Step

variable {d : Dialect} {v : Value}

/-- A value that is used cannot be written when it has no literal. -/
theorem unwritable?_eq_some {e : Error} :
    (use v).unwritable? d = some e ↔ ∀ n, d.literal n v = .error e := by
  unfold unwritable? used?
  rw [Option.map_some]
  constructor
  · intro h n
    split at h
    · next heq =>
      cases h
      exact Dialect.literal_error (Option.some.inj heq) n
    · cases h
  · intro h
    rw [h 0]

/-- A value that is used can be written when it has a literal. -/
theorem unwritable?_eq_none :
    (use v).unwritable? d = none ↔ ∀ n, ∃ x, d.literal n v = .ok x := by
  rcases d.literal_ends v with hok | ⟨e, he⟩
  · refine iff_of_true ?_ hok
    obtain ⟨x, hx⟩ := hok 0
    simp [unwritable?, used?, hx]
  · rw [unwritable?_eq_some.mpr he]
    refine iff_of_false (Option.some_ne_none e) fun hok => ?_
    obtain ⟨x, hx⟩ := hok 0
    cases (he 0).symm.trans hx

end Step

namespace Draft

variable {α β : Type} {d : Dialect} {mode : Mode}

/-- The values a draft uses, in the order in which they are met. -/
def used (draft : Draft α) : List Value := draft.steps.filterMap Step.used?

@[simp] theorem used_pure (a : α) : (pure a : Draft α).used = [] := rfl

/-- The draft of a fragment uses the values of its slots. -/
@[simp] theorem used_ofFragment (f : Fragment) : (ofFragment f).used = f.slots := by
  have h : Step.used? ∘ Step.use = some := rfl
  rw [used, ofFragment, List.filterMap_map, h, List.filterMap_some]

/-- The draft of a fragment without slots does nothing on the way. -/
theorem ofFragment_of_slots_eq_nil {f : Fragment} (h : f.slots = []) : ofFragment f = pure f := by
  rw [ofFragment, h]
  rfl

/-- The outcome of a draft behind another one is made from the outcome of that one. -/
theorem outcome_bind (first : Draft α) (next : α → Draft β) :
    (first.bind next).outcome = first.outcome.bind fun a => (next a).outcome := by
  unfold bind
  cases first.outcome <;> rfl

/-- Nothing behind a draft leaves it as it is. -/
theorem bind_done (draft : Draft α) : draft.bind pure = draft := by
  obtain ⟨steps, outcome⟩ := draft
  cases outcome with
  | error e => rfl
  | ok a => exact congrArg (Draft.mk · _) (List.append_nil steps)

/-- A draft behind another one that only changes the result. -/
theorem bind_pure_eq (first : Draft α) (g : α → β) :
    (first.bind fun a => pure (g a)) = ⟨first.steps, first.outcome.map g⟩ := by
  obtain ⟨steps, outcome⟩ := first
  cases outcome with
  | error e => rfl
  | ok a => exact congrArg (Draft.mk · _) (List.append_nil steps)

/-- A draft behind another one comes to an outcome when both do. -/
theorem outcome_bind_eq_ok {first : Draft α} {next : α → Draft β} {b : β}
    (h : (first.bind next).outcome = .ok b) :
    ∃ a, first.outcome = .ok a ∧ (next a).outcome = .ok b ∧
      (first.bind next).used = first.used ++ (next a).used := by
  unfold bind at h ⊢
  cases hfirst : first.outcome with
  | error e => simp [hfirst] at h
  | ok a =>
    simp only [hfirst] at h
    exact ⟨a, rfl, h, by simp [used]⟩

/-- A draft whose result is changed comes to an outcome when it does itself. -/
theorem outcome_map_eq_ok {draft : Draft α} {g : α → β} {b : β}
    (h : (g <$> draft).outcome = .ok b) :
    ∃ a, draft.outcome = .ok a ∧ b = g a ∧ (g <$> draft).used = draft.used := by
  have hbind : (draft.bind fun a => (pure (g a) : Draft β)).outcome = .ok b := h
  obtain ⟨a, ha, hb, hused⟩ := outcome_bind_eq_ok hbind
  refine ⟨a, ha, ?_, ?_⟩
  · exact (Except.ok.inj hb).symm
  · exact hused.trans (List.append_nil _)

/-- A draft that plays to a result plays without an error on the way. -/
theorem playError?_of_play {start : Nat} {finish : α → Except Error β} {draft : Draft α} {b : β}
    (h : (draft.play d mode start finish).outcome = .ok b) :
    playError? d mode draft.steps = none := by
  unfold play at h
  cases hplay : playError? d mode draft.steps with
  | some e => simp [hplay] at h
  | none => rfl

/-- A draft that plays to a result has come to an outcome. -/
theorem outcome_play_eq_ok {start : Nat} {finish : α → Except Error β}
    {draft : Draft α} {b : β} (h : (draft.play d mode start finish).outcome = .ok b) :
    ∃ a, draft.outcome = .ok a ∧ finish a = .ok b := by
  have hplay := playError?_of_play h
  unfold play at h
  rw [hplay] at h
  exact bind_eq_ok h

/-- The values of two parts are numbered one after the other. -/
theorem boundParameters_append (start : Nat) (s t : List Step) :
    boundParameters d mode start (s ++ t) = boundParameters d mode start s ++
      boundParameters d mode (start + (s.filterMap Step.used?).length) t := by
  cases mode with
  | inline => rfl
  | parameterized =>
    simp only [boundParameters, Fragment.parameters, List.filterMap_append, List.zipIdx_append,
      List.map_append]

/-- The first part that cannot be played ends the whole. -/
theorem playError?_append (s t : List Step) :
    playError? d mode (s ++ t) = (playError? d mode s).or (playError? d mode t) := by
  cases mode with
  | inline => exact List.findSome?_append
  | parameterized => rfl

/-- Without an error on the way, every step is met. -/
theorem metSteps_eq_self {s : List Step} (h : playError? d mode s = none) :
    metSteps d mode s = s := by
  cases mode with
  | parameterized => rfl
  | inline =>
    refine List.takeWhile_eq_self_iff.mpr fun step hstep => ?_
    exact Option.isNone_iff_eq_none.mpr (List.findSome?_eq_none_iff.mp h step hstep)

/-- A part without an error is met as a whole. -/
theorem metSteps_append {s : List Step} (h : playError? d mode s = none) (t : List Step) :
    metSteps d mode (s ++ t) = metSteps d mode s ++ metSteps d mode t := by
  cases mode with
  | parameterized => rfl
  | inline =>
    have hall : ∀ step ∈ s, (step.unwritable? d).isNone := fun step hstep =>
      Option.isNone_iff_eq_none.mpr (List.findSome?_eq_none_iff.mp h step hstep)
    rw [metSteps_eq_self h]
    exact List.takeWhile_append_of_pos hall

/-- Behind a part without an error, the values are written that are written by themselves. -/
theorem writtenCount_append {s : List Step} (h : playError? d mode s = none) (t : List Step) :
    writtenCount d mode (s ++ t) = writtenCount d mode s + writtenCount d mode t := by
  cases mode with
  | parameterized => rfl
  | inline =>
    simp only [writtenCount, metSteps_append h, List.filterMap_append, List.length_append]

/-- Without an error on the way, every value that is used is bound or written. -/
theorem length_bound_add_written {s : List Step} (h : playError? d mode s = none) (start : Nat) :
    (boundParameters d mode start s).length + writtenCount d mode s =
      (s.filterMap Step.used?).length := by
  cases mode with
  | parameterized => simp [boundParameters, Fragment.parameters, writtenCount]
  | inline => rw [writtenCount, metSteps_eq_self h, boundParameters, List.length_nil, Nat.zero_add]

/-- A draft that only drops leaves writes nothing. -/
theorem writtenCount_drops (drops : List Drop) : writtenCount d mode (drops.map .drop) = 0 := by
  cases mode with
  | parameterized => rfl
  | inline =>
    refine List.length_eq_zero_iff.mpr (List.filterMap_eq_nil_iff.mpr fun step hstep => ?_)
    obtain ⟨leaf, -, rfl⟩ := List.mem_map.mp ((List.takeWhile_prefix _).subset hstep)
    rfl

/-- Nothing behind an error is met. -/
theorem metSteps_append_of_error {s : List Step} {e : Error} (h : playError? d mode s = some e)
    (t : List Step) : metSteps d mode (s ++ t) = metSteps d mode s := by
  cases mode with
  | parameterized => cases h
  | inline =>
    induction s with
    | nil => cases h
    | cons step rest ih =>
      cases hstep : step.unwritable? d with
      | some e' => simp [metSteps, hstep]
      | none =>
        have hrest : playError? d .inline rest = some e := by
          simpa [playError?, hstep] using h
        have := ih hrest
        simpa [metSteps, hstep] using this

end Draft

end SqlRender
