import SqlRender.Proofs.Draft
import SqlRender.Proofs.Fragment.Deal
import SqlRender.Statement

/-!
# Renderings one after the other

A compiler renders one thing after another and keeps what has been bound, and it stops at the
first error. Playing a draft is such a rendering, and `run_bind` says that two drafts in a row play
as the first one and then, with the compiler that it leaves, the second one.
-/

namespace SqlRender

namespace Draft

variable {d : Dialect} {mode : Mode}

/-- Without an error on the way, every value met has a text. -/
theorem valueTexts_of_playError? {steps : List Step} (h : playError? d mode steps = none)
    (start : Nat) :
    ∃ xs, Fragment.valueTexts d mode start (steps.filterMap Step.used?) = .ok xs := by
  cases mode with
  | parameterized => exact ⟨_, rfl⟩
  | inline =>
    induction steps generalizing start with
    | nil => exact ⟨[], rfl⟩
    | cons step rest ih =>
      have hnone := List.findSome?_eq_none_iff.mp h
      have hrest : playError? d .inline rest = none :=
        List.findSome?_eq_none_iff.mpr fun other hother =>
          hnone other (List.mem_cons_of_mem _ hother)
      cases step with
      | drop leaf => exact ih start hrest
      | use v =>
        obtain ⟨x, hx⟩ := Step.unwritable?_eq_none.mp (hnone _ List.mem_cons_self) start
        obtain ⟨xs, hxs⟩ := ih (start + 1) hrest
        have hliterals : Fragment.literals d start (v :: rest.filterMap Step.used?) =
            .ok (x :: xs) := Fragment.literals_eq_ok.mpr (.cons hx (Fragment.literals_eq_ok.mp hxs))
        exact ⟨x :: xs, hliterals⟩

/-- Without an error on the way, a fragment with the values met is rendered. -/
theorem render_of_playError? {steps : List Step} {f : Fragment}
    (h : playError? d mode steps = none) (hused : steps.filterMap Step.used? = f.slots)
    (start : Nat) :
    ∃ xs, Fragment.valueTexts d mode start f.slots = .ok xs ∧
      f.render d mode start = .ok (f.fill d xs) := by
  obtain ⟨xs, hxs⟩ := valueTexts_of_playError? h start
  rw [hused] at hxs
  refine ⟨xs, hxs, ?_⟩
  rw [Fragment.render_eq_fill, hxs]
  rfl

end Draft

namespace Compiler

variable {α β γ δ : Type}

/-- A result that nothing is kept or dropped for. -/
def done (c : Compiler) (a : α) : Compiler × Played α := (c, ⟨[], 0, [], .ok a⟩)

/-- An error that nothing is kept or dropped for. -/
def stop (c : Compiler) (e : Error) : Compiler × Played α := (c, ⟨[], 0, [], .error e⟩)

/-- One rendering after another with the compiler that the first one leaves; the second is not met
when the first one stops. -/
def andThen (first : Compiler × Played α) (next : Compiler → α → Compiler × Played β) :
    Compiler × Played β :=
  match first.2.outcome with
  | .error e => (first.1, ⟨first.2.bound, first.2.written, first.2.drops, .error e⟩)
  | .ok a =>
    let second := next first.1 a
    (second.1, ⟨first.2.bound ++ second.2.bound, first.2.written + second.2.written,
      first.2.drops ++ second.2.drops, second.2.outcome⟩)

variable {c : Compiler}

/-- Nothing that comes first changes nothing. -/
theorem done_andThen (a : α) (next : Compiler → α → Compiler × Played β) :
    andThen (c.done a) next = next c a := by
  unfold andThen done
  dsimp only
  rw [List.nil_append, Nat.zero_add, List.nil_append]

/-- What is behind the second of two renderings is behind the second within the first. -/
theorem andThen_assoc (first : Compiler × Played α) (second : Compiler → α → Compiler × Played β)
    (third : Compiler → β → Compiler × Played γ) :
    andThen (andThen first second) third = andThen first fun c a => andThen (second c a) third := by
  unfold andThen
  cases first.2.outcome with
  | error e => rfl
  | ok a =>
    dsimp only
    cases (second first.1 a).2.outcome with
    | error e => rfl
    | ok b => simp only [List.append_assoc, Nat.add_assoc]

/-- A result that is changed behind a rendering. -/
theorem andThen_done (first : Compiler × Played α) (g : α → β) :
    andThen first (fun c a => c.done (g a)) =
      (first.1, ⟨first.2.bound, first.2.written, first.2.drops, first.2.outcome.map g⟩) := by
  unfold andThen done
  cases first.2.outcome with
  | error e => rfl
  | ok a => simp [Except.map]

/-- A result that is handed on is the result. -/
theorem andThen_done_self (first : Compiler × Played α) :
    andThen first (fun c a => c.done a) = first := by
  obtain ⟨c, bound, written, drops, outcome⟩ := first
  rw [andThen_done]
  cases outcome <;> rfl

/-- Two renderings in a row come to what the second one comes to, if the first one does. -/
theorem outcome_andThen (first : Compiler × Played α) (next : Compiler → α → Compiler × Played β) :
    (andThen first next).2.outcome =
      first.2.outcome.bind fun a => (next first.1 a).2.outcome := by
  unfold andThen
  cases first.2.outcome <;> rfl

/-- Two renderings in a row come to a result when both do, and bind what the two bind. -/
theorem andThen_eq_ok {first : Compiler × Played α} {next : Compiler → α → Compiler × Played β}
    {b : β} (h : (andThen first next).2.outcome = .ok b) :
    ∃ a, first.2.outcome = .ok a ∧ (next first.1 a).2.outcome = .ok b ∧
      (andThen first next).2.bound = first.2.bound ++ (next first.1 a).2.bound := by
  unfold andThen at h ⊢
  cases hfirst : first.2.outcome with
  | error e =>
    rw [hfirst] at h
    cases h
  | ok a =>
    rw [hfirst] at h
    exact ⟨a, rfl, h, rfl⟩

/-- Renders a predicate, if there is one. -/
def compile? (c : Compiler) : Option Predicate → Compiler × Played (Option String)
  | some p => c.compile p
  | none => c.done none

/-- Plays a draft with a compiler, which keeps what has been bound and written. -/
def run (c : Compiler) (finish : α → Except Error β) (draft : Draft α) : Compiler × Played β :=
  let played := draft.play c.dialect c.mode c.next finish
  (c.keep played.bound played.written, played)

/-- What is kept in two steps is kept at once. -/
theorem keep_keep (ps qs : List Parameter) (m n : Nat) :
    (c.keep ps m).keep qs n = c.keep (ps ++ qs) (m + n) := by
  simp only [keep, List.append_assoc, Nat.add_assoc]

/-- Without an error on the way, the compiler that a draft leaves goes on behind the values that the
draft uses. -/
theorem next_run {finish : α → Except Error β} {draft : Draft α}
    (hplay : Draft.playError? c.dialect c.mode draft.steps = none) :
    (c.run finish draft).1.next = c.next + draft.used.length := by
  rw [Draft.used, ← Draft.length_bound_add_written hplay c.next]
  simp only [run, keep, Draft.play, next]
  cases c.mode with
  | parameterized =>
    simp only [List.length_append, Draft.writtenCount]
    omega
  | inline =>
    simp only [Draft.boundParameters, List.length_nil]
    omega

/-- One draft behind another plays as the one after the other, when what is made of the first on
the way is there. -/
theorem run_bind {first : Draft α} {next : α → Draft β} {finish : α → Except Error γ}
    {finish' : β → Except Error δ} {rest : Compiler → γ → Compiler × Played δ}
    (h : ∀ a, first.outcome = .ok a → Draft.playError? c.dialect c.mode first.steps = none →
      ∃ x, finish a = .ok x ∧ rest (c.run finish first).1 x =
        (c.run finish first).1.run finish' (next a)) :
    andThen (c.run finish first) rest = c.run finish' (first.bind next) := by
  cases hplay : Draft.playError? c.dialect c.mode first.steps with
  | some e =>
    cases hfirst : first.outcome with
    | error e' => simp [andThen, run, Draft.play, Draft.bind, hplay, hfirst]
    | ok a =>
      have hbound : ∀ t, Draft.boundParameters c.dialect c.mode c.next (first.steps ++ t) =
          Draft.boundParameters c.dialect c.mode c.next first.steps := by
        intro t
        cases hmode : c.mode with
        | inline => rfl
        | parameterized => rw [hmode] at hplay; cases hplay
      have hwritten : ∀ t, Draft.writtenCount c.dialect c.mode (first.steps ++ t) =
          Draft.writtenCount c.dialect c.mode first.steps := by
        intro t
        cases hmode : c.mode with
        | inline =>
          rw [hmode] at hplay
          rw [Draft.writtenCount, Draft.metSteps_append_of_error hplay]
          rfl
        | parameterized => rfl
      simp [andThen, run, keep, Draft.play, Draft.bind, hplay, hfirst, Draft.playError?_append,
        hbound, hwritten, Draft.metSteps_append_of_error hplay]
  | none =>
    cases hfirst : first.outcome with
    | error e' => simp [andThen, run, Draft.play, Draft.bind, hplay, hfirst, Except.bind]
    | ok a =>
      obtain ⟨x, hx, hrest⟩ := h a hfirst hplay
      have houtcome : (c.run finish first).2.outcome = .ok x := by
        simp [run, Draft.play, hplay, hfirst, Except.bind, hx]
      rw [andThen, houtcome]
      dsimp only
      rw [hrest]
      have hnext : (c.run finish first).1.next = c.next + first.used.length := next_run hplay
      simp only [run, Draft.play, Draft.used] at hnext
      simp only [run, Draft.play, hnext, keep_keep, Draft.bind, hfirst,
        Draft.boundParameters_append, Draft.writtenCount_append hplay, Draft.metSteps_append hplay,
        Draft.playError?_append, hplay, List.filterMap_append, Option.none_or]
      rfl

/-- A result that is changed at the end is the result of the changed draft. -/
theorem run_done {draft : Draft α} {finish : α → Except Error γ} {finish' : β → Except Error δ}
    {g : γ → δ} {b : α → β}
    (h : ∀ a, draft.outcome = .ok a → finish' (b a) = (finish a).map g) :
    andThen (c.run finish draft) (fun c x => c.done (g x)) =
      c.run finish' ⟨draft.steps, draft.outcome.map b⟩ := by
  cases hplay : Draft.playError? c.dialect c.mode draft.steps with
  | some e => simp [andThen, run, Draft.play, hplay]
  | none =>
    cases houtcome : draft.outcome with
    | error e => simp [andThen, run, Draft.play, hplay, houtcome, Except.bind, Except.map]
    | ok a =>
      have hfinish := h a houtcome
      cases hx : finish a with
      | error e =>
        rw [hx] at hfinish
        simp [andThen, run, Draft.play, hplay, houtcome, Except.bind, Except.map, hx, hfinish]
      | ok x =>
        rw [hx] at hfinish
        simp [andThen, run, done, Draft.play, hplay, houtcome, Except.bind, Except.map, hx,
          hfinish]

/-- A draft whose result is finished alike plays alike. -/
theorem run_congr {draft : Draft α} {finish finish' : α → Except Error β}
    (h : ∀ a, draft.outcome = .ok a → finish a = finish' a) :
    c.run finish draft = c.run finish' draft := by
  unfold run Draft.play
  cases houtcome : draft.outcome with
  | error e => rfl
  | ok a => simp only [Except.bind, h a houtcome]

/-- With placeholders, a draft binds the values that it uses. -/
theorem bound_run (hmode : c.mode = .parameterized) {finish : α → Except Error β}
    (draft : Draft α) :
    (c.run finish draft).2.bound = Fragment.parameters c.dialect c.next draft.used := by
  unfold run Draft.play
  rw [hmode]
  rfl

/-- With literals, a draft binds nothing. -/
theorem bound_run_inline (hmode : c.mode = .inline) {finish : α → Except Error β}
    (draft : Draft α) : (c.run finish draft).2.bound = [] := by
  unfold run Draft.play
  rw [hmode]
  rfl

/-- A draft that only drops leaves plays to its outcome and changes nothing. -/
theorem run_of_drops (finish : α → Except Error β) (drops : List Drop)
    (outcome : Except Error α) :
    c.run finish ⟨drops.map .drop, outcome⟩ = (c, ⟨[], 0, drops, outcome.bind finish⟩) := by
  have hused : Step.used? ∘ Step.drop = fun _ => none := rfl
  have hdropped : Step.dropped? ∘ Step.drop = some := rfl
  have hbound : Draft.boundParameters c.dialect c.mode c.next (drops.map .drop) = [] := by
    cases c.mode with
    | inline => rfl
    | parameterized =>
      rw [Draft.boundParameters, List.filterMap_map, hused, List.filterMap_none]
      rfl
  have hplay : Draft.playError? c.dialect c.mode (drops.map .drop) = none := by
    cases c.mode with
    | parameterized => rfl
    | inline =>
      refine List.findSome?_eq_none_iff.mpr fun step hstep => ?_
      obtain ⟨leaf, -, rfl⟩ := List.mem_map.mp hstep
      rfl
  have hmet : Draft.metSteps c.dialect c.mode (drops.map .drop) = drops.map .drop := by
    cases c.mode with
    | parameterized => rfl
    | inline =>
      refine List.takeWhile_eq_self_iff.mpr fun step hstep => ?_
      obtain ⟨leaf, -, rfl⟩ := List.mem_map.mp hstep
      rfl
  rw [run, Draft.play]
  simp only [hbound, hplay, hmet, Draft.writtenCount_drops]
  rw [List.filterMap_map, hdropped, List.filterMap_some, keep, List.append_nil, Nat.add_zero]

/-- A result is what a draft without steps plays to. -/
theorem done_eq_run {finish : α → Except Error β} {a : α} {x : β} (h : finish a = .ok x) :
    c.done x = c.run finish (pure a) := by
  have hrun := run_of_drops (c := c) finish [] (.ok a)
  rw [Except.bind, h] at hrun
  exact hrun.symm

/-- An error is what a draft plays to that ends in it at once. -/
theorem stop_eq_run (finish : α → Except Error β) (e : Error) :
    c.stop e = c.run finish (.fail e) := (run_of_drops finish [] (.error e)).symm

/-- Renders the elements of a list one after the other. -/
def walkEach (walk : α → Compiler → Compiler × Played β) :
    List α → Compiler → Compiler × Played (List β)
  | [], c => c.done []
  | a :: rest, c =>
    andThen (walk a c) fun c b => andThen (walkEach walk rest c) fun c bs => c.done (b :: bs)

/-- A way to render elements plays a fragment for each of them. -/
def Plays (walk : α → Compiler → Compiler × Played String) (f : α → Fragment) : Prop :=
  ∀ a c, walk a c = c.run (Fragment.render c.dialect c.mode c.next) (.ofFragment (f a))

/-- A value plays its fragment. -/
theorem plays_value : Plays (fun v c => c.value v) Fragment.ofValue := fun _ _ => rfl

section Each

variable {walk : α → Compiler → Compiler × Played String} {f : α → Fragment}

/-- The values of the fragments of some elements. -/
abbrev slotsOf (f : α → Fragment) (as : List α) : List Value := as.flatMap fun a => (f a).slots

/-- The texts of the fragments of some elements, each with what those before it have left of the
texts of all values. -/
def dealTexts (d : Dialect) (f : α → Fragment) (as : List α) (tape : List String) : List String :=
  deal (fun a => (f a).slots.length) (fun a => (f a).fill d) as tape

/-- The first element takes the texts of its own values, and leaves the others theirs. -/
theorem dealTexts_cons (d : Dialect) {a : α} {xs : List String}
    (h : xs.length = (f a).slots.length) (rest : List α) (ys : List String) :
    dealTexts d f (a :: rest) (xs ++ ys) = (f a).fill d xs :: dealTexts d f rest ys := by
  have hfill : ((f a) ++ []).fill d (xs ++ ys) = (f a).fill d xs ++ Fragment.fill d [] ys :=
    Fragment.fill_append h
  rw [List.append_nil, Fragment.fill, String.append_empty] at hfill
  rw [dealTexts, deal, hfill, List.drop_left' h]
  rfl

/-- Elements that are rendered one after the other play the values of all their fragments. -/
theorem Plays.walkEach_eq (h : Plays walk f) (as : List α) (c : Compiler) :
    walkEach walk as c = c.run (fun as =>
        (Fragment.valueTexts c.dialect c.mode c.next (slotsOf f as)).map (dealTexts c.dialect f as))
      ⟨(slotsOf f as).map .use, .ok as⟩ := by
  induction as generalizing c with
  | nil =>
    refine done_eq_run ?_
    cases c.mode <;> rfl
  | cons a rest ih =>
    have hdraft : (⟨(slotsOf f (a :: rest)).map .use, .ok (a :: rest)⟩ : Draft (List α)) =
        (Draft.ofFragment (f a)).bind fun _ => ⟨(slotsOf f rest).map .use, .ok (a :: rest)⟩ := by
      rw [slotsOf, List.flatMap_cons, List.map_append]
      rfl
    rw [walkEach, h a c, hdraft]
    refine run_bind fun g hg hplay => ?_
    cases hg
    have hused : (Draft.ofFragment (f a)).used = (f a).slots := Draft.used_ofFragment (f a)
    obtain ⟨xs, hxs, hrender⟩ := Draft.render_of_playError? hplay hused c.next
    refine ⟨_, hrender, ?_⟩
    rw [ih]
    refine run_done fun as has => ?_
    cases has
    rw [slotsOf, List.flatMap_cons, Fragment.valueTexts_append hxs, next_run hplay, hused]
    -- The elements behind take what the first one has left of all texts.
    have hdeal := dealTexts_cons c.dialect (Fragment.length_valueTexts hxs) rest
    change _ = ((Fragment.valueTexts c.dialect c.mode (c.next + (f a).slots.length)
      (slotsOf f rest)).map _).map _
    cases Fragment.valueTexts c.dialect c.mode (c.next + (f a).slots.length) (slotsOf f rest) with
    | error e => rfl
    | ok ys => exact congrArg Except.ok (hdeal ys)

/-- What is made of the texts of some elements plays a fragment that takes the texts of their values
in the same way. -/
theorem Plays.andThen_done (h : Plays walk f) {as : List α} {g : List String → String}
    {whole : Fragment} (hslots : whole.slots = slotsOf f as)
    (hfill : ∀ tape, whole.fill c.dialect tape = g (dealTexts c.dialect f as tape)) :
    andThen (walkEach walk as c) (fun c bs => c.done (g bs)) =
      c.run (Fragment.render c.dialect c.mode c.next) (.ofFragment whole) := by
  have hdraft : Draft.ofFragment whole =
      ⟨(slotsOf f as).map .use, (Except.ok as).map fun _ => whole⟩ := by
    rw [Draft.ofFragment, hslots]
    rfl
  rw [h.walkEach_eq, hdraft]
  refine run_done fun as' has => ?_
  cases has
  rw [Fragment.render_eq_fill, hslots]
  cases Fragment.valueTexts c.dialect c.mode c.next (slotsOf f as) with
  | error e => rfl
  | ok tape => exact congrArg Except.ok (hfill tape)

end Each

/-- Finishes the fragment of a predicate, if there is one, where the compiler stands. -/
abbrev finish (c : Compiler) (f : Option Fragment) : Except Error (Option String) :=
  f.mapM (Fragment.render c.dialect c.mode c.next)

/-- With placeholders, a draft comes to its outcome with bound text. -/
theorem outcome_run_bound (hmode : c.mode = .parameterized) (draft : Draft (Option Fragment)) :
    (c.run c.finish draft).2.outcome =
      draft.outcome.map (Option.map (·.boundText c.dialect c.next)) := by
  unfold run Draft.play finish
  rw [hmode]
  change draft.outcome.bind _ = _
  cases draft.outcome with
  | error e => rfl
  | ok f => cases f <;> rfl

/-- A fragment without slots has one text wherever the compiler stands. -/
theorem finish_of_slots_eq_nil {f : Fragment} (h : f.slots = []) :
    c.finish (some f) = .ok (some (f.fill c.dialect [])) :=
  congrArg (some <$> ·) (Fragment.render_of_slots_eq_nil h c.next)

/-- A fragment that is finished has been rendered. -/
theorem render_of_finish {f : Fragment} {x : Option String} (h : c.finish (some f) = .ok x) :
    ∃ s, f.render c.dialect c.mode c.next = .ok s ∧ x = some s := by
  have hfinish : (f.render c.dialect c.mode c.next).map some = .ok x := h
  exact map_eq_ok hfinish

/-- Without an error on the way, a fragment with the values met is finished. -/
theorem finish_eq_ok {f : Option Fragment} {steps : List Step}
    (hplay : Draft.playError? c.dialect c.mode steps = none)
    (hused : steps.filterMap Step.used? = (f.map Fragment.slots).getD []) :
    ∃ x, c.finish f = .ok x := by
  cases f with
  | none => exact ⟨none, rfl⟩
  | some f =>
    obtain ⟨xs, -, hrender⟩ := Draft.render_of_playError? hplay hused c.next
    exact ⟨_, congrArg (some <$> ·) hrender⟩

end Compiler

end SqlRender
