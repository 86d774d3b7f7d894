import SqlRender.Proofs.Calls
import SqlRender.Proofs.Predicate.Modes
import SqlRender.Proofs.Predicate.Walk

/-!
# Predicates joined in a row

Predicates that are joined to the right are rendered one after the other. A predicate of which
nothing is left binds nothing and stands nowhere in the text, whether it is the first, the last or
one between, so the joined predicate is rendered as the ones that are left, joined in the same
order. Whether a predicate fails or is dropped does not depend on what stands in front of it.
-/

namespace SqlRender

/-- Texts joined to the right, as a combinator of them is rendered; none for the empty list. -/
def Predicate.nestTexts (op : Operator) : List String → Option String
  | [] => none
  | s :: rest => joinTexts op (some s) (nestTexts op rest)

/-- A combinator with nothing on its right is its left side. -/
theorem Predicate.joinTexts_none (op : Operator) (left : Option String) :
    joinTexts op left none = left := by
  cases left <;> rfl

/-- A combinator is dropped with both of its sides. -/
theorem Predicate.joinTexts_eq_none {op : Operator} {left right : Option String} :
    joinTexts op left right = none ↔ left = none ∧ right = none := by
  cases left <;> cases right <;> simp [joinTexts]

/-- Predicates are joined when there are any. -/
theorem Predicate.joinAll_eq_none {op : Operator} {ps : List Predicate} :
    joinAll op ps = none ↔ ps = [] := by
  cases ps with
  | nil => simp [joinAll]
  | cons p rest =>
    rw [joinAll]
    cases joinAll op rest <;> simp

namespace Compiler

/-- Two renderings that differ in nothing but the leaves that they drop. -/
structure SameResult {α : Type} (x y : Compiler × Played α) : Prop where
  compiler_eq : x.1 = y.1
  bound_eq : x.2.bound = y.2.bound
  written_eq : x.2.written = y.2.written
  outcome_eq : x.2.outcome = y.2.outcome

variable {α β : Type} {c : Compiler} {op : Operator} {p : Predicate} {ps : List Predicate}

/-- A rendering has its own result. -/
theorem SameResult.refl (x : Compiler × Played α) : SameResult x x := ⟨rfl, rfl, rfl, rfl⟩

/-- Renderings with the same result as one between them have the same result. -/
theorem SameResult.trans {x y z : Compiler × Played α} (h : SameResult x y)
    (h' : SameResult y z) : SameResult x z :=
  ⟨h.compiler_eq.trans h'.compiler_eq, h.bound_eq.trans h'.bound_eq,
    h.written_eq.trans h'.written_eq, h.outcome_eq.trans h'.outcome_eq⟩

/-- Renderings with the same results go on to the same results. -/
theorem SameResult.andThen {x y : Compiler × Played α}
    {next next' : Compiler → α → Compiler × Played β} (h : SameResult x y)
    (hnext : ∀ a, SameResult (next x.1 a) (next' x.1 a)) :
    SameResult (andThen x next) (andThen y next') := by
  obtain ⟨hcompiler, hbound, hwritten, houtcome⟩ := h
  unfold Compiler.andThen
  rw [← houtcome, ← hwritten, ← hbound, ← hcompiler]
  cases x.2.outcome with
  | error e => exact ⟨rfl, rfl, rfl, rfl⟩
  | ok a =>
    obtain ⟨hcompiler', hbound', hwritten', houtcome'⟩ := hnext a
    exact ⟨hcompiler', congrArg (x.2.bound ++ ·) hbound', congrArg (x.2.written + ·) hwritten',
      houtcome'⟩

/-- A compiler of the same dialect and mode that has bound and written nothing. -/
def fresh (c : Compiler) : Compiler := { dialect := c.dialect, mode := c.mode }

/-- A predicate that fails by itself. -/
def Fails (c : Compiler) (p : Predicate) : Prop := ∃ e, (c.fresh.compile p).2.outcome = .error e

/-- Whether nothing is left of a predicate by itself. -/
def drops (c : Compiler) (p : Predicate) : Bool :=
  match (c.fresh.compile p).2.outcome with
  | .ok none => true
  | _ => false

/-- A fragment is finished as no text when there is none. -/
theorem finish_none_iff {f : Option Fragment} {s : Option String} (h : c.finish f = .ok s) :
    s = none ↔ f = none := by
  cases f with
  | none =>
    cases h
    exact iff_of_true rfl rfl
  | some f =>
    obtain ⟨text, -, rfl⟩ := render_of_finish h
    exact iff_of_false (Option.some_ne_none text) (Option.some_ne_none f)

/-- A predicate is rendered, dropped or refused alike wherever a compiler stands. -/
theorem sameEnd_fresh (c : Compiler) (p : Predicate) :
    SameEnd (fun s t : Option String => s = none ↔ t = none) (c.compile p).2.outcome
      (c.fresh.compile p).2.outcome := by
  -- How the draft ends is settled before it is known where its values are numbered from.
  cases hplay : Draft.playError? c.dialect c.mode (p.draft c.dialect).steps with
  | some e =>
    have hhere : (c.compile p).2.outcome = .error e := Draft.outcome_play_of_playError? hplay
    have hfresh : (c.fresh.compile p).2.outcome = .error e :=
      Draft.outcome_play_of_playError? hplay
    rw [hhere, hfresh]
    exact .error e e
  | none =>
    have hhere : (c.compile p).2.outcome = (p.draft c.dialect).outcome.bind c.finish :=
      Draft.outcome_play hplay
    have hfresh : (c.fresh.compile p).2.outcome = (p.draft c.dialect).outcome.bind c.fresh.finish :=
      Draft.outcome_play hplay
    rw [hhere, hfresh]
    cases hdraft : (p.draft c.dialect).outcome with
    | error e => exact .error e e
    | ok f =>
      have hused := (Predicate.draft_eq_kept hdraft).2
      obtain ⟨s, hs⟩ := finish_eq_ok hplay hused
      obtain ⟨t, ht⟩ := finish_eq_ok (c := c.fresh) hplay hused
      rw [Except.bind, Except.bind, hs, ht]
      exact .ok ((finish_none_iff hs).trans (finish_none_iff ht).symm)

/-- A predicate fails wherever a compiler stands when it fails by itself. -/
theorem compile_error_iff : (∃ e, (c.compile p).2.outcome = .error e) ↔ c.Fails p := by
  unfold Fails
  rcases (c.sameEnd_fresh p).ends with ⟨s, t, hs, ht, -⟩ | ⟨e, e', he, he'⟩
  · rw [hs, ht]
    simp
  · rw [he, he']
    simp

/-- A predicate is dropped wherever a compiler stands when it is dropped by itself. -/
theorem compile_none_iff : (c.compile p).2.outcome = .ok none ↔ c.drops p := by
  unfold drops
  rcases (c.sameEnd_fresh p).ends with ⟨s, t, hs, ht, hnone⟩ | ⟨e, e', he, he'⟩
  · rw [hs, ht, Except.ok.injEq, hnone]
    cases t <;> simp
  · rw [he, he']
    simp

/-- A predicate that is dropped has bound and written nothing. -/
theorem compile_of_drops (h : c.drops p) : SameResult (c.compile p) (c.done none) := by
  have houtcome := compile_none_iff.mpr h
  have hused : (p.draft c.dialect).used = [] := by
    obtain ⟨f, hf, hfinish⟩ := Draft.outcome_play_eq_ok houtcome
    rw [(finish_none_iff hfinish).mp rfl] at hf
    exact used_of_none hf
  have hcount : (c.compile p).2.bound.length + (c.compile p).2.written =
      (p.draft c.dialect).used.length :=
    Draft.length_bound_add_written (Draft.playError?_of_play houtcome) c.next
  rw [hused, List.length_nil] at hcount
  have hbound : (c.compile p).2.bound = [] := List.length_eq_zero_iff.mp (by omega)
  have hwritten : (c.compile p).2.written = 0 := by omega
  refine ⟨?_, hbound, hwritten, houtcome⟩
  change c.keep (c.compile p).2.bound (c.compile p).2.written = c
  rw [hbound, hwritten, keep, List.append_nil, Nat.add_zero]

/-- A combinator is rendered as its left side and then, by the compiler that is left, its right
side. -/
theorem compile_join (hop : op.isCombinator) (left right : Predicate) (c : Compiler) :
    c.compile (.join left op right) =
      andThen (c.compile left) fun c front =>
        andThen (c.compile right) fun c back => c.done (Predicate.joinTexts op front back) := by
  simp only [← walk_eq_compile, Predicate.join, walk, hop, if_true]

/-- Renders predicates one after the other, joined to the right. -/
def compileAll (op : Operator) : List Predicate → Compiler → Compiler × Played (Option String)
  | [], c => c.done none
  | p :: rest, c =>
    andThen (c.compile p) fun c front =>
      andThen (compileAll op rest c) fun c back => c.done (Predicate.joinTexts op front back)

/-- A joined predicate is rendered as its parts, one after the other. -/
theorem compileAll_eq (hop : op.isCombinator) (h : Predicate.joinAll op ps = some p)
    (c : Compiler) : c.compile p = compileAll op ps c := by
  induction ps generalizing p c with
  | nil => cases h
  | cons first rest ih =>
    rw [Predicate.joinAll] at h
    rw [compileAll]
    cases hrest : Predicate.joinAll op rest with
    | some tail =>
      rw [hrest] at h
      cases h
      rw [compile_join hop]
      simp only [ih hrest]
    | none =>
      rw [hrest] at h
      cases h
      rw [Predicate.joinAll_eq_none.mp hrest]
      simp only [compileAll, done_andThen, Predicate.joinTexts_none, andThen_done_self]

/-- What predicates in a row come to is made of what the first one and the others come to. -/
theorem outcome_compileAll_cons (op : Operator) (p : Predicate) (rest : List Predicate)
    (c : Compiler) : (compileAll op (p :: rest) c).2.outcome =
      (c.compile p).2.outcome.bind fun front =>
        (compileAll op rest (c.compile p).1).2.outcome.map (Predicate.joinTexts op front) := by
  simp only [compileAll, outcome_andThen, andThen_done]

/-- Predicates in a row fail when one of them fails by itself. -/
theorem compileAll_error_iff (op : Operator) (ps : List Predicate) (c : Compiler) :
    (∃ e, (compileAll op ps c).2.outcome = .error e) ↔ ∃ p ∈ ps, c.Fails p := by
  induction ps generalizing c with
  | nil => simp [compileAll, done]
  | cons p rest ih =>
    have hrest : (∃ e, (compileAll op rest (c.compile p).1).2.outcome = .error e) ↔
        ∃ p ∈ rest, c.Fails p := ih (c.compile p).1
    rw [outcome_compileAll_cons, List.exists_mem_cons_iff, ← hrest, ← compile_error_iff]
    cases (c.compile p).2.outcome with
    | error e => simp [Except.bind]
    | ok front =>
      cases (compileAll op rest (c.compile p).1).2.outcome <;> simp [Except.bind, Except.map]

/-- Nothing is left of predicates in a row when nothing is left of each of them by itself. -/
theorem compileAll_none_iff (op : Operator) (ps : List Predicate) (c : Compiler) :
    (compileAll op ps c).2.outcome = .ok none ↔ ∀ p ∈ ps, c.drops p := by
  induction ps generalizing c with
  | nil => simp [compileAll, done]
  | cons p rest ih =>
    have hrest : (compileAll op rest (c.compile p).1).2.outcome = .ok none ↔
        ∀ p ∈ rest, c.drops p := ih (c.compile p).1
    rw [outcome_compileAll_cons, List.forall_mem_cons, ← hrest, ← compile_none_iff]
    cases (c.compile p).2.outcome with
    | error e => simp [Except.bind]
    | ok front =>
      cases (compileAll op rest (c.compile p).1).2.outcome <;>
        simp [Except.bind, Except.map, Predicate.joinTexts_eq_none]

/-- Predicates in a row have the result of those that are not dropped. -/
theorem compileAll_filter (op : Operator) (ps : List Predicate) (c : Compiler) :
    SameResult (compileAll op ps c) (compileAll op (ps.filter (!c.drops ·)) c) := by
  induction ps generalizing c with
  | nil => exact .refl _
  | cons p rest ih =>
    have hrest : SameResult (compileAll op rest (c.compile p).1)
        (compileAll op (rest.filter (!c.drops ·)) (c.compile p).1) := ih (c.compile p).1
    rw [compileAll]
    cases hp : c.drops p with
    | true =>
      rw [List.filter_cons_of_neg (by simp [hp])]
      -- A dropped predicate leaves the compiler as it was, and nothing in front of the others.
      let next (c : Compiler) (front : Option String) : Compiler × Played (Option String) :=
        andThen (compileAll op rest c) fun c back => c.done (Predicate.joinTexts op front back)
      have hdropped : SameResult (andThen (c.compile p) next) (andThen (c.done none) next) :=
        (compile_of_drops hp).andThen fun _ => .refl _
      have hnone : andThen (c.done none) next = compileAll op rest c :=
        (done_andThen none next).trans (andThen_done_self _)
      rw [hnone] at hdropped
      exact hdropped.trans (ih c)
    | false =>
      rw [List.filter_cons_of_pos (by simp [hp]), compileAll]
      exact (SameResult.refl _).andThen fun front =>
        hrest.andThen fun back => .refl _

/-- The result of predicates in a row is their texts, joined to the right: the texts that they come
to when they are rendered one after the other, with the same parameters. -/
theorem compileAll_calls (op : Operator) (ps : List Predicate) (c : Compiler) {s : Option String}
    (h : (compileAll op ps c).2.outcome = .ok s) :
    s = Predicate.nestTexts op (texts (c.calls (ps.map .compile)).2) ∧
      (compileAll op ps c).1 = (c.calls (ps.map .compile)).1 := by
  induction ps generalizing c s with
  | nil =>
    cases h
    exact ⟨rfl, rfl⟩
  | cons p rest ih =>
    rw [outcome_compileAll_cons] at h
    obtain ⟨front, hfront, h⟩ := bind_eq_ok h
    obtain ⟨back, hback, rfl⟩ := map_eq_ok h
    obtain ⟨rfl, hcompiler⟩ := ih (c.compile p).1 hback
    have htexts : texts (c.calls ((p :: rest).map .compile)).2 =
        front.toList ++ texts ((c.compile p).1.calls (rest.map .compile)).2 := by
      rw [texts, List.map_cons, calls, List.filterMap_cons, call, hfront]
      cases front <;> rfl
    constructor
    · rw [htexts]
      cases front <;> rfl
    · rw [compileAll, Compiler.andThen, hfront]
      dsimp only
      rw [andThen_done]
      exact hcompiler

/-- Joined predicates are rendered in a row. -/
theorem compile?_joinAll (hop : op.isCombinator) (ps : List Predicate) (c : Compiler) :
    c.compile? (Predicate.joinAll op ps) = compileAll op ps c := by
  cases hjoin : Predicate.joinAll op ps with
  | none =>
    rw [Predicate.joinAll_eq_none.mp hjoin]
    rfl
  | some p => exact compileAll_eq hop hjoin c

/-- What joined predicates come to: they fail when one of them fails by itself, and are dropped when
all of them are; otherwise they have the result of those that are not dropped, joined in the same
order, and its text is made of theirs. -/
structure Folds (c : Compiler) (op : Operator) (ps : List Predicate) : Prop where
  fails_iff : (∃ e, (c.compile? (Predicate.joinAll op ps)).2.outcome = .error e) ↔
    ∃ p ∈ ps, c.Fails p
  drops_iff : (c.compile? (Predicate.joinAll op ps)).2.outcome = .ok none ↔ ∀ p ∈ ps, c.drops p
  survivors : SameResult (c.compile? (Predicate.joinAll op ps))
    (c.compile? (Predicate.joinAll op (ps.filter (!c.drops ·))))
  text : ∀ s, (c.compile? (Predicate.joinAll op ps)).2.outcome = .ok s →
    s = Predicate.nestTexts op (texts (c.calls (ps.map .compile)).2)

/-- Joined predicates fold. -/
theorem folds (hop : op.isCombinator) (ps : List Predicate) (c : Compiler) : c.Folds op ps where
  fails_iff := by
    rw [compile?_joinAll hop]
    exact compileAll_error_iff op ps c
  drops_iff := by
    rw [compile?_joinAll hop]
    exact compileAll_none_iff op ps c
  survivors := by
    rw [compile?_joinAll hop, compile?_joinAll hop]
    exact compileAll_filter op ps c
  text s hs := by
    rw [compile?_joinAll hop] at hs
    exact (compileAll_calls op ps c hs).1

end Compiler

end SqlRender
