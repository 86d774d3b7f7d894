import SqlRender.Proofs.Compiler
import SqlRender.Proofs.Predicate.Kept

/-!
# The two modes agree

A predicate that is compiled with placeholders and the same predicate compiled with literals
leave out the same leaves and have the same text between their values. They differ in one way:
a value without a literal makes the inline compilation fail, and nothing else does that does not
make the other one fail too.
-/

namespace SqlRender

/-- Texts with other texts between them: the first gap, the first text, the second gap and so
on. -/
def interleave : List String → List String → String
  | gap :: gaps, x :: xs => gap ++ x ++ interleave gaps xs
  | gap :: _, [] => gap
  | [], _ => ""

namespace Fragment

variable {d : Dialect}

/-- A text in front of the first gap. -/
def widenGap (s : String) : List String → List String
  | [] => [s]
  | gap :: gaps => (s ++ gap) :: gaps

/-- The texts around the slots of a fragment. -/
def gaps (d : Dialect) : Fragment → List String
  | [] => [""]
  | .text s :: f => widenGap s (gaps d f)
  | .name s :: f => widenGap (d.quoteName s) (gaps d f)
  | .slot _ :: f => "" :: gaps d f

/-- There is one gap more than there are slots. -/
theorem length_gaps (d : Dialect) (f : Fragment) : (f.gaps d).length = f.slots.length + 1 := by
  have hwiden : ∀ s gaps, gaps ≠ [] → (widenGap s gaps).length = gaps.length := by
    intro s gaps h
    cases gaps with
    | nil => exact absurd rfl h
    | cons gap gaps => rfl
  induction f with
  | nil => rfl
  | cons piece rest ih =>
    have hne : gaps d rest ≠ [] := by
      intro h
      rw [h] at ih
      cases ih
    cases piece with
    | text s => rw [gaps, hwiden _ _ hne, ih, slots_text]
    | name s => rw [gaps, hwiden _ _ hne, ih, slots_name]
    | slot v => rw [gaps, List.length_cons, ih, slots_slot, List.length_cons]

/-- There is a gap in front. -/
theorem gaps_ne_nil (d : Dialect) (f : Fragment) : f.gaps d ≠ [] := by
  intro h
  have hlength := length_gaps d f
  rw [h] at hlength
  cases hlength

/-- A text in front of the first gap is in front of everything. -/
theorem interleave_widenGap (s : String) {gaps : List String} (h : gaps ≠ []) (xs : List String) :
    interleave (widenGap s gaps) xs = s ++ interleave gaps xs := by
  cases gaps with
  | nil => exact absurd rfl h
  | cons gap gaps =>
    cases xs with
    | nil => rfl
    | cons x xs => simp only [widenGap, interleave, String.append_assoc]

/-- A fragment with a text for every slot is its gaps with the texts between them. -/
theorem fill_eq_interleave (d : Dialect) (f : Fragment) {xs : List String}
    (h : xs.length = f.slots.length) : f.fill d xs = interleave (f.gaps d) xs := by
  induction f generalizing xs with
  | nil =>
    rw [List.eq_nil_of_length_eq_zero h]
    rfl
  | cons piece rest ih =>
    cases piece with
    | text s => rw [fill, gaps, interleave_widenGap _ (gaps_ne_nil d rest), ih h]
    | name s => rw [fill, gaps, interleave_widenGap _ (gaps_ne_nil d rest), ih h]
    | slot v =>
      cases xs with
      | nil => cases h
      | cons x xs => rw [fill, gaps, interleave, ih (Nat.succ.inj h), String.empty_append]

end Fragment

namespace Draft

variable {α β : Type} {d : Dialect}

/-- Without a value that has no literal, nothing ends a draft on the way. -/
theorem playError?_eq_none {draft : Draft α}
    (h : ∀ v ∈ draft.used, ∃ n x, d.literal n v = .ok x) :
    playError? d .inline draft.steps = none := by
  refine List.findSome?_eq_none_iff.mpr fun step hstep => ?_
  cases step with
  | drop leaf => rfl
  | use v =>
    obtain ⟨n, x, hx⟩ := h v (List.mem_filterMap.mpr ⟨.use v, hstep, rfl⟩)
    exact Step.unwritable?_eq_none.mpr (Dialect.literal_ok hx)

/-- A value without a literal ends a draft that is to be written out. -/
theorem playError?_eq_some {draft : Draft α} {v : Value} (hv : v ∈ draft.used) {n : Nat}
    {e : Error} (he : d.literal n v = .error e) :
    ∃ e', playError? d .inline draft.steps = some e' := by
  obtain ⟨step, hstep, hused⟩ := List.mem_filterMap.mp hv
  refine Option.isSome_iff_exists.mp (List.findSome?_isSome_iff.mpr ⟨step, hstep, ?_⟩)
  simp [Step.unwritable?, hused, Dialect.literal_error he 0]

/-- A draft that plays without an error on the way has the result of its outcome. -/
theorem outcome_play {mode : Mode} {start : Nat} {finish : α → Except Error β} {draft : Draft α}
    (h : playError? d mode draft.steps = none) :
    (draft.play d mode start finish).outcome = draft.outcome.bind finish := by
  simp [play, h]

/-- A draft that meets an error on the way plays to it. -/
theorem outcome_play_of_playError? {mode : Mode} {start : Nat} {finish : α → Except Error β}
    {draft : Draft α} {e : Error} (h : playError? d mode draft.steps = some e) :
    (draft.play d mode start finish).outcome = .error e := by
  simp [play, h]

/-- A draft that ends in an error plays to an error. -/
theorem outcome_play_error {mode : Mode} {start : Nat} {finish : α → Except Error β}
    {draft : Draft α} {e : Error} (h : draft.outcome = .error e) :
    ∃ e', (draft.play d mode start finish).outcome = .error e' := by
  cases hplay : playError? d mode draft.steps with
  | none => exact ⟨e, by rw [outcome_play hplay, h]; rfl⟩
  | some e' => exact ⟨e', outcome_play_of_playError? hplay⟩

end Draft

namespace Compiler

variable {d : Dialect} {p : Predicate}

/-- The compilation of a predicate with placeholders by a new compiler. -/
abbrev compileBound (d : Dialect) (p : Predicate) : Compiler × Played (Option String) :=
  compile { dialect := d, mode := .parameterized } p

/-- The compilation of a predicate with literals by a new compiler. -/
abbrev compileInline (d : Dialect) (p : Predicate) : Compiler × Played (Option String) :=
  compile { dialect := d, mode := .inline } p

/-- With placeholders, a predicate compiles to the outcome of its draft with bound text. -/
theorem compileBound_outcome (d : Dialect) (p : Predicate) :
    (compileBound d p).2.outcome = (p.draft d).outcome.map (Option.map (·.boundText d 1)) :=
  outcome_run_bound rfl _

/-- With placeholders, a compiler keeps a parameter for each value that the draft uses. -/
theorem compileBound_params (d : Dialect) (p : Predicate) :
    (compileBound d p).1.params = Fragment.parameters d 1 (p.draft d).used := rfl

/-- With literals, a compiler keeps no parameters. -/
theorem compileInline_params (d : Dialect) (p : Predicate) : (compileInline d p).1.params = [] :=
  rfl

/-- With a literal for each value, a predicate compiles to the outcome of its draft written out. -/
theorem compileInline_outcome (h : ∀ v ∈ (p.draft d).used, ∃ n x, d.literal n v = .ok x) :
    (compileInline d p).2.outcome =
      (p.draft d).outcome.bind fun f => f.mapM (Fragment.writtenText d 1) :=
  Draft.outcome_play (Draft.playError?_eq_none h)

/-- A value without a literal makes the inline compilation fail. -/
theorem compileInline_error {v : Value} (hv : v ∈ (p.draft d).used) {n : Nat} {e : Error}
    (he : d.literal n v = .error e) : ∃ e', (compileInline d p).2.outcome = .error e' := by
  obtain ⟨e', he'⟩ := Draft.playError?_eq_some hv he
  exact ⟨e', Draft.outcome_play_of_playError? he'⟩

/-- A draft without a fragment uses no value. -/
theorem used_of_none (h : (p.draft d).outcome = .ok none) : (p.draft d).used = [] :=
  (Predicate.draft_eq_kept h).2

/-- The draft of a fragment uses the values of its slots. -/
theorem used_of_some {f : Fragment} (h : (p.draft d).outcome = .ok (some f)) :
    (p.draft d).used = f.slots := (Predicate.draft_eq_kept h).2

/-- With placeholders, nothing is left of a predicate when its draft has no fragment. -/
theorem compileBound_eq_none :
    (compileBound d p).2.outcome = .ok none ↔ (p.draft d).outcome = .ok none := by
  rw [compileBound_outcome]
  cases (p.draft d).outcome with
  | error e => simp [Except.map]
  | ok f => cases f <;> simp [Except.map]

/-- With literals, nothing is left of a predicate when its draft has no fragment. -/
theorem compileInline_eq_none :
    (compileInline d p).2.outcome = .ok none ↔ (p.draft d).outcome = .ok none := by
  constructor
  · intro h
    obtain ⟨f, houtcome, hfinish⟩ := Draft.outcome_play_eq_ok h
    cases f with
    | none => exact houtcome
    | some f =>
      have hwritten : (some <$> f.writtenText d 1 : Except Error (Option String)) = .ok none :=
        hfinish
      obtain ⟨s, -, hs⟩ := map_eq_ok hwritten
      cases hs
  · intro h
    have hliteral : ∀ v ∈ (p.draft d).used, ∃ n x, d.literal n v = .ok x := by
      rw [used_of_none h]
      simp
    rw [compileInline_outcome hliteral, h]
    rfl

/-- With placeholders, a predicate compiles to the bound text of the fragment of its draft. -/
theorem compileBound_eq_some {sql : String} (h : (compileBound d p).2.outcome = .ok (some sql)) :
    ∃ f, (p.draft d).outcome = .ok (some f) ∧ sql = f.boundText d 1 := by
  rw [compileBound_outcome] at h
  obtain ⟨f, houtcome, hsql⟩ := map_eq_ok h
  obtain ⟨g, rfl, htext⟩ := Option.map_eq_some_iff.mp hsql.symm
  exact ⟨g, houtcome, htext.symm⟩

/-- What fails with placeholders fails with literals. -/
theorem compileInline_of_error {e : Error} (h : (compileBound d p).2.outcome = .error e) :
    ∃ e', (compileInline d p).2.outcome = .error e' := by
  rw [compileBound_outcome] at h
  cases houtcome : (p.draft d).outcome with
  | error e' => exact Draft.outcome_play_error houtcome
  | ok f =>
    rw [houtcome] at h
    cases h

/-- The two modes leave nothing of the same predicates; what one compiles with placeholders the
other compiles with literals between the same gaps, each under the number of its placeholder, unless
a value has no literal; and what fails with placeholders fails with literals. -/
theorem modes_agree (d : Dialect) (p : Predicate) :
    ((compileBound d p).2.outcome = .ok none ↔ (compileInline d p).2.outcome = .ok none) ∧
    (∀ sql, (compileBound d p).2.outcome = .ok (some sql) → ∃ gaps : List String,
      gaps.length = (compileBound d p).1.params.length + 1 ∧
      sql = interleave gaps ((compileBound d p).1.params.map (·.placeholder)) ∧
      (∀ literals, List.Forall₂ (fun vn x => d.literal vn.2 vn.1 = .ok x)
          (((compileBound d p).1.params.map (·.value)).zipIdx 1) literals →
        (compileInline d p).2.outcome = .ok (some (interleave gaps literals)) ∧
          (compileInline d p).1.params = []) ∧
      ((∃ v ∈ (compileBound d p).1.params.map (·.value), ∃ n e, d.literal n v = .error e) →
        ∃ e, (compileInline d p).2.outcome = .error e)) ∧
    ∀ e, (compileBound d p).2.outcome = .error e →
      ∃ e', (compileInline d p).2.outcome = .error e' := by
  refine ⟨compileBound_eq_none.trans compileInline_eq_none.symm, fun sql hsql => ?_,
    fun e => compileInline_of_error⟩
  obtain ⟨f, houtcome, rfl⟩ := compileBound_eq_some hsql
  have hused := used_of_some houtcome
  rw [compileBound_params, Fragment.map_placeholder_parameters, Fragment.map_value_parameters,
    hused]
  refine ⟨f.gaps d, ?_, ?_, fun literals hliterals => ⟨?_, compileInline_params d p⟩, ?_⟩
  · rw [Fragment.length_gaps]
    simp [Fragment.parameters]
  · rw [Fragment.boundText_eq_fill, Fragment.fill_eq_interleave]
    simp [Fragment.placeholders]
  · have hevery : ∀ v ∈ (p.draft d).used, ∃ n x, d.literal n v = .ok x := by
      intro v hv
      rw [hused, ← List.zipIdx_map_fst 1 f.slots] at hv
      obtain ⟨⟨_, n⟩, hvn, rfl⟩ := List.mem_map.mp hv
      exact ⟨n, exists_of_forall₂ hliterals _ hvn⟩
    have hlength : literals.length = f.slots.length := by
      rw [← hliterals.length_eq, List.length_zipIdx]
    have hwritten : (Except.ok (some f)).bind (fun f => f.mapM (Fragment.writtenText d 1)) =
        some <$> f.writtenText d 1 := rfl
    rw [compileInline_outcome hevery, houtcome, hwritten,
      Fragment.writtenText_of_literals hliterals, Fragment.fill_eq_interleave d f hlength]
    rfl
  · rintro ⟨v, hv, n, e, he⟩
    exact compileInline_error (hused ▸ hv) he

/-- A tree with a leaf that is dropped between two that are not, and with a value of choice. -/
def shelved (v : Value) : Predicate :=
  .and (.compare .equals "label" (.string "it's"))
    (.and (.compare .lessThan "due" .null) (.member .isIn "branch" [.int 1, v]))

/-- The two modes around one tree: its literals stand where its placeholders do, with a tag for the
text; one value without a literal leaves no text, and a leaf that is refused leaves none in either
mode. -/
theorem modes_agree_shelved :
    (∃ gaps : List String, gaps.length = 4 ∧
      "((\"label\" = $1) AND (\"branch\" IN ($2, $3)))" = interleave gaps ["$1", "$2", "$3"] ∧
      (compileInline (.ofEngine .postgres) (shelved (.int 2))).2.outcome =
        .ok (some (interleave gaps ["$q000001$it's$q000001$", "1", "2"]))) ∧
    (∃ e, (compileInline (.ofEngine .postgres) (shelved (.double .nan))).2.outcome = .error e) ∧
    ∃ e, (compileInline { Dialect.ofEngine .postgres with strictPredicates := true }
      (shelved (.int 2))).2.outcome = .error e := by
  have hbound := eq_ok_of_toOption
    (x := (compileBound (.ofEngine .postgres) (shelved (.int 2))).2.outcome)
    (a := some "((\"label\" = $1) AND (\"branch\" IN ($2, $3)))") (by decide +kernel)
  have hnan := eq_ok_of_toOption
    (x := (compileBound (.ofEngine .postgres) (shelved (.double .nan))).2.outcome)
    (a := some "((\"label\" = $1) AND (\"branch\" IN ($2, $3)))") (by decide +kernel)
  obtain ⟨-, hagree, -⟩ := modes_agree (.ofEngine .postgres) (shelved (.int 2))
  obtain ⟨gaps, hlength, htext, hinline, -⟩ := hagree _ hbound
  obtain ⟨-, hagree', -⟩ := modes_agree (.ofEngine .postgres) (shelved (.double .nan))
  obtain ⟨-, -, -, -, hfails⟩ := hagree' _ hnan
  obtain ⟨-, -, hrefused⟩ := modes_agree
    { Dialect.ofEngine .postgres with strictPredicates := true } (shelved (.int 2))
  refine ⟨⟨gaps, hlength, htext, (hinline _ ?_).1⟩, ?_, hrefused _ rfl⟩
  · exact .cons (eq_ok_of_toOption (by decide +kernel)) (.cons rfl (.cons rfl .nil))
  · exact hfails ⟨.double .nan, by decide, 3, _, rfl⟩

end Compiler

end SqlRender
