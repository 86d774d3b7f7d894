import SqlRender.Proofs.Compiler
import SqlRender.Proofs.Predicate.Kept

/-!
# Rendering node by node

A compiler that walks through a predicate renders every value where it meets it: it hands out the
next placeholder and keeps the value, or writes the literal and stops at the first value that has
none. `walk_eq_compile` says that this is what compiling a predicate comes to: the parameters
kept, the leaves dropped and the text or the error are those of the draft of the whole predicate,
and every side of a combinator is numbered from where the one in front of it has ended.
-/

namespace SqlRender

/-- A combinator of two texts, or the only one of them that is left. -/
def Predicate.joinTexts (op : Operator) : Option String → Option String → Option String
  | some left, some right => some ("(" ++ left ++ " " ++ op.symbol ++ " " ++ right ++ ")")
  | some only, none => some only
  | none, only => only

namespace Compiler

/-- Drops a leaf, or stops where the dialect is strict. -/
def skip (c : Compiler) (leaf : Drop) : Compiler × Played (Option String) :=
  if c.dialect.strictPredicates then c.stop (.unrenderable (.dropped leaf))
  else (c, ⟨[], 0, [leaf], .ok none⟩)

/-- Renders values one after the other. -/
def walkValues (vs : List Value) (c : Compiler) : Compiler × Played (List String) :=
  walkEach (fun v c => c.value v) vs c

/-- Renders a comparison with one value. -/
def walkComparison (c : Compiler) (op : Operator) (field : String) :
    Operand → Compiler × Played (Option String)
  | .value .null => c.skip ⟨op, field, .nullComparison⟩
  | .value v =>
    andThen (c.value v) fun c' x =>
      c'.done (some ("(" ++ c.dialect.quoteName field ++ " " ++ op.symbol ++ " " ++ x ++ ")"))
  | .absent => c.skip ⟨op, field, .nothingToCompare⟩
  | operand => c.stop (.unrenderable (.notOneValue op field operand))

/-- Renders a list, in which there is nothing or everything when it has no value. -/
def walkMembership (c : Compiler) (op : Operator) (field : String) :
    Operand → Compiler × Played (Option String)
  | .list vs =>
    andThen (walkValues (vs.filter (!·.isNull)) c) fun c' xs =>
      c'.done <| some <|
        if xs.isEmpty then if op = .notIn then "(1 = 1)" else "(1 = 0)"
        else "(" ++ c.dialect.quoteName field ++ " " ++ op.symbol ++ " (" ++
          ", ".intercalate xs ++ "))"
  | operand => c.stop (.unrenderable (.notAList op field operand))

/-- Renders the patterns of a text. -/
def walkPattern (c : Compiler) (op : Operator) (field : String) :
    Operand → Compiler × Played (Option String)
  | .value (.string s) =>
    let patterns := op.patterns (c.dialect.profile.like.escape s)
    andThen (walkValues (patterns.map .string) c) fun c' xs =>
      let terms := xs.map fun x => c.dialect.quoteName field ++ " " ++ op.symbol ++ " " ++ x ++
        c.dialect.profile.like.clause
      c'.done (some ("(" ++ (if op.isNegated then " AND " else " OR ").intercalate terms ++ ")"))
  | .value v => c.skip ⟨op, field, .patternKind v.kind⟩
  | _ => c.skip ⟨op, field, .patternShape⟩

/-- Renders a leaf, by the family of its operator. -/
def walkLeaf (c : Compiler) (op : Operator) (field : String) (right : Operand) :
    Compiler × Played (Option String) :=
  match op.family with
  | .nullity => c.done (some ("(" ++ c.dialect.quoteName field ++ " " ++ op.symbol ++ ")"))
  | .membership => c.walkMembership op field right
  | .pattern => c.walkPattern op field right
  | _ => c.walkComparison op field right

/-- Renders a predicate node by node, the left side of a combinator in front of the right one. -/
def walk : Predicate → Compiler → Compiler × Played (Option String)
  | .node left op right, c =>
    if op.isCombinator then
      match left with
      | .field field => c.stop (.unrenderable (.fieldOnLeft op field))
      | .nested l =>
        andThen (walk l c) fun c front =>
          match right with
          | .nested r => andThen (walk r c) fun c back => c.done (Predicate.joinTexts op front back)
          | .absent => c.done front
          | operand => c.stop (.unrenderable (.literalOnRight op operand))
    else
      match left with
      | .nested _ => c.stop (.unrenderable (.nestedField op))
      | .field field => c.walkLeaf op field right
termination_by structural p => p

variable {c : Compiler} {field : String} {right : Operand}

/-- Every value that is not null takes one text. -/
theorem dealTexts_ofValue {d : Dialect} {vs : List Value} (hvs : ∀ v ∈ vs, v.isNull = false)
    {tape : List String} (h : tape.length = vs.length) :
    dealTexts d Fragment.ofValue vs tape = tape := by
  induction vs generalizing tape with
  | nil => exact (List.eq_nil_of_length_eq_zero h).symm
  | cons v rest ih =>
    cases tape with
    | nil => cases h
    | cons x tape =>
      have hv : Fragment.ofValue v = [.slot v] := by
        simp [Fragment.ofValue, hvs v List.mem_cons_self]
      have hone : [x].length = (Fragment.ofValue v).slots.length := by
        rw [hv]
        rfl
      have hfill : (Fragment.ofValue v).fill d [x] = x := by
        rw [hv]
        exact String.append_empty
      have hcons := dealTexts_cons d hone rest tape
      rwa [hfill, ih (fun w hw => hvs w (List.mem_cons_of_mem _ hw)) (Nat.succ.inj h)] at hcons

/-- Rendering values one after the other plays the draft that uses them. -/
theorem walkValues_eq {vs : List Value} (hvs : ∀ v ∈ vs, v.isNull = false) (c : Compiler) :
    walkValues vs c =
      c.run (Fragment.valueTexts c.dialect c.mode c.next) ⟨vs.map .use, .ok vs⟩ := by
  have hslots : slotsOf Fragment.ofValue vs = vs :=
    (Fragment.flatMap_slots_ofValue vs).trans
      (List.filter_eq_self.mpr fun v hv => by rw [hvs v hv]; rfl)
  rw [walkValues, plays_value.walkEach_eq, hslots]
  refine run_congr fun as has => ?_
  cases has
  rw [hslots]
  cases hxs : Fragment.valueTexts c.dialect c.mode c.next vs with
  | error e => rfl
  | ok xs => exact congrArg Except.ok (dealTexts_ofValue hvs (Fragment.length_valueTexts hxs))

/-- The texts of the values of a fragment put into it play the draft of the fragment. -/
theorem walkValues_fragment {f : Fragment} (hf : ∀ v ∈ f.slots, v.isNull = false)
    {g : List String → String}
    (hg : ∀ xs : List String, xs.length = f.slots.length → g xs = f.fill c.dialect xs) :
    andThen (walkValues f.slots c) (fun c xs => c.done (some (g xs))) =
      c.run c.finish (some <$> Draft.ofFragment f) := by
  have hdraft : (some <$> Draft.ofFragment f : Draft (Option Fragment)) =
      ⟨f.slots.map .use, (Except.ok f.slots).map fun _ => some f⟩ := by
    have hbind : (some <$> Draft.ofFragment f : Draft (Option Fragment)) =
        (Draft.ofFragment f).bind fun f => pure (some f) := rfl
    rw [hbind, Draft.bind, Draft.ofFragment]
    exact congrArg (Draft.mk · _) (List.append_nil _)
  rw [walkValues_eq hf, hdraft]
  refine run_done fun vs hvs => ?_
  cases hvs
  have hrender : c.finish (some f) = some <$> f.render c.dialect c.mode c.next := rfl
  rw [hrender, Fragment.render_eq_fill]
  cases hxs : Fragment.valueTexts c.dialect c.mode c.next f.slots with
  | error e => rfl
  | ok xs => exact congrArg (Except.ok ∘ some) (hg xs (Fragment.length_valueTexts hxs)).symm

/-- Two sides that are finished one behind the other are finished as what is joined of them. -/
theorem finish_joinFragments (next : Compiler) {op : Operator} {front back : Option Fragment}
    {x y : Option String} (hdialect : next.dialect = c.dialect) (hmode : next.mode = c.mode)
    (hnext : next.next = c.next + ((front.map Fragment.slots).getD []).length)
    (hx : c.finish front = .ok x) (hy : next.finish back = .ok y) :
    c.finish (Predicate.joinFragments op front back) = .ok (Predicate.joinTexts op x y) := by
  cases front with
  | none =>
    cases hx
    cases back with
    | none =>
      cases hy
      rfl
    | some g =>
      obtain ⟨t, ht, rfl⟩ := render_of_finish hy
      rw [hdialect, hmode, hnext] at ht
      have hg : ([] ++ g : Fragment).render c.dialect c.mode c.next = .ok ("" ++ t) :=
        Fragment.render_append (Fragment.render_of_slots_eq_nil rfl c.next) ht
      rw [String.empty_append] at hg
      exact congrArg (some <$> ·) hg
  | some f =>
    obtain ⟨s, hs, rfl⟩ := render_of_finish hx
    cases back with
    | none =>
      cases hy
      exact hx
    | some g =>
      obtain ⟨t, ht, rfl⟩ := render_of_finish hy
      rw [hdialect, hmode, hnext] at ht
      have hfront := Fragment.render_text_cons "(" hs
      have hback := Fragment.render_text_cons (" " ++ op.symbol ++ " ") ht
      have hall := Fragment.render_append_text (Fragment.render_append hfront hback) ")"
      refine (congrArg (some <$> ·) hall).trans (congrArg (Except.ok ∘ some) ?_)
      simp only [String.append_assoc]

/-- Dropping a leaf plays its draft. -/
theorem skip_eq_run (leaf : Drop) :
    c.skip leaf = c.run c.finish (Predicate.dropLeaf c.dialect leaf) := by
  unfold skip Predicate.dropLeaf
  split
  · exact stop_eq_run _ _
  · exact (run_of_drops c.finish [leaf] (.ok none)).symm

/-- A comparison plays its draft. -/
theorem walkComparison_eq (op : Operator) :
    c.walkComparison op field right =
      c.run c.finish (Predicate.draftComparison c.dialect op field right) := by
  cases right with
  | absent => exact skip_eq_run _
  | nested p => exact stop_eq_run _ _
  | list vs => exact stop_eq_run _ _
  | value v =>
    by_cases hv : v = .null
    · subst hv
      exact skip_eq_run _
    · let f : Fragment :=
        [.text "(", .name field, .text (" " ++ op.symbol ++ " "), .slot v, .text ")"]
      have hnull : v.isNull = false := by cases v <;> first | rfl | exact absurd rfl hv
      have hdraft : Predicate.draftComparison c.dialect op field (.value v) =
          some <$> Draft.ofFragment f := by
        cases v <;> first | rfl | exact absurd rfl hv
      have hwalk : c.walkComparison op field (.value v) =
          andThen (c.value v) fun c' x => c'.done (some ("(" ++ c.dialect.quoteName field ++ " " ++
            op.symbol ++ " " ++ x ++ ")")) := by
        cases v <;> first | rfl | exact absurd rfl hv
      have hslots : f.slots = [v] := rfl
      have hvalues : ∀ w ∈ f.slots, w.isNull = false := by simp [hslots, hnull]
      -- the only text of a list of one is the list joined
      have hfill : ∀ xs : List String, xs.length = f.slots.length →
          "(" ++ c.dialect.quoteName field ++ " " ++ op.symbol ++ " " ++ String.join xs ++ ")" =
            f.fill c.dialect xs := by
        intro xs hxs
        obtain ⟨x, rfl⟩ := List.length_eq_one_iff.mp hxs
        simp [f, Fragment.fill, String.append_assoc, String.join]
      rw [hwalk, hdraft, ← walkValues_fragment hvalues hfill, hslots, walkValues, walkEach,
        andThen_assoc]
      refine congrArg _ (funext fun c => funext fun x => ?_)
      rw [andThen_assoc, walkEach, done_andThen, done_andThen]
      simp [String.join]

/-- A membership plays its draft. -/
theorem walkMembership_eq (op : Operator) :
    c.walkMembership op field right =
      c.run c.finish (some <$> Predicate.draftMembership op field right) := by
  cases right with
  | absent => exact stop_eq_run _ _
  | nested p => exact stop_eq_run _ _
  | value v => exact stop_eq_run _ _
  | list vs =>
    rw [walkMembership, Predicate.draftMembership]
    generalize hpresent : vs.filter (!·.isNull) = present
    cases present with
    | nil =>
      have hrender : c.finish (some (Predicate.emptyMembership op)) =
          .ok (some (if op = .notIn then "(1 = 1)" else "(1 = 0)")) := by
        rw [finish_of_slots_eq_nil rfl]
        simp [Predicate.emptyMembership, Fragment.fill]
      exact done_eq_run hrender
    | cons v rest =>
      have hnull : ∀ w ∈ v :: rest, w.isNull = false := by
        intro w hw
        rw [← hpresent] at hw
        simpa using (List.mem_filter.mp hw).2
      let f : Fragment := .text "(" :: .name field :: .text (" " ++ op.symbol ++ " (") ::
        Fragment.joined ", " ((v :: rest).map fun w => [.slot w]) ++ [.text "))"]
      have hslots : f.slots = v :: rest := by
        simp [f, Fragment.slots_joined, List.flatMap_map]
      have hfill : ∀ xs : List String, xs.length = f.slots.length →
          (if xs.isEmpty then if op = .notIn then "(1 = 1)" else "(1 = 0)"
            else "(" ++ c.dialect.quoteName field ++ " " ++ op.symbol ++ " (" ++
              ", ".intercalate xs ++ "))") = f.fill c.dialect xs := by
        intro xs hxs
        have hne : xs.isEmpty = false := by
          cases xs with
          | nil => simp [hslots] at hxs
          | cons x xs => rfl
        have hlength : xs.length = (v :: rest).length := hxs.trans (congrArg List.length hslots)
        let front : Fragment := .text "(" :: .name field :: .text (" " ++ op.symbol ++ " (") ::
          Fragment.joined ", " ((v :: rest).map fun w => [.slot w])
        have hfront : xs.length = front.slots.length := by
          simpa [front, Fragment.slots_joined, List.flatMap_map] using hlength
        have hend : f.fill c.dialect xs = front.fill c.dialect xs ++ "))" :=
          Fragment.fill_append_text hfront "))"
        rw [hend, hne, if_neg Bool.false_ne_true, Fragment.fill, Fragment.fill, Fragment.fill,
          Fragment.fill_joined ", " (fun _ => rfl) (fun _ _ => String.append_empty) hlength]
        simp only [String.append_assoc, List.map_id']
      have hwalk := walkValues_fragment (hslots ▸ hnull) hfill
      rw [hslots] at hwalk
      exact hwalk

/-- A pattern plays its draft. -/
theorem walkPattern_eq (op : Operator) :
    c.walkPattern op field right =
      c.run c.finish (Predicate.draftPattern c.dialect op field right) := by
  cases right with
  | absent => exact skip_eq_run _
  | nested p => exact skip_eq_run _
  | list vs => exact skip_eq_run _
  | value v =>
    cases v with
    | string s =>
      let patterns := op.patterns (c.dialect.profile.like.escape s)
      let joiner := if op.isNegated then " AND " else " OR "
      let front : Fragment := .text "(" ::
        Fragment.joined joiner (patterns.map (Kept.patternTerm c.dialect op field))
      let f : Fragment := front ++ [.text ")"]
      have hslots : front.slots = patterns.map .string := by
        have hterm : ∀ pattern, (Kept.patternTerm c.dialect op field pattern).slots =
          [.string pattern] := fun _ => rfl
        simp only [front, Fragment.slots_text, Fragment.slots_joined, List.flatMap_map, hterm]
        rw [List.map_eq_flatMap]
      have hvalues : f.slots = patterns.map .string := by
        simp [f, hslots]
      have hnull : ∀ w ∈ f.slots, w.isNull = false := by
        intro w hw
        rw [hvalues] at hw
        obtain ⟨pattern, -, rfl⟩ := List.mem_map.mp hw
        rfl
      have hfill : ∀ xs : List String, xs.length = f.slots.length →
          "(" ++ joiner.intercalate (xs.map fun x => c.dialect.quoteName field ++ " " ++
            op.symbol ++ " " ++ x ++ c.dialect.profile.like.clause) ++ ")" =
              f.fill c.dialect xs := by
        intro xs hxs
        have hfront : xs.length = front.slots.length := by rw [hxs, hvalues, hslots]
        have hlength : xs.length = patterns.length := by simpa [hslots] using hfront
        have hend : f.fill c.dialect xs = front.fill c.dialect xs ++ ")" :=
          Fragment.fill_append_text hfront ")"
        have hterm : ∀ pattern x, (Kept.patternTerm c.dialect op field pattern).fill c.dialect [x] =
            c.dialect.quoteName field ++ " " ++ op.symbol ++ " " ++ x ++
              c.dialect.profile.like.clause := by
          intro pattern x
          simp [Kept.patternTerm, Fragment.fill, String.append_assoc]
        rw [hend, Fragment.fill, Fragment.fill_joined joiner (fun _ => rfl) hterm hlength]
      have hwalk := walkValues_fragment hnull hfill
      rw [hvalues] at hwalk
      exact hwalk
    | _ => exact skip_eq_run _

/-- A leaf plays its draft. -/
theorem walkLeaf_eq (op : Operator) :
    c.walkLeaf op field right = c.run c.finish (Predicate.draftLeaf c.dialect op field right) := by
  rw [walkLeaf, Predicate.draftLeaf]
  cases op.family with
  | nullity =>
    have hrender : c.finish (some (Predicate.nullityFragment op field)) =
        .ok (some ("(" ++ c.dialect.quoteName field ++ " " ++ op.symbol ++ ")")) := by
      rw [finish_of_slots_eq_nil rfl]
      simp [Predicate.nullityFragment, Fragment.fill, String.append_assoc]
    exact done_eq_run hrender
  | membership => exact walkMembership_eq op
  | pattern => exact walkPattern_eq op
  | comparison => exact walkComparison_eq op
  | combinator => exact walkComparison_eq op

/-- Rendering node by node is compiling. -/
theorem walk_eq_compile (p : Predicate) (c : Compiler) : walk p c = c.compile p := by
  have hcompile : ∀ (c : Compiler) p, c.compile p = c.run c.finish (p.draft c.dialect) :=
    fun _ _ => rfl
  induction p using Predicate.induction_sides generalizing c with
  | field name op right ih =>
    rw [hcompile, walk, Predicate.draft]
    by_cases hop : op.isCombinator
    · simp only [hop, if_true]
      exact stop_eq_run _ _
    · simp only [hop]
      exact walkLeaf_eq op
  | nested left op right hleft hright =>
    rw [hcompile, walk, Predicate.draft]
    by_cases hop : op.isCombinator
    · simp only [hop, if_true]
      rw [hleft, hcompile]
      refine run_bind fun front hfront hplay => ?_
      have hused := (Predicate.draft_eq_kept hfront).2
      obtain ⟨x, hx⟩ := finish_eq_ok hplay hused
      refine ⟨x, hx, ?_⟩
      cases right with
      | absent => exact done_eq_run hx
      | value v => exact stop_eq_run _ _
      | list vs => exact stop_eq_run _ _
      | nested r =>
        dsimp only
        rw [hright r rfl, hcompile]
        refine run_bind fun back hback hplay' => ?_
        obtain ⟨y, hy⟩ := finish_eq_ok hplay' (Predicate.draft_eq_kept hback).2
        refine ⟨y, hy, done_eq_run ?_⟩
        -- the right side is numbered from where the values of the left one have ended
        have hnext : (c.run c.finish (left.draft c.dialect)).1.next =
            c.next + ((front.map Fragment.slots).getD []).length := by
          rw [next_run hplay, hused]
        exact finish_joinFragments (c.run c.finish (left.draft c.dialect)).1 rfl rfl hnext hx hy
    · simp only [hop]
      exact stop_eq_run _ _

end Compiler

end SqlRender
