import SqlRender.Predicate.Draft
import SqlRender.Proofs.Draft
import SqlRender.Proofs.Fragment.Fill

/-!
# What is kept of a predicate

Rendering leaves out the leaves that have no SQL text, and a combinator with one side left is
that side. `Predicate.kept` is the tree that remains: every operator stands with operands of its
own family, a list holds no null, and a list without a value is a constant. The draft of a
predicate depends on what is kept of it only: `draft_eq_kept` gives its fragment and the values
it uses.
-/

namespace SqlRender

/-- The operators of one family. -/
abbrev OperatorOf (family : OperatorFamily) : Type := {op : Operator // op.family = family}

/-- A predicate without leaves that have no SQL text. -/
inductive Kept
  /-- A field looked for in a list without values. -/
  | constant (holds : Bool)
  | nullity (op : OperatorOf .nullity) (field : String)
  | comparison (op : OperatorOf .comparison) (field : String) (v : Value)
  | membership (op : OperatorOf .membership) (field : String) (vs : List Value)
  | pattern (op : OperatorOf .pattern) (field text : String)
  | join (op : OperatorOf .combinator) (left right : Kept)
deriving DecidableEq

namespace Kept

/-- One pattern that a field is matched with. -/
def patternTerm (d : Dialect) (op : Operator) (field pattern : String) : Fragment :=
  [.name field, .text (" " ++ op.symbol ++ " "), .slot (.string pattern),
    .text d.profile.like.clause]

/-- The word between two patterns. -/
def joiner (op : Operator) : String := if op.isNegated then " AND " else " OR "

/-- The fragment of a kept predicate. -/
def fragment (d : Dialect) : Kept → Fragment
  | constant holds => [.text (if holds then "(1 = 1)" else "(1 = 0)")]
  | nullity op field => Predicate.nullityFragment op field
  | comparison op field v =>
    [.text "(", .name field, .text (" " ++ op.1.symbol ++ " "), .slot v, .text ")"]
  | membership op field vs =>
    .text "(" :: .name field :: .text (" " ++ op.1.symbol ++ " (") ::
      Fragment.joined ", " (vs.map fun v => [.slot v]) ++ [.text "))"]
  | pattern op field text =>
    .text "(" :: Fragment.joined (joiner op)
      ((op.1.patterns (d.profile.like.escape text)).map (patternTerm d op field)) ++ [.text ")"]
  | join op left right =>
    .text "(" :: left.fragment d ++ .text (" " ++ op.1.symbol ++ " ") :: right.fragment d ++
      [.text ")"]

/-- The values of a kept predicate from left to right: the value compared with, the values of a
list, and the patterns of a text. -/
def values (d : Dialect) : Kept → List Value
  | constant _ => []
  | nullity _ _ => []
  | comparison _ _ v => [v]
  | membership _ _ vs => vs
  | pattern op _ text => (op.1.patterns (d.profile.like.escape text)).map .string
  | join _ left right => left.values d ++ right.values d

/-- The slots of a kept predicate hold its values. -/
theorem slots_fragment (d : Dialect) (k : Kept) : (k.fragment d).slots = k.values d := by
  induction k with
  | constant holds => rfl
  | nullity op field => rfl
  | comparison op field v => rfl
  | membership op field vs =>
    simp [fragment, values, Fragment.slots_joined, List.flatMap_map]
  | pattern op field text =>
    have hterm : ∀ pattern, (patternTerm d op field pattern).slots = [.string pattern] :=
      fun _ => rfl
    simp only [fragment, values, List.cons_append, Fragment.slots_text, Fragment.slots_append,
      Fragment.slots_joined, Fragment.slots_nil, List.append_nil, List.flatMap_map, hterm]
    rw [List.map_eq_flatMap]
  | join op left right hleft hright => simp [fragment, values, hleft, hright]

end Kept

namespace Predicate

/-- Induction over the predicates on either side of a predicate. -/
@[elab_as_elim]
theorem induction_sides {motive : Predicate → Prop}
    (field : ∀ name op right, (∀ r, right = .nested r → motive r) →
      motive (.node (.field name) op right))
    (nested : ∀ left op right, motive left → (∀ r, right = .nested r → motive r) →
      motive (.node (.nested left) op right)) : ∀ p, motive p
  | .node (.field name) op (.nested r) =>
    field name op (.nested r) fun _ h => Operand.nested.inj h ▸ induction_sides field nested r
  | .node (.field name) op (.value v) => field name op (.value v) nofun
  | .node (.field name) op (.list vs) => field name op (.list vs) nofun
  | .node (.field name) op .absent => field name op .absent nofun
  | .node (.nested l) op (.nested r) =>
    nested l op (.nested r) (induction_sides field nested l) fun _ h =>
      Operand.nested.inj h ▸ induction_sides field nested r
  | .node (.nested l) op (.value v) => nested l op (.value v) (induction_sides field nested l) nofun
  | .node (.nested l) op (.list vs) => nested l op (.list vs) (induction_sides field nested l) nofun
  | .node (.nested l) op .absent => nested l op .absent (induction_sides field nested l) nofun

/-- What is kept of a leaf, by the family of its operator. -/
def keptLeaf : (family : OperatorFamily) → OperatorOf family → String → Operand → Option Kept
  | .nullity, op, field, _ => some (.nullity op field)
  | .comparison, op, field, .value v => if v.isNull then none else some (.comparison op field v)
  | .membership, op, field, .list vs =>
    let present := vs.filter (!·.isNull)
    some (if present.isEmpty then .constant (op.1 = .notIn) else .membership op field present)
  | .pattern, op, field, .value (.string s) => some (.pattern op field s)
  | _, _, _, _ => none

/-- What is kept of a combinator: both sides, or the only one that is left. -/
def keptJoin (op : OperatorOf .combinator) : Option Kept → Option Kept → Option Kept
  | some left, some right => some (.join op left right)
  | some only, none => some only
  | none, only => only

/-- What is kept of a predicate; nothing when all of it is dropped. -/
def kept : Predicate → Option Kept
  | .node left op right =>
    match left with
    | .field field => keptLeaf op.family ⟨op, rfl⟩ field right
    | .nested l =>
      if h : op.family = .combinator then
        match right with
        | .nested r => keptJoin ⟨op, h⟩ l.kept r.kept
        | _ => l.kept
      else none
termination_by structural p => p

/-- The values of a leaf by the family of its operator: one that is not null, the ones of a list
that are not null, or the patterns of a text. -/
def leafValues (d : Dialect) (op : Operator) : OperatorFamily → Operand → List Value
  | .comparison, .value v => [v].filter (!·.isNull)
  | .membership, .list vs => vs.filter (!·.isNull)
  | .pattern, .value (.string s) => (op.patterns (d.profile.like.escape s)).map .string
  | _, _ => []

/-- The values of the leaves of a predicate that are not dropped, from left to right. -/
def boundValues (d : Dialect) : Predicate → List Value
  | .node left op right =>
    match left with
    | .field _ => leafValues d op op.family right
    | .nested l =>
      if op.family = .combinator then
        l.boundValues d ++
          match right with
          | .nested r => r.boundValues d
          | _ => []
      else []
termination_by structural p => p

/-- The values of a leaf are those of what is kept of it. -/
theorem values_keptLeaf {family : OperatorFamily} (op : OperatorOf family) (field : String)
    (right : Operand) (d : Dialect) :
    ((keptLeaf family op field right).map (·.values d)).getD [] =
      leafValues d op family right := by
  cases family with
  | nullity => cases right <;> rfl
  | combinator => cases right <;> rfl
  | comparison =>
    cases right with
    | value v => cases h : v.isNull <;> simp [keptLeaf, leafValues, Kept.values, h]
    | _ => rfl
  | membership =>
    cases right with
    | list vs =>
      cases h : (vs.filter (!·.isNull)).isEmpty with
      | true =>
        have hnil := List.isEmpty_iff.mp h
        simp [keptLeaf, leafValues, Kept.values, hnil]
      | false => simp [keptLeaf, leafValues, Kept.values, h]
    | _ => rfl
  | pattern =>
    cases right with
    | value v => cases v <;> rfl
    | _ => rfl

/-- The values of a predicate are those of what is kept of it. -/
theorem values_kept (d : Dialect) (p : Predicate) :
    (p.kept.map (·.values d)).getD [] = p.boundValues d := by
  have hjoin : ∀ op left right, ((keptJoin op left right).map (·.values d)).getD [] =
      (left.map (·.values d)).getD [] ++ (right.map (·.values d)).getD [] := by
    intro op left right
    cases left <;> cases right <;> simp [keptJoin, Kept.values]
  induction p using induction_sides with
  | field name op right ih => simpa only [kept, boundValues] using values_keptLeaf ⟨op, rfl⟩ ..
  | nested left op right hleft hright =>
    by_cases hfamily : op.family = .combinator
    · cases right with
      | nested r =>
        simp only [kept, boundValues, hfamily, dif_pos, if_true]
        rw [hjoin, hleft, hright r rfl]
      | _ => simp [kept, boundValues, hfamily, hleft]
    · cases right <;> simp [kept, boundValues, hfamily]

variable {d : Dialect} {field : String} {right : Operand} {f : Option Fragment}

/-- A dropped leaf has no fragment and uses no value. -/
theorem outcome_dropLeaf {leaf : Drop} (h : (dropLeaf d leaf).outcome = .ok f) :
    f = none ∧ (dropLeaf d leaf).used = [] := by
  unfold dropLeaf at h ⊢
  split at h
  · cases h
  · next hstrict =>
    rw [if_neg hstrict]
    exact ⟨(Except.ok.inj h).symm, rfl⟩

/-- A fragment that is always drafted has the values of its slots. -/
theorem outcome_some_ofFragment {g : Fragment}
    (h : (some <$> Draft.ofFragment g : Draft (Option Fragment)).outcome = .ok f) :
    f = some g ∧ (some <$> Draft.ofFragment g : Draft (Option Fragment)).used = g.slots := by
  obtain ⟨a, ha, rfl, hused⟩ := Draft.outcome_map_eq_ok h
  cases ha
  exact ⟨rfl, by rw [hused, Draft.used_ofFragment]⟩

/-- A comparison is drafted as what is kept of it. -/
theorem draftComparison_eq_kept (op : OperatorOf .comparison)
    (h : (draftComparison d op field right).outcome = .ok f) :
    f = (keptLeaf .comparison op field right).map (·.fragment d) ∧
      (draftComparison d op field right).used = (f.map Fragment.slots).getD [] := by
  cases right with
  | value v =>
    by_cases hv : v = .null
    · subst hv
      obtain ⟨rfl, hused⟩ := outcome_dropLeaf h
      exact ⟨rfl, hused⟩
    · have hnull : v.isNull = false := by cases v <;> first | rfl | exact absurd rfl hv
      have hdraft : draftComparison d op field (.value v) =
          some <$> Draft.ofFragment (Kept.fragment d (.comparison op field v)) := by
        cases v <;> first | rfl | exact absurd rfl hv
      rw [hdraft] at h ⊢
      obtain ⟨rfl, hused⟩ := outcome_some_ofFragment h
      exact ⟨by simp [keptLeaf, hnull], hused⟩
  | absent =>
    obtain ⟨rfl, hused⟩ := outcome_dropLeaf h
    exact ⟨rfl, hused⟩
  | nested p => cases h
  | list vs => cases h

/-- A membership is drafted as what is kept of it. -/
theorem draftMembership_eq_kept (op : OperatorOf .membership)
    (h : (some <$> draftMembership op field right : Draft (Option Fragment)).outcome = .ok f) :
    f = (keptLeaf .membership op field right).map (·.fragment d) ∧
      (some <$> draftMembership op field right : Draft (Option Fragment)).used =
        (f.map Fragment.slots).getD [] := by
  cases right with
  | list vs =>
    cases hpresent : (vs.filter (!·.isNull)).isEmpty with
    | true =>
      have hdraft : draftMembership op field (.list vs) = pure (emptyMembership op) := by
        simp [draftMembership, hpresent]
      have hkept : emptyMembership op = Kept.fragment d (.constant (op.1 = .notIn)) := by
        simp [emptyMembership, Kept.fragment]
      rw [hdraft] at h ⊢
      cases h
      exact ⟨by simp [keptLeaf, hpresent, hkept], rfl⟩
    | false =>
      have hdraft : draftMembership op field (.list vs) =
          Draft.ofFragment (Kept.fragment d (.membership op field (vs.filter (!·.isNull)))) := by
        simp [draftMembership, hpresent, Kept.fragment]
      rw [hdraft] at h ⊢
      obtain ⟨rfl, hused⟩ := outcome_some_ofFragment h
      exact ⟨by simp [keptLeaf, hpresent], hused⟩
  | value v => cases h
  | absent => cases h
  | nested p => cases h

/-- A pattern is drafted as what is kept of it. -/
theorem draftPattern_eq_kept (op : OperatorOf .pattern)
    (h : (draftPattern d op field right).outcome = .ok f) :
    f = (keptLeaf .pattern op field right).map (·.fragment d) ∧
      (draftPattern d op field right).used = (f.map Fragment.slots).getD [] := by
  have hdrop : ∀ leaf, (dropLeaf d leaf).outcome = .ok f →
      f = none ∧ (dropLeaf d leaf).used = (f.map Fragment.slots).getD [] := by
    intro leaf h
    obtain ⟨rfl, hused⟩ := outcome_dropLeaf h
    exact ⟨rfl, hused⟩
  cases right with
  | value v =>
    cases v with
    | string s =>
      obtain ⟨rfl, hused⟩ :=
        outcome_some_ofFragment (g := Kept.fragment d (.pattern op field s)) h
      exact ⟨rfl, hused⟩
    | _ => exact hdrop _ h
  | _ => exact hdrop _ h

/-- A leaf is drafted as what is kept of it. -/
theorem draftLeaf_eq_kept {family : OperatorFamily} (op : OperatorOf family)
    (hfamily : family ≠ .combinator) (h : (draftLeaf d op field right).outcome = .ok f) :
    f = (keptLeaf family op field right).map (·.fragment d) ∧
      (draftLeaf d op field right).used = (f.map Fragment.slots).getD [] := by
  rw [draftLeaf, op.2] at h ⊢
  cases family with
  | combinator => exact absurd rfl hfamily
  | comparison => exact draftComparison_eq_kept op h
  | membership => exact draftMembership_eq_kept op h
  | pattern => exact draftPattern_eq_kept op h
  | nullity =>
    cases h
    exact ⟨rfl, rfl⟩

/-- Joined fragments are the fragment of the joined predicates. -/
theorem joinFragments_eq (op : OperatorOf .combinator) (left right : Option Kept) :
    joinFragments op (left.map (·.fragment d)) (right.map (·.fragment d)) =
      (keptJoin op left right).map (·.fragment d) := by
  cases left <;> cases right <;> rfl

/-- The slots of joined fragments are those of the one and of the other. -/
theorem slots_joinFragments (op : Operator) (left right : Option Fragment) :
    ((joinFragments op left right).map Fragment.slots).getD [] =
      (left.map Fragment.slots).getD [] ++ (right.map Fragment.slots).getD [] := by
  cases left <;> cases right <;> simp [joinFragments]

/-- A predicate is drafted as what is kept of it, and it uses the values of that. -/
theorem draft_eq_kept {p : Predicate} (h : (p.draft d).outcome = .ok f) :
    f = p.kept.map (·.fragment d) ∧ (p.draft d).used = (f.map Fragment.slots).getD [] := by
  induction p using induction_sides generalizing f with
  | field name op right ih =>
    rw [draft] at h ⊢
    by_cases hop : op.isCombinator
    · simp only [hop, if_true] at h
      cases h
    · simp only [hop] at h ⊢
      have hfamily : op.family ≠ .combinator := by simpa [Operator.isCombinator] using hop
      rw [kept]
      exact draftLeaf_eq_kept ⟨op, rfl⟩ hfamily h
  | nested left op right hleft hright =>
    rw [draft] at h ⊢
    by_cases hop : op.isCombinator
    · have hfamily : op.family = .combinator := by simpa [Operator.isCombinator] using hop
      simp only [hop, if_true] at h ⊢
      obtain ⟨front, hfront, hback, hused⟩ := Draft.outcome_bind_eq_ok h
      obtain ⟨rfl, husedFront⟩ := hleft hfront
      rw [hused, husedFront, kept]
      cases right with
      | nested r =>
        obtain ⟨back, hr, hjoin, husedBack⟩ := Draft.outcome_bind_eq_ok hback
        obtain ⟨rfl, hr⟩ := hright r rfl hr
        cases hjoin
        refine ⟨?_, ?_⟩
        · simp only [hfamily, dif_pos]
          exact joinFragments_eq ⟨op, hfamily⟩ _ _
        · rw [husedBack, hr, slots_joinFragments]
          simp
      | absent =>
        cases hback
        exact ⟨by simp [hfamily], by simp⟩
      | value v => cases hback
      | list vs => cases hback
    · simp only [hop] at h
      cases h

end Predicate

end SqlRender
