import SqlRender.Proofs.Fragment.Blank
import SqlRender.Proofs.Predicate.Kept

/-!
# Predicates of the same form

Two predicates have the same form when they differ in values only, and only so far that the same
leaves are rendered of both: the values compared with are null together, the values looked for by a
pattern are texts together, and lists hold as many values that are not null. Either both are
refused or both are drafted as fragments that are equal but for the values in their slots.
-/

namespace SqlRender

mutual

/-- Terms that differ in values only. -/
inductive Term.SameForm : Term → Term → Prop
  | field (name : String) : Term.SameForm (.field name) (.field name)
  | nested {p q : Predicate} (h : Predicate.SameForm p q) : Term.SameForm (.nested p) (.nested q)

/-- Operands of an operator that differ in values only. -/
inductive Operand.SameForm : Operator → Operand → Operand → Prop
  | value {op : Operator} {v w : Value} (hnull : op.isComparison → v.isNull = w.isNull)
      (hstring : op.isPattern → v.string?.isSome = w.string?.isSome) :
    Operand.SameForm op (.value v) (.value w)
  | list {op : Operator} {vs ws : List Value}
      (h : (vs.filter (!·.isNull)).length = (ws.filter (!·.isNull)).length) :
    Operand.SameForm op (.list vs) (.list ws)
  | nested {op : Operator} {p q : Predicate} (h : Predicate.SameForm p q) :
    Operand.SameForm op (.nested p) (.nested q)
  | absent {op : Operator} : Operand.SameForm op .absent .absent

/-- Predicates that differ in values only. -/
inductive Predicate.SameForm : Predicate → Predicate → Prop
  | node {left left' : Term} (hleft : Term.SameForm left left') (op : Operator)
    {right right' : Operand} (hright : Operand.SameForm op right right') :
    Predicate.SameForm (.node left op right) (.node left' op right')

end

namespace Predicate

open Fragment

variable {d : Dialect} {op : Operator} {field : String} {right right' : Operand}

/-- Two drafts of a predicate that end alike: both in an error, or both without a fragment or in
fragments that are equal but for their values. -/
abbrev SameDraft (x y : Draft (Option Fragment)) : Prop :=
  SameEnd (fun f g => f.map blank = g.map blank) x.outcome y.outcome

/-- Fragments that are equal but for their values are drafted alike. -/
theorem sameDraft_ofFragment {f g : Fragment} (h : f.blank = g.blank) :
    SameDraft (some <$> Draft.ofFragment f) (some <$> Draft.ofFragment g) := by
  have hsome : (some f).map blank = (some g).map blank := congrArg some h
  exact .ok hsome

/-- Leaves that are dropped are dropped or refused together. -/
theorem sameDraft_dropLeaf (leaf leaf' : Drop) :
    SameDraft (dropLeaf d leaf) (dropLeaf d leaf') := by
  unfold SameDraft dropLeaf
  split
  · exact .error _ _
  · exact .ok rfl

/-- A comparison with a value that is not null is drafted with a slot for it. -/
theorem draftComparison_value {v : Value} (hv : v.isNull = false) :
    draftComparison d op field (.value v) = some <$> Draft.ofFragment
      [.text "(", .name field, .text (" " ++ op.symbol ++ " "), .slot v, .text ")"] := by
  cases v <;> first | rfl | cases hv

/-- A pattern that is no text is dropped. -/
theorem draftPattern_value {v : Value} (hv : v.string?.isSome = false) :
    draftPattern d op field (.value v) = dropLeaf d ⟨op, field, .patternKind v.kind⟩ := by
  cases v <;> first | rfl | cases hv

/-- Comparisons of the same form are drafted alike. -/
theorem sameDraft_comparison (hop : op.isComparison) (h : Operand.SameForm op right right') :
    SameDraft (draftComparison d op field right) (draftComparison d op field right') := by
  cases h with
  | list _ => exact .error _ _
  | nested _ => exact .error _ _
  | absent => exact sameDraft_dropLeaf _ _
  | @value _ v w hnull _ =>
    have hnull := hnull hop
    cases hv : v.isNull with
    | false =>
      rw [draftComparison_value hv, draftComparison_value (hnull ▸ hv)]
      exact sameDraft_ofFragment rfl
    | true =>
      have hdrop : ∀ {u : Value}, u.isNull = true →
          draftComparison d op field (.value u) = dropLeaf d ⟨op, field, .nullComparison⟩ := by
        intro u hu
        cases u <;> first | rfl | cases hu
      rw [hdrop hv, hdrop (hnull ▸ hv)]
      exact sameDraft_dropLeaf _ _

/-- Memberships of the same form are drafted alike. -/
theorem sameDraft_membership (h : Operand.SameForm op right right') :
    SameDraft (some <$> draftMembership op field right)
      (some <$> draftMembership op field right') := by
  cases h with
  | value _ _ => exact .error _ _
  | nested _ => exact .error _ _
  | absent => exact .error _ _
  | @list _ vs ws h =>
    rw [draftMembership, draftMembership]
    generalize vs.filter (!·.isNull) = present at h ⊢
    generalize ws.filter (!·.isNull) = present' at h ⊢
    have hvalues : List.Forall₂ (fun _ _ => True) present present' :=
      List.forall₂_iff_get.mpr ⟨h, fun _ _ _ => trivial⟩
    rw [isEmpty_of_forall₂ hvalues]
    split
    · exact .ok rfl
    · have hslots : blank (joined ", " (present.map fun v => [.slot v])) =
          blank (joined ", " (present'.map fun v => [.slot v])) :=
        blank_joined_map ", " hvalues fun _ _ _ => rfl
      refine sameDraft_ofFragment ?_
      simp only [List.cons_append, blank_cons, blank_append, hslots]

/-- Patterns of the same form are drafted alike. -/
theorem sameDraft_pattern (hop : op.isPattern) (h : Operand.SameForm op right right') :
    SameDraft (draftPattern d op field right) (draftPattern d op field right') := by
  cases h with
  | list _ => exact sameDraft_dropLeaf _ _
  | nested _ => exact sameDraft_dropLeaf _ _
  | absent => exact sameDraft_dropLeaf _ _
  | @value _ v w _ hstring =>
    have hstring := hstring hop
    cases hv : v.string?.isSome with
    | false =>
      rw [draftPattern_value hv, draftPattern_value (hstring ▸ hv)]
      exact sameDraft_dropLeaf _ _
    | true =>
      have htext : ∀ {u : Value}, u.string?.isSome = true → ∃ s, u = .string s := by
        intro u hu
        cases u <;> first | exact ⟨_, rfl⟩ | cases hu
      obtain ⟨s, rfl⟩ := htext hv
      obtain ⟨t, rfl⟩ := htext (hstring ▸ hv)
      have hpatterns : ∀ x y, List.Forall₂ (fun _ _ => True) (op.patterns x) (op.patterns y) := by
        intro x y
        unfold Operator.patterns
        cases op <;> simp
      have hterms : ∀ joiner, blank (joined joiner ((op.patterns (d.profile.like.escape s)).map
            (Kept.patternTerm d op field))) =
          blank (joined joiner ((op.patterns (d.profile.like.escape t)).map
            (Kept.patternTerm d op field))) := fun joiner =>
        blank_joined_map joiner (hpatterns _ _) fun _ _ _ => rfl
      have hdraft : ∀ s, draftPattern d op field (.value (.string s)) =
          some <$> Draft.ofFragment (.text "(" :: joined (Kept.joiner op)
            ((op.patterns (d.profile.like.escape s)).map (Kept.patternTerm d op field)) ++
              [.text ")"]) := fun _ => rfl
      rw [hdraft, hdraft]
      refine sameDraft_ofFragment ?_
      simp only [List.cons_append, blank_cons, blank_append, hterms]

/-- Leaves of the same form are drafted alike. -/
theorem sameDraft_leaf (hop : op.isCombinator = false) (h : Operand.SameForm op right right') :
    SameDraft (draftLeaf d op field right) (draftLeaf d op field right') := by
  unfold draftLeaf
  cases hfamily : op.family with
  | combinator => simp [Operator.isCombinator, hfamily] at hop
  | nullity => exact .ok rfl
  | membership => exact sameDraft_membership h
  | pattern => exact sameDraft_pattern (by simp [Operator.isPattern, hfamily]) h
  | comparison => exact sameDraft_comparison (by simp [Operator.isComparison, hfamily]) h

/-- Sides that are equal but for their values are joined to fragments that are so too. -/
theorem blank_joinFragments (op : Operator) {left left' right right' : Option Fragment}
    (hleft : left.map blank = left'.map blank) (hright : right.map blank = right'.map blank) :
    (joinFragments op left right).map blank = (joinFragments op left' right').map blank := by
  have hjoin : ∀ left right : Option Fragment, (joinFragments op left right).map blank =
      joinFragments op (left.map blank) (right.map blank) := by
    intro left right
    cases left <;> cases right <;> simp [joinFragments]
  rw [hjoin, hjoin, hleft, hright]

/-- Predicates of the same form are drafted alike. -/
theorem SameForm.draft {p q : Predicate} (h : p.SameForm q) : SameDraft (p.draft d) (q.draft d) := by
  induction p using induction_sides generalizing q with
  | field name op right ih =>
    obtain ⟨hleft, _, hright⟩ := h
    cases hleft with
    | field name =>
      rw [Predicate.draft, Predicate.draft]
      cases hop : op.isCombinator with
      | true => exact .error _ _
      | false => exact sameDraft_leaf hop hright
  | nested left op right hleft hright =>
    obtain ⟨hterm, _, hoperand⟩ := h
    cases hterm with
    | nested hterm =>
      rw [Predicate.draft, Predicate.draft]
      cases hop : op.isCombinator with
      | false => exact .error _ _
      | true =>
        simp only [if_true, SameDraft, Draft.outcome_bind]
        refine (hleft hterm).bind fun front front' hfront => ?_
        cases hoperand with
        | nested hoperand =>
          simp only [Draft.outcome_bind]
          refine (hright _ rfl hoperand).bind fun back back' hback => ?_
          exact .ok (blank_joinFragments op hfront hback)
        | absent => exact .ok hfront
        | value _ _ => exact .error _ _
        | list _ => exact .error _ _

end Predicate

end SqlRender
