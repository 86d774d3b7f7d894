import SqlRender.Proofs.Alike.Fragment
import SqlRender.Proofs.Predicate.Kept

/-!
# Predicates that differ in their contents only

Two predicates are alike when they have the same operators in the same places, alike names for
their fields and alike values. The same leaves are then kept of both, and what is kept is
rendered as alike fragments.
-/

namespace SqlRender

mutual

/-- Terms that differ in their contents only. -/
inductive Term.Alike : Term → Term → Prop
  | field {a b : String} (h : AlikeNames a b) : Term.Alike (.field a) (.field b)
  | nested {p q : Predicate} (h : Predicate.Alike p q) : Term.Alike (.nested p) (.nested q)

/-- Operands that differ in their contents only. -/
inductive Operand.Alike : Operand → Operand → Prop
  | value {v w : Value} (h : v.Alike w) : Operand.Alike (.value v) (.value w)
  | nested {p q : Predicate} (h : Predicate.Alike p q) : Operand.Alike (.nested p) (.nested q)
  | list {vs ws : List Value} (h : List.Forall₂ Value.Alike vs ws) :
    Operand.Alike (.list vs) (.list ws)
  | absent : Operand.Alike .absent .absent

/-- Predicates that differ in their contents only. -/
inductive Predicate.Alike : Predicate → Predicate → Prop
  | node {left left' : Term} (hleft : Term.Alike left left') (op : Operator)
    {right right' : Operand} (hright : Operand.Alike right right') :
    Predicate.Alike (.node left op right) (.node left' op right')

end

namespace Kept

open Fragment

variable {d : Dialect} {a b : String}

/-- The values of alike lists that are not null are alike. -/
theorem alike_present {vs ws : List Value} (h : List.Forall₂ Value.Alike vs ws) :
    List.Forall₂ Value.Alike (vs.filter (!·.isNull)) (ws.filter (!·.isNull)) := by
  induction h with
  | nil => exact .nil
  | @cons v w _ _ hvalue _ ih =>
    rw [List.filter_cons, List.filter_cons, hvalue.isNull_eq]
    cases w.isNull with
    | true => exact ih
    | false => exact .cons hvalue ih

/-- The fragments of alike comparisons are alike. -/
theorem alike_comparison (op : OperatorOf .comparison) (hname : AlikeNames a b) {v w : Value}
    (h : v.Alike w) :
    ((comparison op a v).fragment d).Alike ((comparison op b w).fragment d) :=
  .cons (.text _) (.cons (.name hname) (.cons (.text _) (.cons (.slot h) (.cons (.text _) .nil))))

/-- The fragments of alike memberships are alike. -/
theorem alike_membership (op : OperatorOf .membership) (hname : AlikeNames a b)
    {vs ws : List Value} (h : List.Forall₂ Value.Alike vs ws) :
    ((membership op a vs).fragment d).Alike ((membership op b ws).fragment d) := by
  have hvalues : (joined ", " (vs.map fun v => [.slot v])).Alike
      (joined ", " (ws.map fun w => [.slot w])) := by
    refine Alike.joined ?_
    rw [List.forall₂_map_left_iff, List.forall₂_map_right_iff]
    exact h.imp fun v w hvalue => .cons (.slot hvalue) .nil
  have hend := hvalues.append (.cons (.text "))") .nil)
  exact .cons (.text _) (.cons (.name hname) (.cons (.text _) hend))

/-- The fragments of patterns for texts are alike. -/
theorem alike_pattern (op : OperatorOf .pattern) (hname : AlikeNames a b) (s t : String) :
    ((pattern op a s).fragment d).Alike ((pattern op b t).fragment d) := by
  have hterm : ∀ x y, (patternTerm d op a x).Alike (patternTerm d op b y) := fun x y =>
    .cons (.name hname) (.cons (.text _) (.cons (.slot (.strings x y)) (.cons (.text _) .nil)))
  have hpatterns : ∀ x y, List.Forall₂ (fun _ _ => True) (op.1.patterns x) (op.1.patterns y) := by
    intro x y
    unfold Operator.patterns
    cases op.1 <;> simp
  have hterms : (joined (joiner op) ((op.1.patterns (d.profile.like.escape s)).map
        (patternTerm d op a))).Alike
      (joined (joiner op) ((op.1.patterns (d.profile.like.escape t)).map
        (patternTerm d op b))) := by
    refine Alike.joined ?_
    rw [List.forall₂_map_left_iff, List.forall₂_map_right_iff]
    exact (hpatterns _ _).imp fun x y _ => hterm x y
  exact .cons (.text _) (hterms.append (.cons (.text _) .nil))

end Kept

namespace Predicate

variable {d : Dialect}

/-- What is kept of alike leaves is rendered as alike fragments. -/
theorem alike_keptLeaf {family : OperatorFamily} (op : OperatorOf family) {a b : String}
    (hname : AlikeNames a b) {right right' : Operand} (h : Operand.Alike right right') :
    Option.Rel Fragment.Alike ((keptLeaf family op a right).map (·.fragment d))
      ((keptLeaf family op b right').map (·.fragment d)) := by
  cases family with
  | nullity =>
    have hfragment : ((Kept.nullity op a).fragment d).Alike ((Kept.nullity op b).fragment d) :=
      .cons (.text _) (.cons (.name hname) (.cons (.text _) .nil))
    cases h <;> exact .some hfragment
  | combinator => cases h <;> exact .none
  | comparison =>
    cases h with
    | value hvalue =>
      simp only [keptLeaf, hvalue.isNull_eq]
      split
      · exact .none
      · exact .some (Kept.alike_comparison op hname hvalue)
    | _ => exact .none
  | membership =>
    cases h with
    | list hlist =>
      have hpresent := Kept.alike_present hlist
      simp only [keptLeaf, isEmpty_of_forall₂ hpresent]
      split
      · exact .some (.cons (.text _) .nil)
      · exact .some (Kept.alike_membership op hname hpresent)
    | _ => exact .none
  | pattern =>
    cases h with
    | value hvalue =>
      cases hvalue with
      | same =>
        rename_i v
        cases v with
        | string s => exact .some (Kept.alike_pattern op hname s s)
        | _ => exact .none
      | strings s t => exact .some (Kept.alike_pattern op hname s t)
    | _ => exact .none

/-- Fragments that are alike are joined to alike fragments. -/
theorem alike_joinFragments (op : Operator) {left left' right right' : Option Fragment}
    (hleft : Option.Rel Fragment.Alike left left')
    (hright : Option.Rel Fragment.Alike right right') :
    Option.Rel Fragment.Alike (joinFragments op left right) (joinFragments op left' right') := by
  cases hleft with
  | none => cases hright with
    | none => exact .none
    | some hback => exact .some hback
  | some hfront => cases hright with
    | none => exact .some hfront
    | some hback =>
      have hend := Fragment.Alike.append hback (.cons (.text ")") .nil)
      have hmiddle := hfront.append (.cons (.text (" " ++ op.symbol ++ " ")) hend)
      simp only [joinFragments, List.cons_append, List.append_assoc]
      exact .some (.cons (.text "(") hmiddle)

/-- What is kept of alike predicates is rendered as alike fragments. -/
theorem alike_kept {p q : Predicate} (h : Predicate.Alike p q) :
    Option.Rel Fragment.Alike (p.kept.map (·.fragment d)) (q.kept.map (·.fragment d)) := by
  induction p using induction_sides generalizing q with
  | field name op right ih =>
    obtain ⟨hleft, _, hright⟩ := h
    cases hleft with
    | field hname =>
      rw [kept, kept]
      exact alike_keptLeaf ⟨op, rfl⟩ hname hright
  | nested left op right hleft hright =>
    obtain ⟨hterm, _, hoperand⟩ := h
    cases hterm with
    | nested hterm =>
      have hfront := hleft hterm
      by_cases hfamily : op.family = .combinator
      · cases hoperand with
        | nested hoperand =>
          simp only [kept, hfamily, dif_pos]
          rw [← joinFragments_eq, ← joinFragments_eq]
          exact alike_joinFragments op hfront (hright _ rfl hoperand)
        | _ => simpa only [kept, hfamily, dif_pos] using hfront
      · cases hoperand <;> simp only [kept, hfamily, dif_neg, not_false_iff] <;> exact .none

end Predicate

end SqlRender
