import SqlRender.Proofs.Fragment.Legible
import SqlRender.Proofs.Predicate.Kept

/-!
# Rendered predicates are legible

Every node of a kept predicate stands in parentheses, with blanks around its operator, so its
fragment can be read piece by piece wherever it stands.
-/

namespace SqlRender

/-- The symbol of an operator between blanks is a separator. -/
theorem Operator.isSeparator_symbol (op : Operator) :
    Fragment.IsSeparator (" " ++ op.symbol ++ " ") := by cases op <;> decide

/-- The symbol of an operator in front of a parenthesis is a separator. -/
theorem Operator.isSeparator_symbol_opening (op : Operator) :
    Fragment.IsSeparator (" " ++ op.symbol ++ " (") := by cases op <;> decide

/-- The symbol of an operator that ends a leaf is a separator. -/
theorem Operator.isSeparator_symbol_closing (op : Operator) :
    Fragment.IsSeparator (" " ++ op.symbol ++ ")") := by cases op <;> decide

/-- The clause behind a pattern reads plainly. -/
theorem Engine.readsPlainly_clause (e : Engine) :
    e.profile.ReadsPlainly e.profile.like.clause.toList ∧
      startsWithBreak e.profile.like.clause.toList := by cases e <;> decide

namespace Kept

open Fragment

variable {d : Dialect}

/-- A closing parenthesis is legible everywhere. -/
theorem legible_closing : Legible d.profile false [.text ")"] := legible_text rfl rfl

/-- A pattern term is legible behind a break. -/
theorem legible_patternTerm (op : Operator) (field pattern : String) :
    Legible d.profile true (patternTerm d op field pattern) := by
  obtain ⟨hclause, hstart⟩ := d.engine.readsPlainly_clause
  have hrest : Legible d.profile true [.slot (.string pattern), .text d.profile.like.clause] :=
    ⟨rfl, ⟨hclause, .inr hstart⟩, trivial⟩
  exact ⟨rfl, legible_separator op.isSeparator_symbol hrest⟩

/-- The fragment of a kept predicate is legible everywhere. -/
theorem legible_fragment (k : Kept) : Legible d.profile false (k.fragment d) := by
  have hopening : IsSeparator "(" := by decide
  induction k with
  | constant holds =>
    cases holds with
    | true => exact legible_text (s := "(1 = 1)") (by decide) (by decide)
    | false => exact legible_text (s := "(1 = 0)") (by decide) (by decide)
  | nullity op field =>
    exact legible_separator hopening
      ⟨rfl, legible_separator op.1.isSeparator_symbol_closing trivial⟩
  | comparison op field v =>
    have hvalue : Legible d.profile true [.slot v, .text ")"] := ⟨rfl, legible_closing⟩
    exact legible_separator hopening ⟨rfl, legible_separator op.1.isSeparator_symbol hvalue⟩
  | membership op field vs =>
    have hvalues : Legible d.profile true (joined ", " (vs.map fun v => [.slot v])) := by
      refine legible_joined (by decide) fun f hf => ?_
      obtain ⟨v, -, rfl⟩ := List.mem_map.mp hf
      exact ⟨rfl, trivial⟩
    have hend : Legible d.profile false [.text "))"] := legible_text (by decide) (by decide)
    exact legible_separator hopening
      ⟨rfl, legible_separator op.1.isSeparator_symbol_opening (hvalues.append hend)⟩
  | pattern op field text =>
    have hjoiner : IsSeparator (joiner op) := by
      unfold joiner
      split <;> decide
    have hterms : Legible d.profile true (joined (joiner op)
        ((op.1.patterns (d.profile.like.escape text)).map (patternTerm d op field))) := by
      refine legible_joined hjoiner fun f hf => ?_
      obtain ⟨pattern, -, rfl⟩ := List.mem_map.mp hf
      exact legible_patternTerm op.1 field pattern
    exact legible_separator hopening (hterms.append legible_closing)
  | join op left right hleft hright =>
    have hoperator := legible_separator op.1.isSeparator_symbol hright.behindBreak
    have hsides := hleft.append (hoperator.append legible_closing)
    simp only [fragment, List.cons_append, List.append_assoc] at hsides ⊢
    exact legible_separator hopening hsides.behindBreak

end Kept

end SqlRender
