import SqlRender.Text.Blank

/-!
# Trimming

What trimming takes off a text are the blanks at its ends, and of a word between blanks it leaves
the word.
-/

namespace SqlRender.Text

variable {before core after : List Char}

/-- The blanks in front of a word are trimmed off, and nothing more. -/
theorem trimStart_append (hbefore : before.all isBlank) (hcore : core ≠ [])
    (hletters : core.all (!isBlank ·)) : trimStart (before ++ core ++ after) = core ++ after := by
  cases core with
  | nil => exact absurd rfl hcore
  | cons c core =>
    rw [List.all_cons, Bool.and_eq_true, Bool.not_eq_true'] at hletters
    rw [List.append_assoc, trimStart, List.dropWhile_append_of_pos (List.all_eq_true.mp hbefore),
      List.cons_append, List.dropWhile_cons_of_neg (by simp [hletters.1])]

/-- The blanks around a word are trimmed off. -/
theorem trim_append (hbefore : before.all isBlank) (hafter : after.all isBlank) (hcore : core ≠ [])
    (hletters : core.all (!isBlank ·)) : trim (before ++ core ++ after) = core := by
  have hback : trimStart (after.reverse ++ core.reverse ++ []) = core.reverse ++ [] :=
    trimStart_append (by simpa using hafter) (by simpa using hcore) (by simpa using hletters)
  rw [List.append_nil, List.append_nil, ← List.reverse_append] at hback
  rw [trim, trimStart_append hbefore hcore hletters, hback, List.reverse_reverse]

/-- What is trimmed off a text are blanks. -/
theorem exists_trim (s : List Char) : ∃ before after : List Char, before.all isBlank ∧
    after.all isBlank ∧ s = before ++ trim s ++ after := by
  have hback : trim s ++ ((trimStart s).reverse.takeWhile isBlank).reverse = trimStart s := by
    rw [trim, ← List.reverse_append]
    exact (congrArg List.reverse List.takeWhile_append_dropWhile).trans (List.reverse_reverse _)
  refine ⟨s.takeWhile isBlank, ((trimStart s).reverse.takeWhile isBlank).reverse,
    List.all_takeWhile, by rw [List.all_reverse, List.all_takeWhile], ?_⟩
  rw [List.append_assoc, hback]
  exact List.takeWhile_append_dropWhile.symm

end SqlRender.Text
