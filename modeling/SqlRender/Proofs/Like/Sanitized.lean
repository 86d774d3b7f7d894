import SqlRender.Proofs.Like.Matcher
import SqlRender.Proofs.Literal.Sanitize

/-!
# Sanitised patterns

The characters of comment marks and the control characters are not escaped, and what is written
around an escaped character is none of them. So a pattern that is sanitised is the pattern of the
sanitised text: no escape is torn from its character, and nothing is removed that is not removed
from the text by itself.
-/

namespace SqlRender.LikeStyle

variable (style : LikeStyle)

/-- What is written around an escaped character is harmless. -/
theorem isHarmless_of_mem_marks : ∀ e ∈ style.mark :: style.closing, IsHarmless e := by
  have hall : (style.mark :: style.closing).all fun e => IsHarmless e := by
    cases style <;> decide
  simpa only [List.all_eq_true, decide_eq_true_eq] using hall

/-- The characters that are escaped are harmless. -/
theorem isHarmless_of_isEscaped {c : Char} (hc : style.IsEscaped c) : IsHarmless c := by
  rcases hc with rfl | rfl | rfl
  · decide
  · decide
  · exact style.isHarmless_of_mem_marks _ List.mem_cons_self

/-- An escaped form has the character and harmless ones. -/
theorem eq_or_isHarmless_of_mem_escapeChar {c e : Char} (he : e ∈ style.escapeChar c) :
    e = c ∨ IsHarmless e := by
  rw [escapeChar_eq] at he
  split at he
  · rcases List.mem_cons.mp he with rfl | he
    · exact .inr (style.isHarmless_of_mem_marks _ List.mem_cons_self)
    · refine (List.mem_cons.mp he).imp_right fun he => ?_
      exact style.isHarmless_of_mem_marks e (List.mem_cons_of_mem _ he)
  · exact .inl (List.mem_singleton.mp he)

/-- Escaping keeps comment marks. -/
theorem keepsMarks_escapeChar : KeepsMarks style.escapeChar where
  same c hc := by
    have hplain : ¬style.IsEscaped c := by
      intro h
      rw [(style.isHarmless_of_isEscaped h).1] at hc
      cases hc
    rw [escapeChar_eq, if_neg hplain]
  ne_nil c := by
    obtain ⟨first, rest, hc, -⟩ := style.escapeChar_eq_cons c
    rw [hc]
    exact List.cons_ne_nil first rest
  other c hc e he := by
    rcases style.eq_or_isHarmless_of_mem_escapeChar he with rfl | he
    · exact hc
    · exact he.1

/-- Control characters are removed before or after a text is escaped. -/
theorem stripControls_escapeChars (s : List Char) :
    stripControls (style.escapeChars s) = style.escapeChars (stripControls s) := by
  have hkept : ∀ c, isKept c = true → (style.escapeChar c).filter isKept = style.escapeChar c := by
    refine fun c hc => List.filter_eq_self.mpr fun e he => ?_
    rcases style.eq_or_isHarmless_of_mem_escapeChar he with rfl | he
    · exact hc
    · exact he.2
  have hdropped : ∀ c, isKept c = false → (style.escapeChar c).filter isKept = [] := by
    intro c hc
    have hplain : ¬style.IsEscaped c := by
      intro h
      rw [(style.isHarmless_of_isEscaped h).2] at hc
      cases hc
    rw [escapeChar_eq, if_neg hplain, List.filter_cons_of_neg (Bool.not_eq_true _ ▸ hc),
      List.filter_nil]
  induction s with
  | nil => rfl
  | cons c s ih =>
    have hcons : stripControls (style.escapeChars (c :: s)) =
        (style.escapeChar c).filter isKept ++ stripControls (style.escapeChars s) := by
      rw [stripControls, escapeChars, List.flatMap_cons, List.filter_append]
      rfl
    have hfilter : stripControls (c :: s) =
        if isKept c then c :: stripControls s else stripControls s := List.filter_cons
    rw [hcons, ih, hfilter]
    cases hc : isKept c with
    | false => rw [hdropped c hc]; rfl
    | true => rw [hkept c hc]; rfl

/-- A sanitised pattern is the pattern of the sanitised text. -/
theorem sanitized_around (front back : Bool) (s : List Char) :
    sanitized (style.around front back s) = style.around front back (sanitized s) := by
  have hwild : ∀ side : Bool, ∀ c ∈ if side then ['%'] else [], IsHarmless c := by
    have hpercent : IsHarmless '%' := by decide
    intro side c hc
    cases side with
    | false => cases hc
    | true => rwa [List.mem_singleton.mp hc]
  have hcontrols : stripControls (style.around front back s) =
      style.around front back (stripControls s) := by
    have hkeep : ∀ side : Bool, (if side then ['%'] else []).filter isKept =
        if side then ['%'] else [] := fun side =>
      List.filter_eq_self.mpr fun c hc => (hwild side c hc).2
    have hescaped := style.stripControls_escapeChars s
    rw [stripControls] at hescaped
    simp only [stripControls, around, List.filter_append, hkeep, hescaped]
  have hcomments := style.keepsMarks_escapeChar.stripComments_around
    (fun c hc => (hwild front c hc).1) (fun c hc => (hwild back c hc).1) (stripControls s)
  rw [sanitized, hcontrols, around, ← List.append_assoc]
  refine hcomments.trans ?_
  rw [around, ← List.append_assoc]
  rfl

end SqlRender.LikeStyle
