import Mathlib.Logic.Function.Basic
import SqlRender.Like

/-!
# Escaped patterns determine their text

The escaped forms of two characters are never the start of one another, so a text can be read
back from its escaped form. No escaped form starts with a wildcard of its own, so a pattern with
a wildcard in front is a pattern with a wildcard behind only when the text is empty.
-/

namespace SqlRender.LikeStyle

variable {style : LikeStyle}

/-- The character that starts an escaped form. -/
def mark : LikeStyle → Char
  | brackets => '['
  | _ => '\\'

/-- The characters behind an escaped one. -/
def closing : LikeStyle → List Char
  | brackets => [']']
  | _ => []

/-- Whether a character is escaped. -/
def IsEscaped (style : LikeStyle) (c : Char) : Prop := c = '%' ∨ c = '_' ∨ c = style.mark

instance (style : LikeStyle) (c : Char) : Decidable (style.IsEscaped c) :=
  inferInstanceAs (Decidable (_ ∨ _))

/-- A character stands for itself, or it is escaped behind the mark. -/
theorem escapeChar_eq (style : LikeStyle) (c : Char) :
    style.escapeChar c = if style.IsEscaped c then style.mark :: c :: style.closing else [c] := by
  cases style <;> rfl

/-- The mark is escaped itself. -/
theorem isEscaped_mark (style : LikeStyle) : style.IsEscaped style.mark := .inr (.inr rfl)

/-- The escaped form of a character determines the character, whatever follows. -/
theorem escapeChar_append_injective {c d : Char} {s t : List Char}
    (h : style.escapeChar c ++ s = style.escapeChar d ++ t) : c = d ∧ s = t := by
  rw [escapeChar_eq, escapeChar_eq] at h
  by_cases hc : style.IsEscaped c
  · by_cases hd : style.IsEscaped d
    · rw [if_pos hc, if_pos hd] at h
      obtain ⟨rfl, hrest⟩ := List.cons.inj (List.cons.inj h).2
      exact ⟨rfl, List.append_cancel_left hrest⟩
    · rw [if_pos hc, if_neg hd] at h
      exact absurd ((List.cons.inj h).1 ▸ style.isEscaped_mark) hd
  · by_cases hd : style.IsEscaped d
    · rw [if_neg hc, if_pos hd] at h
      exact absurd ((List.cons.inj h).1 ▸ style.isEscaped_mark) hc
    · rw [if_neg hc, if_neg hd] at h
      exact List.cons.inj h

/-- An escaped form starts with a character that is no wildcard for any text. -/
theorem escapeChar_eq_cons (style : LikeStyle) (c : Char) :
    ∃ first rest, style.escapeChar c = first :: rest ∧ first ≠ '%' := by
  rw [escapeChar_eq]
  by_cases hc : style.IsEscaped c
  · refine ⟨style.mark, c :: style.closing, if_pos hc, ?_⟩
    cases style <;> decide
  · exact ⟨c, [], if_neg hc, fun h => hc (.inl h)⟩

/-- The escaped form of a text determines the text. -/
theorem escapeChars_injective (style : LikeStyle) : Function.Injective style.escapeChars := by
  intro s
  induction s with
  | nil =>
    intro t h
    cases t with
    | nil => rfl
    | cons d rest =>
      obtain ⟨first, _, hd, -⟩ := style.escapeChar_eq_cons d
      rw [escapeChars, escapeChars, List.flatMap_nil, List.flatMap_cons, hd] at h
      cases h
  | cons c s ih =>
    intro t h
    cases t with
    | nil =>
      obtain ⟨first, _, hc, -⟩ := style.escapeChar_eq_cons c
      rw [escapeChars, escapeChars, List.flatMap_nil, List.flatMap_cons, hc] at h
      cases h
    | cons d t =>
      have hchars : style.escapeChar c ++ style.escapeChars s =
          style.escapeChar d ++ style.escapeChars t := h
      obtain ⟨rfl, hrest⟩ := escapeChar_append_injective hchars
      rw [ih hrest]

/-- The escaped form of a text determines the text. -/
theorem escape_injective (style : LikeStyle) : Function.Injective style.escape := by
  intro s t h
  exact String.toList_inj.mp (style.escapeChars_injective (String.ofList_inj.mp h))

/-- An escaped text with a wildcard behind it starts with a wildcard only when it is empty. -/
theorem escape_eq_empty {s t : String} (h : style.escape s ++ "%" = "%" ++ style.escape t) :
    s = "" ∧ t = "" := by
  have hchars : style.escapeChars s.toList ++ ['%'] = '%' :: style.escapeChars t.toList := by
    simpa [escape] using congrArg String.toList h
  have hs : s.toList = [] := by
    cases hlist : s.toList with
    | nil => rfl
    | cons c rest =>
      obtain ⟨first, _, hc, hfirst⟩ := style.escapeChar_eq_cons c
      rw [hlist, escapeChars, List.flatMap_cons, hc] at hchars
      exact absurd (List.cons.inj hchars).1 hfirst
  have ht : style.escapeChars t.toList = style.escapeChars [] := by
    rw [hs] at hchars
    exact (List.cons.inj hchars).2.symm
  exact ⟨String.toList_eq_nil_iff.mp hs,
    String.toList_eq_nil_iff.mp (style.escapeChars_injective ht)⟩

end SqlRender.LikeStyle
