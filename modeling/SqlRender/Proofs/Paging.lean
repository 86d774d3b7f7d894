import SqlRender.Proofs.Fragment.Legible

/-!
# The words of a window can be read by themselves

What stands behind `SELECT` for a window of rows is a lead: a break stands behind it, so that
the columns can follow. What stands at the end of the statement is a suffix: it starts with a
break, so that it can follow any fragment.
-/

namespace SqlRender

/-- The digits of a number are plain characters. -/
theorem all_isPlainChar_nat (n : Nat) : (toString n).toList.all isPlainChar := by
  rw [Nat.toString_eq_repr, Nat.toList_repr]
  exact Profile.all_isPlainChar_toDigits n

namespace Dialect

open Fragment

variable {d : Dialect}

/-- The end of a statement reads plainly and may follow anything. -/
def IsSuffix (d : Dialect) (s : String) : Prop :=
  d.profile.ReadsPlainly s.toList ∧ startsWithBreak s.toList

/-- No text is a suffix. -/
theorem isSuffix_empty : d.IsSuffix "" := ⟨Profile.readsPlainly_of_all rfl, rfl⟩

/-- Words between breaks and a number behind them are a suffix. -/
theorem isSuffix_number {words : String} (h : IsSeparator words) (n : Nat) :
    d.IsSuffix (words ++ toString n) := by
  obtain ⟨hplain, hstart, -, hne⟩ := h
  have hlist : words.toList ≠ [] := by simpa using hne
  refine ⟨Profile.readsPlainly_of_all ?_, ?_⟩
  · rw [String.toList_append, List.all_append, hplain, all_isPlainChar_nat]
    rfl
  · rw [String.toList_append]
    cases hwords : words.toList with
    | nil => exact absurd hwords hlist
    | cons c rest => simpa [startsWithBreak, hwords] using hstart

/-- Two suffixes in a row are one. -/
theorem IsSuffix.append {s t : String} (hs : d.IsSuffix s) (ht : d.IsSuffix t) :
    d.IsSuffix (s ++ t) := by
  refine ⟨?_, ?_⟩
  · rw [String.toList_append]
    exact hs.1.append ht.1 (.inr ht.2)
  · rw [String.toList_append]
    cases hlist : s.toList with
    | nil => exact ht.2
    | cons c rest => simpa [startsWithBreak, hlist] using hs.2

/-- A suffix of plain characters. -/
theorem isSuffix_of_all {s : String} (hplain : s.toList.all isPlainChar)
    (hstart : startsWithBreak s.toList) : d.IsSuffix s :=
  ⟨Profile.readsPlainly_of_all hplain, hstart⟩

/-- Without a limit an offset stands behind a limit of minus one. -/
theorem isSuffix_offset (d : Dialect) (m : Nat) :
    d.IsSuffix (" LIMIT -1 OFFSET " ++ toString m) := by
  have hwords : d.profile.ReadsPlainly " LIMIT -1 OFFSET ".toList := by
    rw [profile]
    cases d.engine <;> decide
  have hnumber : d.profile.ReadsPlainly (toString m).toList := Profile.readsPlainly_nat m
  refine ⟨?_, ?_⟩
  · rw [String.toList_append]
    exact hwords.append hnumber (.inl (by decide))
  · rw [String.toList_append]
    rfl

/-- A number in parentheses behind the word that takes the first rows is a lead. -/
theorem isLead_top (n : Nat) : IsLead ("TOP (" ++ toString n ++ ")" ++ " ") := by
  refine ⟨?_, ?_, ?_⟩
  · simp only [String.toList_append, List.all_append, all_isPlainChar_nat]
    rfl
  · rw [String.toList_append, endsWithBreak_append (by decide)]
    rfl
  · rw [Ne, ← String.toList_inj, String.toList_append]
    simp

/-- The words of a window are a lead and a suffix. -/
theorem paging_eq_ok {offset limit : Option Nat} {ordered : Bool} {paging : Paging}
    (h : d.paging offset limit ordered = .ok paging) :
    (∀ words, paging.top = some words → IsLead (words ++ " ")) ∧ d.IsSuffix paging.suffix := by
  have hrows : d.IsSuffix " ROWS" := isSuffix_of_all (by decide) (by decide)
  have honly : d.IsSuffix " ROWS ONLY" := isSuffix_of_all (by decide) (by decide)
  have hoffset : ∀ m : Nat, d.IsSuffix (" OFFSET " ++ toString m) := isSuffix_number (by decide)
  have hlimit : ∀ n : Nat, d.IsSuffix (" LIMIT " ++ toString n) := isSuffix_number (by decide)
  have hcomma : ∀ m n : Nat, d.IsSuffix (" LIMIT " ++ toString m ++ "," ++ toString n) := by
    intro m n
    have hrest : d.IsSuffix ("," ++ toString n) := isSuffix_number (by decide) n
    simpa only [String.append_assoc] using (hlimit m).append hrest
  have hfetch : ∀ m n : Nat, d.IsSuffix (" OFFSET " ++ toString m ++ " ROWS" ++ " FETCH NEXT " ++
      toString n ++ " ROWS ONLY") := by
    intro m n
    have hnext : d.IsSuffix (" FETCH NEXT " ++ toString n) := isSuffix_number (by decide) n
    simpa only [String.append_assoc] using ((hoffset m).append hrows).append (hnext.append honly)
  unfold Dialect.paging at h
  cases hstyle : d.profile.paging with
  | offsetFetch =>
    rw [hstyle] at h
    cases offset <;> cases limit <;> cases ordered <;> cases h <;>
      simp only [reduceCtorEq, false_implies, implies_true, true_and, Option.some.injEq,
        Option.getD_none, Option.getD_some]
    · exact isSuffix_empty
    · exact isSuffix_empty
    · exact ⟨fun words hwords => hwords ▸ isLead_top _, isSuffix_empty⟩
    · exact hfetch _ _
    · exact (hoffset _).append hrows
    · exact hfetch _ _
  | limitComma =>
    rw [hstyle] at h
    cases h
    refine ⟨by simp, ?_⟩
    cases offset <;> cases limit
    · exact isSuffix_empty
    · exact hlimit _
    · exact hcomma _ _
    · exact hcomma _ _
  | offsetLimit =>
    rw [hstyle] at h
    cases h
    refine ⟨by simp, ?_⟩
    cases offset <;> cases limit
    · exact isSuffix_empty.append isSuffix_empty
    · exact isSuffix_empty.append (hlimit _)
    · exact (hoffset _).append isSuffix_empty
    · exact (hoffset _).append (hlimit _)
  | limitOffset =>
    rw [hstyle] at h
    cases h
    refine ⟨by simp, ?_⟩
    cases offset <;> cases limit
    · exact isSuffix_empty
    · exact hlimit _
    · exact isSuffix_offset d _
    · simpa only [String.append_assoc] using (hlimit _).append (hoffset _)

end Dialect

end SqlRender
