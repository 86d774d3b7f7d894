import Mathlib.Data.List.Infix
import SqlRender.Literal.Sanitize
import SqlRender.Name

/-!
# What is left of a sanitised text

Taking pairs out of a text stops when there is none, and a text keeps its length only if there was
none to begin with. So the passes over the comment marks end in a text without any of them, which
is the text itself exactly when it had none.

Writing characters in a longer form, with quotes doubled or wildcards escaped, does not bring the
halves of a mark together and does not tear them apart, as long as the halves stay as they are and
nothing else is written with them. The passes then go the same way before and after.
-/

namespace SqlRender

/-- A text without a comment mark. -/
structure Unmarked (s : List Char) : Prop where
  line : ¬['-', '-'] <:+: s
  opening : ¬['/', '*'] <:+: s
  closing : ¬['*', '/'] <:+: s

section Pairs

variable {a b : Char} {s u : List Char}

/-- What is left is a part of the text, in the same order. -/
theorem removePair_sublist (a b : Char) (s : List Char) : (removePair a b s).Sublist s := by
  fun_induction removePair a b s with
  | case1 => exact List.Sublist.slnil
  | case2 c => exact List.Sublist.refl _
  | case3 c d rest hpair ih => exact (ih.cons d).cons c
  | case4 c d rest hpair ih => exact ih.cons_cons c

/-- A text keeps its length only without the pair. -/
theorem not_infix_of_length (h : (removePair a b s).length = s.length) : ¬[a, b] <:+: s := by
  fun_induction removePair a b s with
  | case1 => simp
  | case2 c => simp [List.infix_cons_iff]
  | case3 c d rest hpair ih =>
    have hle := length_removePair_le a b rest
    simp only [List.length_cons] at h
    omega
  | case4 c d rest hpair ih =>
    intro hpart
    rcases List.infix_cons_iff.mp hpart with hstart | hrest
    · apply hpair
      simpa [eq_comm] using hstart
    · exact ih (by simpa using h) hrest

/-- A text without the pair stays as it is, and only such a text does. -/
theorem removePair_eq_self_iff : removePair a b s = s ↔ ¬[a, b] <:+: s := by
  refine ⟨fun h => not_infix_of_length (congrArg List.length h), fun h => ?_⟩
  fun_induction removePair a b s with
  | case1 => rfl
  | case2 c => rfl
  | case3 c d rest hpair ih =>
    obtain ⟨rfl, rfl⟩ := hpair
    exact absurd (List.prefix_append [c, d] rest).isInfix h
  | case4 c d rest hpair ih =>
    rw [ih fun hrest => h (List.infix_cons_iff.mpr (.inr hrest))]

/-- Two texts that make no pair at the seam lose their pairs one after the other. -/
theorem removePair_append (h : s.getLast? ≠ some a ∨ u.head? ≠ some b) :
    removePair a b (s ++ u) = removePair a b s ++ removePair a b u := by
  fun_induction removePair a b s with
  | case1 => rfl
  | case2 c =>
    cases u with
    | nil => rfl
    | cons d rest =>
      have hpair : ¬(c = a ∧ d = b) := by
        rintro ⟨rfl, rfl⟩
        simp at h
      rw [List.singleton_append, removePair, if_neg hpair]
      rfl
  | case3 c d rest hpair ih =>
    rw [List.cons_append, List.cons_append, removePair, if_pos hpair]
    apply ih
    cases rest with
    | nil => exact .inl nofun
    | cons e rest => simpa using h
  | case4 c d rest hpair ih =>
    rw [List.cons_append, List.cons_append, removePair, if_neg hpair]
    exact congrArg (c :: ·) (ih (by simpa using h))

end Pairs

variable {s : List Char}

/-- One pass leaves a part of the text, in the same order. -/
theorem stripMarksOnce_sublist (s : List Char) : (stripMarksOnce s).Sublist s :=
  (removePair_sublist ..).trans ((removePair_sublist ..).trans (removePair_sublist ..))

/-- One pass changes nothing exactly when there is no mark. -/
theorem stripMarksOnce_eq_self_iff : stripMarksOnce s = s ↔ Unmarked s := by
  constructor
  · intro h
    -- no step of the pass can shorten the text, so that every step leaves it as it is
    have hlength := congrArg List.length h
    rw [stripMarksOnce] at hlength
    have hclosing := length_removePair_le '*' '/' (removePair '/' '*' (removePair '-' '-' s))
    have hopening := length_removePair_le '/' '*' (removePair '-' '-' s)
    have hline := length_removePair_le '-' '-' s
    have hfirst : removePair '-' '-' s = s :=
      (removePair_sublist ..).eq_of_length (by omega)
    rw [hfirst] at hlength hclosing hopening
    have hsecond : removePair '/' '*' s = s :=
      (removePair_sublist ..).eq_of_length (by omega)
    rw [hsecond] at hlength
    exact ⟨removePair_eq_self_iff.mp hfirst, removePair_eq_self_iff.mp hsecond,
      not_infix_of_length hlength⟩
  · intro h
    rw [stripMarksOnce, removePair_eq_self_iff.mpr h.line, removePair_eq_self_iff.mpr h.opening,
      removePair_eq_self_iff.mpr h.closing]

/-- A pass that does not shorten the text changes nothing. -/
theorem stripMarksOnce_eq_self (h : ¬(stripMarksOnce s).length < s.length) :
    stripMarksOnce s = s :=
  (stripMarksOnce_sublist s).eq_of_length_le (Nat.le_of_not_lt h)

/-- The passes end in a text without a mark. -/
theorem unmarked_stripComments (s : List Char) : Unmarked (stripComments s) := by
  fun_induction stripComments s with
  | case1 s hshorter ih => exact ih
  | case2 s hsame => exact stripMarksOnce_eq_self_iff.mp (stripMarksOnce_eq_self hsame)

/-- What the passes leave is a part of the text, in the same order. -/
theorem stripComments_sublist (s : List Char) : (stripComments s).Sublist s := by
  fun_induction stripComments s with
  | case1 s hshorter ih => exact ih.trans (stripMarksOnce_sublist s)
  | case2 s hsame => exact List.Sublist.refl s

/-- A text without a mark stays as it is, and only such a text does. -/
theorem stripComments_eq_self_iff : stripComments s = s ↔ Unmarked s := by
  constructor
  · intro h
    exact h ▸ unmarked_stripComments s
  · intro h
    have hsame : ¬(stripMarksOnce s).length < s.length := by
      rw [stripMarksOnce_eq_self_iff.mpr h]
      exact Nat.lt_irrefl _
    rw [stripComments, if_neg hsame]

/-- A pass in front of the passes makes no difference. -/
theorem stripComments_stripMarksOnce (s : List Char) :
    stripComments (stripMarksOnce s) = stripComments s := by
  by_cases h : (stripMarksOnce s).length < s.length
  · rw [stripComments.eq_def s, if_pos h]
  · rw [stripMarksOnce_eq_self h]

/-- What one pass goes the same way before and after, all of them do. -/
theorem stripComments_comm {write : List Char → List Char}
    (h : ∀ s, stripMarksOnce (write s) = write (stripMarksOnce s)) (s : List Char) :
    stripComments (write s) = write (stripComments s) := by
  fun_induction stripComments s with
  | case1 s hshorter ih => rw [← ih, ← h, stripComments_stripMarksOnce]
  | case2 s hsame =>
    have hwrite := h s
    rw [stripMarksOnce_eq_self hsame] at hwrite
    exact stripComments_eq_self_iff.mpr (stripMarksOnce_eq_self_iff.mp hwrite)

/-- A sanitised text has no mark. -/
theorem unmarked_sanitized (s : List Char) : Unmarked (sanitized s) :=
  unmarked_stripComments (stripControls s)

/-- A sanitised text has no control character but the three. -/
theorem isKept_of_mem_sanitized {c : Char} (h : c ∈ sanitized s) : isKept c :=
  List.of_mem_filter ((stripComments_sublist (stripControls s)).mem h)

/-- A text that is fit for a literal stays as it is, and only such a text does. -/
theorem sanitized_eq_self_iff : sanitized s = s ↔ Unmarked s ∧ ∀ c ∈ s, isKept c := by
  constructor
  · intro h
    exact ⟨h ▸ unmarked_sanitized s, fun c hc => isKept_of_mem_sanitized (h.symm ▸ hc)⟩
  · rintro ⟨hmarks, hkept⟩
    rw [sanitized, stripControls, List.filter_eq_self.mpr hkept, stripComments_eq_self_iff]
    exact hmarks

/-- The characters that comment marks are made of. -/
def isMarkChar (c : Char) : Bool := c == '-' || c == '/' || c == '*'

/-- A character that is part of no comment mark and stays in a literal. -/
abbrev IsHarmless (c : Char) : Prop := isMarkChar c = false ∧ isKept c = true

/-- A way of writing characters that leaves those of comment marks as they are and writes no other
character with one of them. -/
structure KeepsMarks (write : Char → List Char) : Prop where
  same : ∀ c, isMarkChar c → write c = [c]
  ne_nil : ∀ c, write c ≠ []
  other : ∀ c, isMarkChar c = false → ∀ e ∈ write c, isMarkChar e = false

namespace KeepsMarks

variable {write : Char → List Char} {front back : List Char}

/-- A half mark is written for itself only. -/
theorem eq_of_mem (hwrite : KeepsMarks write) {c e : Char} (he : e ∈ write c)
    (hmark : isMarkChar e) : c = e := by
  cases hc : isMarkChar c with
  | true =>
    rw [hwrite.same c hc] at he
    exact (List.mem_singleton.mp he).symm
  | false =>
    rw [hwrite.other c hc e he] at hmark
    cases hmark

/-- What is written starts with half a mark only where the text does. -/
theorem head?_flatMap (hwrite : KeepsMarks write) {b : Char} (hb : isMarkChar b)
    (h : (s.flatMap write).head? = some b) : s.head? = some b := by
  cases s with
  | nil => cases h
  | cons c rest =>
    rw [List.flatMap_cons, List.head?_append_of_ne_nil _ (hwrite.ne_nil c)] at h
    rw [List.head?_cons, hwrite.eq_of_mem (List.mem_of_head? h) hb]

/-- A pair of half marks is taken out before or after the text is written. -/
theorem removePair_flatMap (hwrite : KeepsMarks write) {a b : Char} (ha : isMarkChar a)
    (hb : isMarkChar b) (s : List Char) :
    removePair a b (s.flatMap write) = (removePair a b s).flatMap write := by
  -- a half mark stands alone where it is written, so nothing is taken out of one character
  have hblock : ∀ c, removePair a b (write c) = write c := by
    intro c
    rw [removePair_eq_self_iff]
    intro hpart
    obtain rfl := hwrite.eq_of_mem (hpart.mem List.mem_cons_self) ha
    rw [hwrite.same c ha] at hpart
    have hlength := hpart.length_le
    simp at hlength
  fun_induction removePair a b s with
  | case1 => rfl
  | case2 c => rw [List.flatMap_singleton, hblock]
  | case3 c d rest hpair ih =>
    obtain ⟨rfl, rfl⟩ := hpair
    rw [List.flatMap_cons, List.flatMap_cons, hwrite.same c ha, hwrite.same d hb, ← ih]
    simp [removePair]
  | case4 c d rest hpair ih =>
    have hseam : (write c).getLast? ≠ some a ∨ ((d :: rest).flatMap write).head? ≠ some b := by
      by_cases hlast : (write c).getLast? = some a
      · right
        intro hhead
        have hc : c = a := hwrite.eq_of_mem (List.mem_of_getLast? hlast) ha
        have hd : d = b := Option.some.inj (hwrite.head?_flatMap hb hhead)
        exact hpair ⟨hc, hd⟩
      · exact .inl hlast
    rw [List.flatMap_cons, removePair_append hseam, hblock, ih, ← List.flatMap_cons]

/-- The same holds with further characters around the text that are no half marks. -/
theorem removePair_around (hwrite : KeepsMarks write) (hfront : ∀ c ∈ front, isMarkChar c = false)
    (hback : ∀ c ∈ back, isMarkChar c = false) {a b : Char} (ha : isMarkChar a)
    (hb : isMarkChar b) (s : List Char) :
    removePair a b (front ++ s.flatMap write ++ back) =
      front ++ (removePair a b s).flatMap write ++ back := by
  have hplain : ∀ u : List Char, (∀ c ∈ u, isMarkChar c = false) →
      ∀ m, isMarkChar m → m ∉ u := by
    intro u hu m hm hmem
    rw [hu m hmem] at hm
    cases hm
  have hself : ∀ u : List Char, (∀ c ∈ u, isMarkChar c = false) → removePair a b u = u := by
    intro u hu
    rw [removePair_eq_self_iff]
    exact fun hpart => hplain u hu a ha (hpart.mem List.mem_cons_self)
  have hlast : front.getLast? ≠ some a := fun h =>
    hplain front hfront a ha (List.mem_of_getLast? h)
  have hhead : back.head? ≠ some b := fun h => hplain back hback b hb (List.mem_of_head? h)
  rw [removePair_append (.inr hhead), removePair_append (.inl hlast), hself front hfront,
    hself back hback, hwrite.removePair_flatMap ha hb]

/-- One pass over the marks goes the same way before and after the text is written. -/
theorem stripMarksOnce_around (hwrite : KeepsMarks write)
    (hfront : ∀ c ∈ front, isMarkChar c = false) (hback : ∀ c ∈ back, isMarkChar c = false)
    (s : List Char) :
    stripMarksOnce (front ++ s.flatMap write ++ back) =
      front ++ (stripMarksOnce s).flatMap write ++ back := by
  rw [stripMarksOnce, hwrite.removePair_around hfront hback rfl rfl,
    hwrite.removePair_around hfront hback rfl rfl, hwrite.removePair_around hfront hback rfl rfl]
  rfl

/-- Marks are removed before or after the text is written. -/
theorem stripComments_around (hwrite : KeepsMarks write)
    (hfront : ∀ c ∈ front, isMarkChar c = false) (hback : ∀ c ∈ back, isMarkChar c = false)
    (s : List Char) :
    stripComments (front ++ s.flatMap write ++ back) =
      front ++ (stripComments s).flatMap write ++ back := by
  have honce : ∀ s, stripMarksOnce (front ++ s.flatMap write ++ back) =
      front ++ (stripMarksOnce s).flatMap write ++ back :=
    hwrite.stripMarksOnce_around hfront hback
  exact stripComments_comm honce s

/-- A text without a mark has none when it is written. -/
theorem unmarked_around (hwrite : KeepsMarks write)
    (hfront : ∀ c ∈ front, isMarkChar c = false) (hback : ∀ c ∈ back, isMarkChar c = false)
    (hs : Unmarked s) : Unmarked (front ++ s.flatMap write ++ back) := by
  rw [← stripMarksOnce_eq_self_iff, hwrite.stripMarksOnce_around hfront hback,
    stripMarksOnce_eq_self_iff.mpr hs]

end KeepsMarks

/-- Doubling a character that is no half mark keeps the marks. -/
theorem keepsMarks_doubled {mark : Char} (hmark : isMarkChar mark = false) :
    KeepsMarks fun c => if c = mark then [c, c] else [c] where
  same c hc := by
    have hne : c ≠ mark := by
      rintro rfl
      rw [hmark] at hc
      cases hc
    rw [if_neg hne]
  ne_nil c := by split <;> simp
  other c hc e he := by
    split at he <;> simp_all

end SqlRender
