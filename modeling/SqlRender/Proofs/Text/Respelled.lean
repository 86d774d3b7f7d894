import SqlRender.Text.Blank

/-!
# Texts that differ in case and blanks

A text is respelled by writing its letters in either case, by blanks around it and by wider runs of
blanks within it. Its words stay the same up to case, since a run of blanks never closes up and
none opens inside a word. The case is that of the twenty-six ASCII letters; the blanks are those of
the Unicode property.
-/

namespace SqlRender.Text

variable {c c' : Char} {s t : List Char}

/-! ### Case -/

/-- A character that has an upper case of its own is one of the twenty-six letters. -/
theorem toUpper_eq_or (c : Char) :
    c.toUpper = c ∨ 97 ≤ c.toNat ∧ c.toNat ≤ 122 ∧ c.toUpper.toNat + 32 = c.toNat := by
  by_cases h : 97 ≤ c.val ∧ c.val ≤ 122
  · right
    have hlow : 97 ≤ c.toNat := UInt32.le_iff_toNat_le.mp h.1
    have hhigh : c.toNat ≤ 122 := UInt32.le_iff_toNat_le.mp h.2
    -- The distance between the two cases is added modulo the word.
    have hval : c.toUpper.val = c.val + 4294967264 := by
      unfold Char.toUpper
      rw [dif_pos ⟨h.1, h.2⟩]
      rfl
    have hupper : c.toUpper.toNat = (c.toNat + 4294967264) % 4294967296 := by
      rw [← Char.toNat_val, hval, UInt32.toNat_add]
      rfl
    omega
  · left
    exact dif_neg h

/-- A letter is no blank in either case. -/
@[simp]
theorem isBlank_toUpper (c : Char) : isBlank c.toUpper = isBlank c := by
  rcases toUpper_eq_or c with h | ⟨hlow, hhigh, hupper⟩
  · rw [h]
  · simp only [isBlank]
    grind

/-- Characters that differ in case alone are both blank or both not. -/
theorem isBlank_eq_of_toUpper_eq (h : c'.toUpper = c.toUpper) : isBlank c' = isBlank c := by
  rw [← isBlank_toUpper c', h, isBlank_toUpper]

/-- A character in front of the capital letters is the upper case of itself alone. -/
theorem toUpper_eq_iff (hc : c.toNat < 65) : c'.toUpper = c ↔ c' = c := by
  rcases toUpper_eq_or c' with h | ⟨hlow, hhigh, hupper⟩
  · rw [h]
  · constructor
    · rintro rfl
      omega
    · rintro rfl
      omega

/-- A mark in front of the capital letters stands in a text and in its capitals alike. -/
theorem mem_map_toUpper {mark : Char} (hmark : mark.toNat < 65) :
    mark ∈ s.map Char.toUpper ↔ mark ∈ s := by
  simp [toUpper_eq_iff hmark]

/-! ### Words -/

/-- Whether a text starts inside a word. -/
def startsWord : List Char → Bool
  | [] => false
  | c :: _ => !isBlank c

/-- Words with a letter in front: at the start of the first of them, or as a word of its own. -/
def addLetter (c : Char) (joined : Bool) : List (List Char) → List (List Char)
  | [] => [[c]]
  | word :: others => if joined then (c :: word) :: others else [c] :: word :: others

/-- A blank at the head of a text belongs to no word. -/
theorem words_cons_blank (hc : isBlank c) : words (c :: s) = words s := by
  rw [words.eq_def]
  exact if_pos hc

/-- A letter at the head of a text belongs to the word that goes on behind it, if one does. -/
theorem words_cons_letter (hc : isBlank c = false) :
    words (c :: s) = addLetter c (startsWord s) (words s) := by
  rw [words.eq_def]
  simp only [hc, Bool.false_eq_true, if_false]
  cases s with
  | nil => rfl
  | cons next rest =>
    cases hnext : isBlank next <;> cases words (next :: rest) <;> simp [startsWord, hnext, addLetter]

/-- A letter is added to words in any case. -/
theorem map_addLetter (f : Char → Char) (joined : Bool) (ws : List (List Char)) :
    (addLetter c joined ws).map (List.map f) = addLetter (f c) joined (ws.map (List.map f)) := by
  cases ws with
  | nil => rfl
  | cons word others => cases joined <;> rfl

/-- A letter is added in front of all letters. -/
theorem flatten_addLetter (joined : Bool) (ws : List (List Char)) :
    (addLetter c joined ws).flatten = c :: ws.flatten := by
  cases ws with
  | nil => rfl
  | cons word others => cases joined <;> rfl

/-- A text without its blanks. -/
def unspaced (s : List Char) : List Char := s.filter (!isBlank ·)

/-- Blanks are left out piece by piece. -/
theorem unspaced_append (s t : List Char) : unspaced (s ++ t) = unspaced s ++ unspaced t :=
  List.filter_append s t

/-- A mark that is no blank is not left out. -/
theorem mem_unspaced {mark : Char} (hmark : isBlank mark = false) : mark ∈ unspaced s ↔ mark ∈ s := by
  simp [unspaced, hmark]

/-- The words of a text have its letters in order. -/
theorem flatten_words (s : List Char) : (words s).flatten = unspaced s := by
  induction s with
  | nil => rfl
  | cons c s ih =>
    cases hc : isBlank c with
    | true =>
      rw [words_cons_blank hc, ih, unspaced, unspaced, List.filter_cons_of_neg (by simp [hc])]
    | false =>
      rw [words_cons_letter hc, flatten_addLetter, ih, unspaced, unspaced,
        List.filter_cons_of_pos (by simp [hc])]

/-- Blanks in front of a text do not change its words. -/
theorem words_blanks_append {blanks : List Char} (h : blanks.all isBlank) (s : List Char) :
    words (blanks ++ s) = words s := by
  induction blanks with
  | nil => rfl
  | cons c blanks ih =>
    rw [List.all_cons, Bool.and_eq_true] at h
    rw [List.cons_append, words_cons_blank h.1, ih h.2]

/-- Blanks continue no word. -/
theorem startsWord_blanks_append {blanks : List Char} (h : blanks.all isBlank) (hne : blanks ≠ [])
    (s : List Char) : startsWord (blanks ++ s) = false := by
  cases blanks with
  | nil => exact absurd rfl hne
  | cons c blanks =>
    rw [List.all_cons, Bool.and_eq_true] at h
    simp [startsWord, h.1]

/-- Blanks behind a text do not change its words. -/
theorem words_append_blanks {blanks : List Char} (h : blanks.all isBlank) (s : List Char) :
    words (s ++ blanks) = words s := by
  induction s with
  | nil => rw [List.nil_append, ← List.append_nil blanks, words_blanks_append h]
  | cons c s ih =>
    have hstart : startsWord (s ++ blanks) = startsWord s := by
      cases s with
      | nil => cases blanks <;> simp_all [startsWord]
      | cons => rfl
    cases hc : isBlank c with
    | true => rw [List.cons_append, words_cons_blank hc, ih, words_cons_blank hc]
    | false => rw [List.cons_append, words_cons_letter hc, ih, hstart, words_cons_letter hc]

/-! ### Respellings -/

/-- The second text is the first with letters in either case and with a run of blanks for each
blank. -/
inductive Widens : List Char → List Char → Prop
  | nil : Widens [] []
  | letter {c c' : Char} {s t : List Char} (hcase : c'.toUpper = c.toUpper) (h : Widens s t) :
    Widens (c :: s) (c' :: t)
  | run {c : Char} {blanks s t : List Char} (hc : isBlank c) (hne : blanks ≠ [])
    (hblanks : blanks.all isBlank) (h : Widens s t) : Widens (c :: s) (blanks ++ t)

/-- The second text is the first with letters in either case, with wider runs of blanks and with
blanks around it. -/
def Respells (s t : List Char) : Prop :=
  ∃ before core after, before.all isBlank ∧ Widens s core ∧ after.all isBlank ∧
    t = before ++ core ++ after

/-- A text in another case is as wide as the text. -/
theorem widens_of_map_toUpper (h : t.map Char.toUpper = s.map Char.toUpper) : Widens s t := by
  induction s generalizing t with
  | nil =>
    rw [List.map_eq_nil_iff.mp h]
    exact .nil
  | cons c s ih =>
    cases t with
    | nil => cases h
    | cons c' t =>
      rw [List.map_cons, List.map_cons, List.cons.injEq] at h
      exact .letter h.1 (ih h.2)

/-- A text is widened piece by piece. -/
theorem Widens.append {s' t' : List Char} (h : Widens s t) (h' : Widens s' t') :
    Widens (s ++ s') (t ++ t') := by
  induction h with
  | nil => exact h'
  | letter hcase h ih => exact .letter hcase ih
  | run hc hne hblanks h ih =>
    rw [List.append_assoc]
    exact .run hc hne hblanks ih

/-- A text respells itself. -/
theorem Respells.refl (s : List Char) : Respells s s :=
  ⟨[], s, [], rfl, widens_of_map_toUpper rfl, rfl, (List.append_nil s).symm⟩

/-- A wider text starts inside a word if the text does. -/
theorem Widens.startsWord_eq (h : Widens s t) : startsWord t = startsWord s := by
  cases h with
  | nil => rfl
  | letter hcase => simp only [startsWord, isBlank_eq_of_toUpper_eq hcase]
  | run hc hne hblanks =>
    rw [startsWord_blanks_append hblanks hne]
    simp [startsWord, hc]

/-- The words of a wider text are those of the text up to case. -/
theorem Widens.words_eq (h : Widens s t) :
    (words t).map (List.map Char.toUpper) = (words s).map (List.map Char.toUpper) := by
  induction h with
  | nil => rfl
  | @letter c c' s t hcase h ih =>
    have hblank := isBlank_eq_of_toUpper_eq hcase
    cases hc : isBlank c with
    | true => rw [words_cons_blank (hblank.trans hc), ih, words_cons_blank hc]
    | false =>
      rw [words_cons_letter (hblank.trans hc), words_cons_letter hc, map_addLetter, map_addLetter,
        h.startsWord_eq, hcase, ih]
  | run hc hne hblanks h ih => rw [words_blanks_append hblanks, ih, words_cons_blank hc]

/-- The words of a respelled text are those of the text up to case. -/
theorem Respells.words_eq (h : Respells s t) :
    (words t).map (List.map Char.toUpper) = (words s).map (List.map Char.toUpper) := by
  obtain ⟨before, core, after, hbefore, hcore, hafter, rfl⟩ := h
  rw [words_append_blanks hafter, words_blanks_append hbefore, hcore.words_eq]

/-- A mark that is no blank differs from every blank. -/
theorem bne_of_isBlank {b mark : Char} (hmark : isBlank mark = false) (hb : isBlank b) :
    (b != mark) = true := by
  rw [bne_iff_ne]
  rintro rfl
  rw [hmark] at hb
  cases hb

/-- A cut at a mark that is no blank leaves the blanks in front. -/
theorem takeWhile_blanks_append {mark : Char} (hmark : isBlank mark = false) {blanks : List Char}
    (h : blanks.all isBlank) (s : List Char) :
    (blanks ++ s).takeWhile (· != mark) = blanks ++ s.takeWhile (· != mark) :=
  List.takeWhile_append_of_pos fun b hb => bne_of_isBlank hmark (List.all_eq_true.mp h b hb)

/-- A wider text is cut at a mark where the text is. -/
theorem Widens.takeWhile {mark : Char} (hcaseless : mark.toNat < 65) (hmark : isBlank mark = false)
    (h : Widens s t) : Widens (s.takeWhile (· != mark)) (t.takeWhile (· != mark)) := by
  induction h with
  | nil => exact .nil
  | @letter c c' s t hcase h ih =>
    have hsame : c' = mark ↔ c = mark := by
      rw [← toUpper_eq_iff hcaseless, hcase, toUpper_eq_iff hcaseless]
    by_cases hc : c = mark
    · simpa [hc, hsame.mpr hc] using Widens.nil
    · simpa [hc, mt hsame.mp hc] using Widens.letter hcase ih
  | @run c blanks s t hc hne hblanks h ih =>
    rw [List.takeWhile_cons, bne_of_isBlank hmark hc, if_pos rfl,
      takeWhile_blanks_append hmark hblanks]
    exact .run hc hne hblanks ih

/-- A respelled text is cut at a mark where the text is. -/
theorem Respells.takeWhile {mark : Char} (hcaseless : mark.toNat < 65)
    (hmark : isBlank mark = false) (h : Respells s t) :
    Respells (s.takeWhile (· != mark)) (t.takeWhile (· != mark)) := by
  obtain ⟨before, core, after, hbefore, hcore, hafter, rfl⟩ := h
  have hcut := hcore.takeWhile hcaseless hmark
  rw [List.append_assoc, takeWhile_blanks_append hmark hbefore, List.takeWhile_append]
  split
  · next hwhole =>
    -- The mark is not in the text: the blanks behind it stay.
    have hself : core.takeWhile (· != mark) = core :=
      (List.takeWhile_prefix _).eq_of_length hwhole
    have hkept : after.takeWhile (· != mark) = after := by
      simpa using takeWhile_blanks_append hmark hafter []
    rw [hself] at hcut
    exact ⟨before, core, after, hbefore, hcut, hafter, by rw [hkept, List.append_assoc]⟩
  · exact ⟨before, _, [], hbefore, hcut, rfl, (List.append_nil _).symm⟩

end SqlRender.Text
