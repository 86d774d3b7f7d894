import SqlRender.Proofs.Literal.Sanitize
import SqlRender.Proofs.Token.Quoted

/-!
# Reading a string literal back

The scanner is inside a string up to a quote that no second quote follows. Behind the literal of a
text, whatever follows it but a quote, the scanner has read exactly the literal, and the string is
the sanitised text. The literal itself has no comment mark and no control character that is not
kept, so that nothing else that looks for those finds any in it.
-/

namespace SqlRender

namespace Scan

/-- Whether the scanner has started a string and not completed it. -/
def isInString : Scan → Bool
  | string _ | stringEscape _ | stringMark _ => true
  | _ => false

/-- Goes on with a string up to the quote that closes it: the string, and what stands behind it. -/
def readString (p : Profile) : Scan → List Char → Option (List Char × List Char)
  | .stringMark s, [] => some (s, [])
  | _, [] => none
  | .stringMark s, c :: rest =>
    if c = '\'' then readString p (.string (s ++ [c])) rest else some (s, c :: rest)
  | state, c :: rest => readString p (step p state c).1 rest

variable {p : Profile}

/-- A character inside a string leaves the scanner there, unless it completes the string. -/
theorem isInString_step {state : Scan} (hstate : state.isInString) {c : Char}
    (hnone : (step p state c).2 = []) : (step p state c).1.isInString := by
  cases state with
  | string s =>
    simp only [step]
    split
    · rfl
    · split <;> rfl
  | stringEscape s => rfl
  | stringMark s =>
    by_cases hc : c = '\''
    · simp [step, hc, isInString]
    · simp [step, hc, startAfter] at hnone
  | _ => cases hstate

/-- A text that completes no token inside a string is a part of the string. -/
theorem readString_append {state state' : Scan} (hstate : state.isInString) {a : List Char}
    (hrun : run p state a = (state', [])) (b : List Char) :
    readString p state (a ++ b) = readString p state' b := by
  induction a generalizing state with
  | nil =>
    obtain rfl : state = state' := congrArg Prod.fst hrun
    rfl
  | cons c rest ih =>
    simp only [run, Prod.mk.injEq, List.append_eq_nil_iff] at hrun
    obtain ⟨hend, hnone, hrest⟩ := hrun
    have hnext := ih (isInString_step hstate hnone) (Prod.ext hend hrest)
    cases state with
    | string s => exact hnext
    | stringEscape s => exact hnext
    | stringMark s =>
      by_cases hc : c = '\''
      · rw [List.cons_append, readString, if_pos hc]
        simpa [step, hc] using hnext
      · simp [step, hc, startAfter] at hnone
    | _ => cases hstate

/-- Behind a quote that no second quote follows, the string is complete. -/
theorem readString_stringMark {s t : List Char} (ht : t.head? ≠ some '\'') :
    readString p (.stringMark s) t = some (s, t) := by
  cases t with
  | nil => rfl
  | cons c rest =>
    have hc : c ≠ '\'' := fun h => ht (congrArg some h)
    rw [readString, if_neg hc]

end Scan

/-- The string literal at the start of a text, as the engine understands it, and what stands
behind it. -/
def Profile.readString? (p : Profile) (text : List Char) : Option (List Char × List Char) :=
  let opening := p.stringLead.toList ++ ['\'']
  if opening.isPrefixOf text then Scan.readString p (.string []) (text.drop opening.length)
  else none

/-- Behind its opening quote a string is read by the scanner. -/
theorem Profile.readString?_opening (p : Profile) (text : List Char) :
    p.readString? (p.stringLead.toList ++ ['\''] ++ text) = Scan.readString p (.string []) text := by
  have hstart : (p.stringLead.toList ++ ['\'']).isPrefixOf
      (p.stringLead.toList ++ ['\''] ++ text) := by
    rw [List.isPrefixOf_iff_prefix]
    exact List.prefix_append _ _
  rw [Profile.readString?, if_pos hstart, List.drop_left]

/-- What stands between the quotes has no comment mark, with the quotes around it. -/
theorem StringStyle.unmarked_body (style : StringStyle) (s : List Char) {front : List Char}
    (hfront : ∀ c ∈ front, isMarkChar c = false) :
    Unmarked (front ++ style.body s ++ ['\'']) := by
  have hquote : ∀ c ∈ ['\''], isMarkChar c = false := by
    intro c hc
    rw [List.mem_singleton.mp hc]
    rfl
  have hnone : ∀ c ∈ ([] : List Char), isMarkChar c = false := nofun
  have hsanitized := unmarked_sanitized s
  have hslashes : Unmarked (doubled '\\' (sanitized s)) := by
    have hplain : isMarkChar '\\' = false := rfl
    have h := (keepsMarks_doubled hplain).unmarked_around hnone hnone hsanitized
    rwa [List.nil_append, List.append_nil] at h
  have hquotes := keepsMarks_doubled (hquote '\'' (List.mem_singleton_self _))
  cases style with
  | backslash => exact hquotes.unmarked_around hfront hquote hslashes
  | standard => exact hquotes.unmarked_around hfront hquote hsanitized
  | dollarTag => exact hquotes.unmarked_around hfront hquote hsanitized

/-- A doubled text has the characters of the text. -/
theorem mem_doubled {mark c : Char} {s : List Char} : c ∈ doubled mark s ↔ c ∈ s := by
  rw [doubled, List.mem_flatMap]
  constructor
  · rintro ⟨d, hd, hc⟩
    split at hc <;> simp_all
  · intro hc
    refine ⟨c, hc, ?_⟩
    split <;> simp

/-- What stands between the quotes has no control character but the three. -/
theorem StringStyle.isKept_of_mem_body {style : StringStyle} {s : List Char} {c : Char}
    (h : c ∈ style.body s) : isKept c := by
  apply isKept_of_mem_sanitized (s := s)
  cases style with
  | backslash => exact mem_doubled.mp (mem_doubled.mp h)
  | standard => exact mem_doubled.mp h
  | dollarTag => exact mem_doubled.mp h

/-- Outside dollar tags, the literal of a text is read up to its end, in front of anything but a
quote, as the text without control characters and comment marks. The literal has neither of them,
and what is read is the text itself exactly when that has neither. -/
theorem Engine.readString?_quoteText {e : Engine} (he : e ≠ .postgres) (tag : String → String)
    (s : String) {t : List Char} (ht : t.head? ≠ some '\'') :
    e.profile.readString? ((e.profile.quoteText tag s).toList ++ t) =
        some (stripComments (stripControls s.toList), t) ∧
      Unmarked (e.profile.quoteText tag s).toList ∧
      (∀ c ∈ (e.profile.quoteText tag s).toList, isKept c) ∧
      (stripComments (stripControls s.toList) = s.toList ↔
        Unmarked s.toList ∧ ∀ c ∈ s.toList, isKept c) := by
  have hstyle := Engine.strings_ne_dollarTag he
  have hopening : ∀ c ∈ e.profile.stringLead.toList ++ ['\''], IsHarmless c := by
    have hall : (e.profile.stringLead.toList ++ ['\'']).all fun c => IsHarmless c := by
      cases e <;> decide
    simpa only [List.all_eq_true, decide_eq_true_eq] using hall
  rw [Profile.toList_quoteText hstyle]
  refine ⟨?_, ?_, ?_, sanitized_eq_self_iff⟩
  · have hstate : (Scan.string []).isInString = true := rfl
    have hread := Scan.readString_append hstate (e.profile.run_body [] s.toList) t
    rw [List.append_assoc, Profile.readString?_opening, hread,
      Scan.readString_stringMark ht]
    rfl
  · rw [← List.append_assoc]
    exact StringStyle.unmarked_body _ _ fun c hc => (hopening c hc).1
  · intro c hc
    rcases List.mem_append.mp hc with hc | hc
    · exact (hopening c hc).2
    · rcases List.mem_append.mp hc with hc | hc
      · exact StringStyle.isKept_of_mem_body hc
      · rw [List.mem_singleton.mp hc]
        rfl

/-- A mark that appears when another one is taken out of it is taken out as well, and a quote behind
a backslash stays inside the string. -/
theorem Engine.readString?_quoteText_nested :
    Engine.mySql ≠ .postgres ∧ " OR 1=1".toList.head? ≠ some '\'' ∧
      stripComments (stripControls "-/*-\\' x".toList) = "\\' x".toList ∧
      Engine.mySql.profile.readString?
          ((Engine.mySql.profile.quoteText id "-/*-\\' x").toList ++ " OR 1=1".toList) =
        some ("\\' x".toList, " OR 1=1".toList) := by
  have hengine : Engine.mySql ≠ .postgres := by decide
  have hfollowing : " OR 1=1".toList.head? ≠ some '\'' := by decide
  have hstrip : stripComments (stripControls "-/*-\\' x".toList) = "\\' x".toList := by cbv
  have hread := (readString?_quoteText hengine id "-/*-\\' x" hfollowing).1
  rw [hstrip] at hread
  exact ⟨hengine, hfollowing, hstrip, hread⟩

end SqlRender
