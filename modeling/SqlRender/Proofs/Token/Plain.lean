import SqlRender.Paging
import SqlRender.Proofs.Token.Scanner

/-!
# Plain text as tokens

The fixed words of a statement, its numbers and its placeholders hold no quote and no comment
mark, so that every engine can read them by themselves. Words, symbols and numbers give tokens
that are neither placeholders nor comments, and a placeholder gives the one token that it is.
-/

namespace SqlRender

/-- A token that is neither a placeholder nor a comment. -/
def Token.isPlain : Token → Bool
  | placeholder _ | comment => false
  | _ => true

/-- The characters of fixed words, symbols and unsigned numbers. -/
def isPlainChar (c : Char) : Bool := isWordChar c || isBreak c || ['*', '=', '<', '>'].contains c

/-- Whether the scanner stands between two tokens or inside a word. -/
def Scan.isOpen : Scan → Bool
  | ready | word _ => true
  | _ => false

/-- A text that can be read by itself and has no placeholder and no comment. -/
structure Profile.ReadsPlainly (p : Profile) (s : List Char) : Prop where
  settles : p.Settles s
  plain : ∀ t ∈ p.tokens s, t.isPlain

instance (p : Profile) (s : List Char) : Decidable (p.ReadsPlainly s) :=
  decidable_of_iff (p.Settles s ∧ ∀ t ∈ p.tokens s, t.isPlain)
    ⟨fun h => ⟨h.1, h.2⟩, fun h => ⟨h.settles, h.plain⟩⟩

namespace Profile

open Scan

variable {p : Profile}

/-- A plain character that belongs to no word is one of ten. -/
theorem eq_of_isPlainChar {c : Char} (h : isPlainChar c) (hword : isWordChar c = false) :
    c ∈ [' ', '(', ')', ',', ';', '.', '*', '=', '<', '>'] := by
  simp only [isPlainChar, hword, isBreak, List.contains_iff_mem, Bool.false_or,
    Bool.or_eq_true] at h
  simpa only [List.mem_cons, List.not_mem_nil, or_false, or_assoc] using h

/-- A plain character starts no quoted name and no placeholder of any engine. -/
theorem ne_of_isPlainChar {c : Char} (h : isPlainChar c) (hword : isWordChar c = false) :
    c ≠ p.quote.opening ∧ c ≠ p.placeholder.lead := by
  have hmem := eq_of_isPlainChar h hword
  refine ⟨?_, ?_⟩
  · rintro rfl
    revert hmem
    cases p.quote <;> decide
  · rintro rfl
    revert hmem
    cases p.placeholder <;> decide

/-- Between two tokens a plain character starts a word or is read at once. -/
theorem start_plain {c : Char} (h : isPlainChar c) :
    (start p c).1.isOpen ∧ ∀ t ∈ (start p c).2, t.isPlain := by
  by_cases hword : isWordChar c
  · simp [start, hword, isOpen]
  · have hmem := eq_of_isPlainChar h (by simpa using hword)
    obtain ⟨hopening, hlead⟩ := ne_of_isPlainChar (p := p) h (by simpa using hword)
    simp only [List.mem_cons, List.not_mem_nil, or_false] at hmem
    simp only [start, hopening, hlead]
    rcases hmem with rfl | rfl | rfl | rfl | rfl | rfl | rfl | rfl | rfl | rfl <;> decide

/-- Plain characters keep the scanner between two tokens or inside a word. -/
theorem run_plain {state : Scan} (hstate : state.isOpen) {s : List Char} (hs : s.all isPlainChar) :
    (run p state s).1.isOpen ∧ ∀ t ∈ (run p state s).2, t.isPlain := by
  induction s generalizing state with
  | nil => exact ⟨hstate, by simp [run]⟩
  | cons c rest ih =>
    simp only [List.all_cons, Bool.and_eq_true] at hs
    obtain ⟨hopen, hplain⟩ := start_plain (p := p) hs.1
    have hstep : (step p state c).1.isOpen ∧ ∀ t ∈ (step p state c).2, t.isPlain := by
      cases state with
      | ready => exact ⟨hopen, hplain⟩
      | word read =>
        by_cases hc : isWordChar c
        · simp [step, hc, isOpen]
        · have hafter : step p (.word read) c = startAfter p (.word read) c := by simp [step, hc]
          rw [hafter]
          refine ⟨hopen, fun t ht => ?_⟩
          rcases List.mem_cons.mp ht with rfl | ht
          · rfl
          · exact hplain t ht
      | _ => cases hstate
    obtain ⟨hrest, hmore⟩ := ih hstep.1 hs.2
    refine ⟨hrest, fun t ht => ?_⟩
    simp only [run, List.mem_append] at ht
    exact ht.elim (hstep.2 t) (hmore t)

/-- A scanner that is between tokens or inside a word is settled and has only a word pending. -/
theorem isSettled_of_isOpen {state : Scan} (h : state.isOpen) :
    state.isSettled ∧ ∀ t ∈ state.pending, t.isPlain := by
  cases state with
  | ready => exact ⟨rfl, by simp [pending, finish]⟩
  | word s => exact ⟨rfl, by simp [pending, finish, Token.isPlain]⟩
  | _ => cases h

/-- A text of plain characters reads plainly. -/
theorem readsPlainly_of_all {s : List Char} (hs : s.all isPlainChar) : p.ReadsPlainly s := by
  have hready : Scan.ready.isOpen = true := rfl
  obtain ⟨hopen, hplain⟩ := run_plain (p := p) hready hs
  obtain ⟨hsettled, hpending⟩ := isSettled_of_isOpen hopen
  refine ⟨hsettled, fun t ht => ?_⟩
  exact (List.mem_append.mp ht).elim (hplain t) (hpending t)

/-- Between two tokens every engine reads a plain character in the same way. -/
theorem start_eq_of_isPlainChar (p q : Profile) {c : Char} (h : isPlainChar c) :
    start p c = start q c := by
  by_cases hword : isWordChar c
  · simp [start, hword]
  · obtain ⟨hopening, hlead⟩ := ne_of_isPlainChar (p := p) h (by simpa using hword)
    obtain ⟨hopening', hlead'⟩ := ne_of_isPlainChar (p := q) h (by simpa using hword)
    simp only [start, hopening, hlead, hopening', hlead']

/-- Every engine reads plain characters in the same way. -/
theorem run_eq_of_all (p q : Profile) {state : Scan} (hstate : state.isOpen) {s : List Char}
    (hs : s.all isPlainChar) : run p state s = run q state s := by
  induction s generalizing state with
  | nil => rfl
  | cons c rest ih =>
    have hopen := (run_plain (p := p) hstate (s := [c]) (by simp_all)).1
    simp only [List.all_cons, Bool.and_eq_true] at hs
    have hstart := start_eq_of_isPlainChar p q hs.1
    have hstep : step p state c = step q state c := by
      cases state with
      | ready => exact hstart
      | word read => simp only [step, startAfter, hstart]
      | _ => cases hstate
    simp only [run] at hopen ⊢
    rw [ih hopen hs.2, hstep]

/-- Every engine reads a text of plain characters as the same tokens. -/
theorem tokens_eq_of_all (p q : Profile) {s : List Char} (hs : s.all isPlainChar) :
    p.tokens s = q.tokens s := by
  have hready : Scan.ready.isOpen = true := rfl
  rw [tokens, tokens, run_eq_of_all p q hready hs]

/-- Two texts with a break at the seam that read plainly do so together. -/
theorem ReadsPlainly.append {a b : List Char} (ha : p.ReadsPlainly a) (hb : p.ReadsPlainly b)
    (hbreak : endsWithBreak a ∨ startsWithBreak b) : p.ReadsPlainly (a ++ b) := by
  have h := ha.settles.reads.append hb.settles.reads hbreak
  refine ⟨h.settles, fun t ht => ?_⟩
  rw [h.tokens_eq] at ht
  exact (List.mem_append.mp ht).elim (ha.plain t) (hb.plain t)

/-- A sign in front of plain characters is a symbol of its own. -/
theorem readsPlainly_negative {s : List Char} (hs : s.all isPlainChar) :
    p.ReadsPlainly ('-' :: s) := by
  have hdash : step p .ready '-' = (.dash, []) := by
    have hopening : '-' ≠ p.quote.opening := by cases p.quote <;> decide
    have hlead : '-' ≠ p.placeholder.lead := by cases p.placeholder <;> decide
    simp only [step, start, hopening, hlead]
    decide
  cases s with
  | nil =>
    have hrun : run p .ready ['-'] = (.dash, []) := by simp only [run, hdash, List.append_nil]
    have h := reads_of_run hrun rfl
    exact ⟨h.settles, by rw [h.tokens_eq]; simp [pending, finish, Token.isPlain]⟩
  | cons c rest =>
    simp only [List.all_cons, Bool.and_eq_true] at hs
    have hc : c ≠ '-' := by
      rintro rfl
      exact absurd hs.1 (by decide)
    obtain ⟨hopen, hplain⟩ := start_plain (p := p) hs.1
    obtain ⟨hopen', hplain'⟩ := run_plain (p := p) hopen hs.2
    obtain ⟨hsettled, hpending⟩ := isSettled_of_isOpen hopen'
    have hstep : step p .dash c = startAfter p (.symbol '-') c := by simp [step, hc]
    have hrun : run p .ready ('-' :: c :: rest) = ((run p (start p c).1 rest).1,
        .symbol '-' :: ((start p c).2 ++ (run p (start p c).1 rest).2)) := by
      simp only [run, hdash, hstep, startAfter, List.nil_append, List.cons_append]
    have h := reads_of_run hrun hsettled
    refine ⟨h.settles, fun t ht => ?_⟩
    rw [h.tokens_eq] at ht
    simp only [List.cons_append, List.append_assoc, List.mem_cons, List.mem_append] at ht
    rcases ht with rfl | ht | ht | ht
    · rfl
    · exact hplain t ht
    · exact hplain' t ht
    · exact hpending t ht

/-- The digits of a number are word characters. -/
theorem isWordChar_of_mem_toDigits {n : Nat} {c : Char} (h : c ∈ Nat.toDigits 10 n) :
    isWordChar c := by
  have hdigit := Nat.isDigit_of_mem_toDigits (by decide) (by decide) h
  simp [isWordChar, Char.isAlphanum, hdigit]

/-- The digits of a number are plain characters. -/
theorem all_isPlainChar_toDigits (n : Nat) : (Nat.toDigits 10 n).all isPlainChar := by
  rw [List.all_eq_true]
  intro c hc
  simp [isPlainChar, isWordChar_of_mem_toDigits hc]

/-- A natural number reads plainly. -/
theorem readsPlainly_nat (n : Nat) : p.ReadsPlainly (toString n).toList := by
  rw [Nat.toString_eq_repr, Nat.toList_repr]
  exact readsPlainly_of_all (all_isPlainChar_toDigits n)

end Profile

/-- Word characters go on with a word. -/
theorem Profile.run_word {p : Profile} (read s : List Char) (hs : ∀ c ∈ s, isWordChar c) :
    Scan.run p (.word read) s = (.word (read ++ s), []) := by
  induction s generalizing read with
  | nil => simp [Scan.run]
  | cons c rest ih =>
    have hc := hs c List.mem_cons_self
    have hrest := ih (read ++ [c]) fun d hd => hs d (List.mem_cons_of_mem _ hd)
    simp [Scan.run, Scan.step, hc, hrest]

/-- A text of word characters is one word. -/
theorem Profile.reads_word {p : Profile} {s : List Char} (hne : s ≠ [])
    (hs : ∀ c ∈ s, isWordChar c) : p.Reads s [.word s] := by
  cases s with
  | nil => exact absurd rfl hne
  | cons c rest =>
    have hc := hs c List.mem_cons_self
    have hstart : Scan.step p .ready c = (.word [c], []) := by simp [Scan.step, Scan.start, hc]
    have hrest := run_word (p := p) [c] rest fun d hd => hs d (List.mem_cons_of_mem _ hd)
    have hrun : Scan.run p .ready (c :: rest) = (.word (c :: rest), []) := by
      simp only [Scan.run, hstart, hrest, List.singleton_append, List.append_nil]
    exact reads_of_run hrun rfl

/-- A natural number is one word, its digits. -/
theorem Profile.reads_nat {p : Profile} (n : Nat) :
    p.Reads (toString n).toList [.word (Nat.toDigits 10 n)] := by
  rw [Nat.toString_eq_repr, Nat.toList_repr]
  exact reads_word Nat.toDigits_ne_nil fun c hc => isWordChar_of_mem_toDigits hc

/-- Digits behind the lead of a placeholder go on with it. -/
theorem Profile.run_placeholder {p : Profile} (read digits : List Char)
    (h : ∀ c ∈ digits, p.placeholder.continues c) :
    Scan.run p (.placeholder read) digits = (.placeholder (read ++ digits), []) := by
  induction digits generalizing read with
  | nil => simp [Scan.run]
  | cons c rest ih =>
    have hc := h c List.mem_cons_self
    have hrest := ih (read ++ [c]) fun d hd => h d (List.mem_cons_of_mem _ hd)
    simp [Scan.run, Scan.step, hc, hrest]

/-- The lead of a placeholder starts one. -/
theorem Profile.start_lead {p : Profile} :
    Scan.start p p.placeholder.lead = (.placeholder [p.placeholder.lead], []) := by
  have hword : isWordChar p.placeholder.lead = false := by cases p.placeholder <;> decide
  have hopening : p.placeholder.lead ≠ p.quote.opening := by
    cases p.placeholder <;> cases p.quote <;> decide
  have hquote : p.placeholder.lead ≠ '\'' := by cases p.placeholder <;> decide
  simp [Scan.start, hword, hopening, hquote]

/-- A placeholder is its lead and characters that go on with it. -/
theorem Dialect.toList_placeholder (d : Dialect) (n : Nat) :
    ∃ rest, (d.placeholder n).toList = d.profile.placeholder.lead :: rest ∧
      ∀ c ∈ rest, d.profile.placeholder.continues c := by
  have hdigits : ∀ c ∈ Nat.toDigits 10 n, c.isDigit := fun c hc =>
    Nat.isDigit_of_mem_toDigits (by decide) (by decide) hc
  cases h : d.profile.placeholder with
  | question => exact ⟨[], by simp [Dialect.placeholder, h, PlaceholderStyle.lead], by simp⟩
  | dollarNumbered | questionNumbered =>
    refine ⟨Nat.toDigits 10 n, ?_, hdigits⟩
    simp [Dialect.placeholder, h, PlaceholderStyle.lead]
  | atNumbered =>
    refine ⟨'p' :: Nat.toDigits 10 n, ?_, ?_⟩
    · simp [Dialect.placeholder, h, PlaceholderStyle.lead]
    · intro c hc
      rcases List.mem_cons.mp hc with rfl | hc
      · rfl
      · simp [PlaceholderStyle.continues, isWordChar, Char.isAlphanum, hdigits c hc]

/-- A placeholder is one token. -/
theorem Dialect.reads_placeholder (d : Dialect) (n : Nat) :
    d.profile.Reads (d.placeholder n).toList [.placeholder (d.placeholder n).toList] := by
  obtain ⟨rest, htext, hrest⟩ := d.toList_placeholder n
  have hrun : Scan.run d.profile .ready (d.placeholder n).toList =
      (.placeholder (d.placeholder n).toList, []) := by
    rw [htext, Scan.run, show Scan.step d.profile .ready _ = _ from Profile.start_lead,
      Profile.run_placeholder _ _ hrest]
    rfl
  exact Profile.reads_of_run hrun rfl

end SqlRender
