import SqlRender.Name

/-!
# Reading SQL text as tokens

An engine reads the text of a statement character by character. Its scanner knows words,
symbols, quoted names, string literals, placeholders and comments, and skips blanks between
them. A closing mark that is doubled inside a quoted name or a string stands for itself, and
where the engine has backslash escapes a backslash takes the next character with it. A text
that ends inside quotes or inside a block comment has no tokens.

The main statement is `Profile.Reads.append`: two texts that can be read by themselves are read one
after the other when a character that belongs to no token stands at the seam.
-/

namespace SqlRender

/-- A token of SQL text; names and strings are kept as the engine understands them. -/
inductive Token
  | word (s : List Char)
  | symbol (c : Char)
  | name (s : List Char)
  | string (s : List Char)
  | placeholder (s : List Char)
  | comment
deriving DecidableEq

/-- Where a scanner stands: between two tokens, or inside one whose text so far is kept. -/
inductive Scan
  | ready
  | word (s : List Char)
  | placeholder (s : List Char)
  | name (s : List Char)
  /-- Behind a closing mark, which a second one turns into a part of the name. -/
  | nameMark (s : List Char)
  | string (s : List Char)
  /-- Behind a backslash that escapes the next character. -/
  | stringEscape (s : List Char)
  /-- Behind a quote, which a second one turns into a part of the string. -/
  | stringMark (s : List Char)
  | dash
  | slash
  | lineComment
  | blockComment
  /-- Behind an asterisk inside a block comment. -/
  | blockStar
deriving DecidableEq

/-- The characters of words and numbers. -/
def isWordChar (c : Char) : Bool := c.isAlphanum || c == '_'

/-- The character that starts a placeholder. -/
def PlaceholderStyle.lead : PlaceholderStyle → Char
  | atNumbered => '@'
  | question => '?'
  | dollarNumbered => '$'
  | questionNumbered => '?'

/-- Whether a character goes on with a placeholder. -/
def PlaceholderStyle.continues : PlaceholderStyle → Char → Bool
  | atNumbered, c => isWordChar c
  | question, _ => false
  | dollarNumbered, c => c.isDigit
  | questionNumbered, c => c.isDigit

/-- What a backslash and a character stand for inside a string. -/
def unescaped : Char → List Char
  | '0' => ['\x00']
  | 'b' => ['\x08']
  | 'n' => ['\n']
  | 'r' => ['\r']
  | 't' => ['\t']
  | 'Z' => ['\x1a']
  | '%' => ['\\', '%']
  | '_' => ['\\', '_']
  | c => [c]

namespace Scan

/-- Reads a character between two tokens: where the scanner stands then, and what it has read. -/
def start (p : Profile) (c : Char) : Scan × List Token :=
  if isWordChar c then (.word [c], [])
  else if c = p.quote.opening then (.name [], [])
  else if c = '\'' then (.string [], [])
  else if c = p.placeholder.lead then (.placeholder [c], [])
  else if c = '-' then (.dash, [])
  else if c = '/' then (.slash, [])
  else if c.isWhitespace then (.ready, [])
  else (.ready, [.symbol c])

/-- Reads a character behind a token that is complete. -/
def startAfter (p : Profile) (token : Token) (c : Char) : Scan × List Token :=
  ((start p c).1, token :: (start p c).2)

/-- Reads one character. -/
def step (p : Profile) : Scan → Char → Scan × List Token
  | .ready, c => start p c
  | .word s, c => if isWordChar c then (.word (s ++ [c]), []) else startAfter p (.word s) c
  | .placeholder s, c =>
    if p.placeholder.continues c then (.placeholder (s ++ [c]), [])
    else startAfter p (.placeholder s) c
  | .name s, c => if c = p.quote.closing then (.nameMark s, []) else (.name (s ++ [c]), [])
  | .nameMark s, c =>
    if c = p.quote.closing then (.name (s ++ [c]), []) else startAfter p (.name s) c
  | .string s, c =>
    if c = '\'' then (.stringMark s, [])
    else if p.strings = .backslash ∧ c = '\\' then (.stringEscape s, [])
    else (.string (s ++ [c]), [])
  | .stringEscape s, c => (.string (s ++ unescaped c), [])
  | .stringMark s, c =>
    if c = '\'' then (.string (s ++ [c]), []) else startAfter p (.string s) c
  | .dash, c => if c = '-' then (.lineComment, []) else startAfter p (.symbol '-') c
  | .slash, c => if c = '*' then (.blockComment, []) else startAfter p (.symbol '/') c
  | .lineComment, c => if c = '\n' then (.ready, [.comment]) else (.lineComment, [])
  | .blockComment, c => if c = '*' then (.blockStar, []) else (.blockComment, [])
  | .blockStar, c =>
    if c = '/' then (.ready, [.comment])
    else if c = '*' then (.blockStar, [])
    else (.blockComment, [])

/-- Reads a text: where the scanner stands then, and the tokens that are complete. -/
def run (p : Profile) : Scan → List Char → Scan × List Token
  | s, [] => (s, [])
  | s, c :: rest => ((run p (step p s c).1 rest).1, (step p s c).2 ++ (run p (step p s c).1 rest).2)

/-- The tokens that the end of the text completes; none inside quotes or a block comment. -/
def finish : Scan → Option (List Token)
  | ready => some []
  | word s => some [.word s]
  | placeholder s => some [.placeholder s]
  | nameMark s => some [.name s]
  | stringMark s => some [.string s]
  | dash => some [.symbol '-']
  | slash => some [.symbol '/']
  | lineComment => some [.comment]
  | name _ | string _ | stringEscape _ | blockComment | blockStar => none

/-- Whether a character of no token completes what the scanner is reading. -/
def isSettled : Scan → Bool
  | ready | word _ | placeholder _ | nameMark _ | stringMark _ | dash | slash => true
  | _ => false

/-- The tokens that the scanner is about to complete. -/
def pending (s : Scan) : List Token := s.finish.getD []

/-- Reading two texts is reading the second where the first has left off. -/
theorem run_append (p : Profile) (s : Scan) (a b : List Char) :
    run p s (a ++ b) = ((run p (run p s a).1 b).1, (run p s a).2 ++ (run p (run p s a).1 b).2) := by
  induction a generalizing s with
  | nil => rfl
  | cons c rest ih => simp only [List.cons_append, run, ih, List.append_assoc]

/-- A settled scanner may stand at the end of a text. -/
theorem finish_of_isSettled {s : Scan} (h : s.isSettled) : s.finish = some s.pending := by
  cases s <;> first | rfl | cases h

end Scan

/-- The tokens of a text, if it does not end inside quotes or a block comment. -/
def Profile.tokens? (p : Profile) (sql : List Char) : Option (List Token) :=
  (Scan.run p .ready sql).1.finish.map ((Scan.run p .ready sql).2 ++ ·)

/-- The tokens of a text that can be read by itself. -/
def Profile.tokens (p : Profile) (sql : List Char) : List Token :=
  (Scan.run p .ready sql).2 ++ (Scan.run p .ready sql).1.pending

/-- A text can be read by itself when it ends neither inside quotes nor inside a comment. -/
def Profile.Settles (p : Profile) (sql : List Char) : Prop :=
  (Scan.run p .ready sql).1.isSettled = true

instance (p : Profile) (sql : List Char) : Decidable (p.Settles sql) :=
  inferInstanceAs (Decidable (_ = true))

/-- A character that stands in no word, number, name, string or placeholder, and starts none. -/
def isBreak (c : Char) : Bool := [' ', '(', ')', ',', ';', '.'].contains c

/-- Whether a text is empty or starts with a character of no other token. -/
def startsWithBreak (s : List Char) : Bool := s.head?.all isBreak

/-- Whether a text is empty or ends with a character of no other token. -/
def endsWithBreak (s : List Char) : Bool := s.getLast?.all isBreak

namespace Scan

variable {p : Profile} {c : Char}

/-- A break is one of six characters. -/
theorem eq_of_isBreak (h : isBreak c) :
    c = ' ' ∨ c = '(' ∨ c = ')' ∨ c = ',' ∨ c = ';' ∨ c = '.' := by
  simpa [isBreak] using h

/-- A break has no part in a word, a placeholder or a quoted name of any engine. -/
theorem isBreak_other (h : isBreak c) :
    isWordChar c = false ∧ p.placeholder.continues c = false ∧ c ≠ p.placeholder.lead ∧
      c ≠ p.quote.opening ∧ c ≠ p.quote.closing := by
  cases p.placeholder <;> cases p.quote <;>
    rcases eq_of_isBreak h with rfl | rfl | rfl | rfl | rfl | rfl <;> decide

/-- Between two tokens a break leaves the scanner between two tokens. -/
theorem start_break (h : isBreak c) : (start p c).1 = .ready := by
  obtain ⟨hword, -, hlead, hopening, -⟩ := isBreak_other (p := p) h
  simp only [start, hword, hlead, hopening]
  rcases eq_of_isBreak h with rfl | rfl | rfl | rfl | rfl | rfl <;> rfl

/-- A break completes what a settled scanner is reading. -/
theorem step_break {s : Scan} (hs : s.isSettled) (h : isBreak c) :
    step p s c = ((start p c).1, s.pending ++ (start p c).2) := by
  obtain ⟨hword, hcontinues, -, -, hclosing⟩ := isBreak_other (p := p) h
  have hquote : c ≠ '\'' ∧ c ≠ '-' ∧ c ≠ '*' := by
    rcases eq_of_isBreak h with rfl | rfl | rfl | rfl | rfl | rfl <;> decide
  cases s with
  | ready => rfl
  | word s => simp [step, hword, startAfter, pending, finish]
  | placeholder s => simp [step, hcontinues, startAfter, pending, finish]
  | nameMark s => simp [step, hclosing, startAfter, pending, finish]
  | stringMark s => simp [step, hquote, startAfter, pending, finish]
  | dash => simp [step, hquote, startAfter, pending, finish]
  | slash => simp [step, hquote, startAfter, pending, finish]
  | _ => cases hs

/-- A scanner that a break leaves settled stands between two tokens. -/
theorem step_break_eq_ready {s : Scan} (h : isBreak c) (hsettled : (step p s c).1.isSettled) :
    (step p s c).1 = .ready := by
  by_cases hs : s.isSettled
  · rw [step_break hs h]
    exact start_break h
  · exfalso
    obtain ⟨-, -, -, -, hclosing⟩ := isBreak_other (p := p) h
    revert hsettled
    rcases eq_of_isBreak h with rfl | rfl | rfl | rfl | rfl | rfl <;>
      cases s <;> simp_all [step, isSettled, unescaped]

/-- A text that starts with a break is read behind a settled scanner as it is by itself. -/
theorem run_startsWithBreak {s : Scan} (hs : s.isSettled) {t : List Char}
    (ht : p.Settles t) (hbreak : startsWithBreak t) :
    (run p s t).1.isSettled ∧ (run p s t).2 ++ (run p s t).1.pending = s.pending ++ p.tokens t := by
  cases t with
  | nil => exact ⟨hs, by simp [run, Profile.tokens, pending, finish]⟩
  | cons c rest =>
    have hc : isBreak c := by simpa [startsWithBreak] using hbreak
    have hstep := step_break (p := p) hs hc
    have hready : step p .ready c = start p c := rfl
    have hrest : (run p (start p c).1 rest).1.isSettled := by
      simpa only [Profile.Settles, run, hready] using ht
    simp only [run, hstep, Profile.tokens, hready]
    exact ⟨hrest, by simp only [List.append_assoc]⟩

/-- Behind a break at its end, a text that can be read by itself leaves nothing pending. -/
theorem run_endsWithBreak {s : List Char} (hs : p.Settles s) (hbreak : endsWithBreak s) :
    (run p .ready s).1 = .ready := by
  rcases List.eq_nil_or_concat s with rfl | ⟨front, c, rfl⟩
  · rfl
  · have hc : isBreak c := by simpa [endsWithBreak] using hbreak
    have hrun : (run p .ready (front ++ [c])).1 = (step p (run p .ready front).1 c).1 := by
      simp [run_append, run]
    rw [Profile.Settles, List.concat_eq_append, hrun] at hs
    rw [List.concat_eq_append, hrun]
    exact step_break_eq_ready hc hs

end Scan

namespace Profile

open Scan

variable {p : Profile}

/-- A text that can be read by itself has tokens. -/
theorem tokens?_eq {s : List Char} (h : p.Settles s) : p.tokens? s = some (p.tokens s) := by
  simp [tokens?, tokens, finish_of_isSettled h]

/-- A text is read by itself as the given tokens. -/
structure Reads (p : Profile) (s : List Char) (ts : List Token) : Prop where
  settles : p.Settles s
  tokens_eq : p.tokens s = ts

instance (p : Profile) (s : List Char) (ts : List Token) : Decidable (p.Reads s ts) :=
  decidable_of_iff (p.Settles s ∧ p.tokens s = ts)
    ⟨fun h => ⟨h.1, h.2⟩, fun h => ⟨h.settles, h.tokens_eq⟩⟩

/-- A text that is read by itself has the tokens it is read as. -/
theorem Reads.tokens? {s : List Char} {ts : List Token} (h : p.Reads s ts) :
    p.tokens? s = some ts := by rw [tokens?_eq h.settles, h.tokens_eq]

/-- A text that can be read by itself is read as its tokens. -/
theorem Settles.reads {s : List Char} (h : p.Settles s) : p.Reads s (p.tokens s) := ⟨h, rfl⟩

/-- What a scanner reads from its start to a settled end. -/
theorem reads_of_run {s : List Char} {state : Scan} {ts : List Token}
    (hrun : run p .ready s = (state, ts)) (hstate : state.isSettled) :
    p.Reads s (ts ++ state.pending) where
  settles := by rw [Settles, hrun]; exact hstate
  tokens_eq := by rw [tokens, hrun]

/-- Two texts with a break at the seam are read one after the other. -/
theorem Reads.append {a b : List Char} {ts us : List Token} (ha : p.Reads a ts)
    (hb : p.Reads b us) (hbreak : endsWithBreak a ∨ startsWithBreak b) :
    p.Reads (a ++ b) (ts ++ us) := by
  obtain ⟨ha, rfl⟩ := ha
  obtain ⟨hb, rfl⟩ := hb
  rcases hbreak with hbreak | hbreak
  · have hready := run_endsWithBreak ha hbreak
    have hpending : p.tokens a = (run p .ready a).2 := by
      simp [tokens, hready, pending, finish]
    have hrun := run_append p .ready a b
    rw [hready, ← hpending] at hrun
    have h := reads_of_run hrun hb
    rwa [List.append_assoc] at h
  · obtain ⟨hsettled, htokens⟩ := run_startsWithBreak ha hb hbreak
    have h := reads_of_run (run_append p .ready a b) hsettled
    rwa [List.append_assoc, htokens, ← List.append_assoc] at h

end Profile

end SqlRender
