import Mathlib.Data.List.Basic
import SqlRender.Dialect
import SqlRender.Proofs.Lists
import SqlRender.Proofs.Literal.Numbered
import SqlRender.Proofs.Token.Scanner

/-!
# Quoted names and strings as tokens

What stands between quotes is read back as it was given: the doubled closing mark of a name and
the doubled quote of a string, and the doubled backslash where the engine has escapes, stand
for themselves. A quoted name is the tokens of its parts with points between them, and a string
literal is one token, whatever characters they hold.
-/

namespace SqlRender

/-- The token of one part of a name; a lone asterisk stays a symbol. -/
def Token.ofPart (part : List Char) : Token := if part = ['*'] then .symbol '*' else .name part

/-- The tokens of the parts of a name, with points between them. -/
def partTokens (parts : List (List Char)) : List Token :=
  [Token.symbol '.'].intercalate (parts.map fun part => [Token.ofPart part])

/-- The tokens of a name. -/
def nameTokens (name : String) : List Token := partTokens (name.toList.splitOn '.')

/-- The token of a part determines the part. -/
theorem Token.ofPart_injective : Function.Injective Token.ofPart := by
  intro a b h
  by_cases ha : a = ['*']
  · by_cases hb : b = ['*']
    · rw [ha, hb]
    · rw [ofPart, ofPart, if_pos ha, if_neg hb] at h
      cases h
  · by_cases hb : b = ['*']
    · rw [ofPart, ofPart, if_neg ha, if_pos hb] at h
      cases h
    · rw [ofPart, ofPart, if_neg ha, if_neg hb] at h
      exact Token.name.inj h

/-- The token of a part is no point. -/
theorem Token.ofPart_ne_point (part : List Char) : Token.symbol '.' ≠ Token.ofPart part := by
  rw [ofPart]
  split
  · decide
  · exact nofun

/-- The tokens of a name are points and the tokens of its parts. -/
theorem eq_of_mem_nameTokens {name : String} {t : Token} (h : t ∈ nameTokens name) :
    t = .symbol '.' ∨ ∃ part, t = Token.ofPart part := by
  refine (mem_intercalate h).imp List.mem_singleton.mp ?_
  rintro ⟨ts, hts, ht⟩
  obtain ⟨part, -, rfl⟩ := List.mem_map.mp hts
  exact ⟨part, List.mem_singleton.mp ht⟩

/-- The tokens of parts determine the parts, because no part is a point. -/
theorem splitOn_partTokens {parts : List (List Char)} (h : parts ≠ []) :
    (partTokens parts).splitOn (Token.symbol '.') = parts.map fun part => [Token.ofPart part] := by
  refine List.splitOn_intercalate _ (fun l hl => ?_) (by simpa using h)
  obtain ⟨part, -, rfl⟩ := List.mem_map.mp hl
  simpa using Token.ofPart_ne_point part

/-- The tokens of a name determine the name. -/
theorem nameTokens_injective : Function.Injective nameTokens := by
  intro a b h
  have hsplit := congrArg (List.splitOn (Token.symbol '.')) h
  rw [nameTokens, nameTokens, splitOn_partTokens (List.splitOn_ne_nil _ _),
    splitOn_partTokens (List.splitOn_ne_nil _ _)] at hsplit
  have hpart : Function.Injective fun part : List Char => [Token.ofPart part] := fun _ _ h =>
    Token.ofPart_injective (List.singleton_inj.mp h)
  have hparts := hpart.list_map hsplit
  have hjoin : ∀ s : String, ['.'].intercalate (s.toList.splitOn '.') = s.toList := fun s =>
    List.intercalate_splitOn '.'
  rw [← String.toList_inj, ← hjoin a, hparts, hjoin b]

/-- The tokens of what stands in front of a string literal. -/
def leadTokens (p : Profile) : List Token := p.tokens p.stringLead.toList

namespace Profile

open Scan

variable {p : Profile}

/-- Between its marks a name is read up to the closing mark, with doubled marks as one. -/
theorem run_name (read part : List Char) :
    run p (.name read) (doubled p.quote.closing part ++ [p.quote.closing]) =
      (.nameMark (read ++ part), []) := by
  induction part generalizing read with
  | nil => simp [doubled, run, step]
  | cons c rest ih =>
    rw [doubled, List.flatMap_cons, List.append_assoc, run_append]
    rw [doubled] at ih
    by_cases hc : c = p.quote.closing
    · have hstep : run p (.name read) [c, c] = (.name (read ++ [c]), []) := by
        simp [run, step, hc]
      rw [if_pos hc, hstep, ih]
      simp
    · have hstep : run p (.name read) [c] = (.name (read ++ [c]), []) := by
        simp [run, step, hc]
      rw [if_neg hc, hstep, ih]
      simp

/-- The opening mark starts a name. -/
theorem start_opening : start p p.quote.opening = (.name [], []) := by
  have hword : isWordChar p.quote.opening = false := by cases p.quote <;> decide
  simp [start, hword]

/-- An asterisk is a symbol by itself. -/
theorem start_asterisk : start p '*' = (.ready, [.symbol '*']) := by
  have hopening : '*' ≠ p.quote.opening := by cases p.quote <;> decide
  have hlead : '*' ≠ p.placeholder.lead := by cases p.placeholder <;> decide
  simp only [start, hopening, hlead]
  decide

/-- A quoted part is one token. -/
theorem reads_quotePart (part : List Char) :
    p.Reads (p.quote.quotePart part) [Token.ofPart part] := by
  by_cases hpart : part = ['*']
  · subst hpart
    have hrun : run p .ready (p.quote.quotePart ['*']) = (.ready, [.symbol '*']) := by
      simp only [QuoteStyle.quotePart, if_true, run, step, start_asterisk, List.append_nil]
    exact reads_of_run hrun rfl
  · have hrun : run p .ready (p.quote.quotePart part) = (.nameMark part, []) := by
      simp [QuoteStyle.quotePart, hpart, run, step, start_opening, run_name]
    rw [Token.ofPart, if_neg hpart]
    exact reads_of_run hrun rfl

/-- A point is a symbol by itself. -/
theorem reads_point : p.Reads ['.'] [.symbol '.'] := by
  have hopening : '.' ≠ p.quote.opening := by cases p.quote <;> decide
  have hlead : '.' ≠ p.placeholder.lead := by cases p.placeholder <;> decide
  have hrun : run p .ready ['.'] = (.ready, [.symbol '.']) := by
    simp only [run, step, start, hopening, hlead]
    decide
  exact reads_of_run hrun rfl

/-- Quoted parts with points between them are read part by part. -/
theorem reads_parts (parts : List (List Char)) :
    p.Reads (['.'].intercalate (parts.map p.quote.quotePart)) (partTokens parts) := by
  unfold partTokens
  induction parts with
  | nil => exact ⟨rfl, rfl⟩
  | cons part rest ih =>
    cases rest with
    | nil => simpa using reads_quotePart part
    | cons next rest =>
      simp only [List.map_cons, List.intercalate_cons_cons] at ih ⊢
      have hpoint := ((reads_quotePart (p := p) part).append reads_point (.inr rfl))
      refine hpoint.append ih (.inl ?_)
      simp [endsWithBreak, isBreak]

/-- A quoted name is read as the tokens of its parts. -/
theorem reads_quote (name : String) :
    p.Reads (p.quote.quote name).toList (nameTokens name) := by
  simpa [QuoteStyle.quote, QuoteStyle.quoteChars, nameTokens] using
    reads_parts (p := p) (name.toList.splitOn '.')

/-- Between its quotes a string is read up to the closing quote as the text it was made from. -/
theorem run_string (hp : p.strings ≠ .backslash) (read s : List Char) :
    run p (.string read) (doubled '\'' s ++ ['\'']) = (.stringMark (read ++ s), []) := by
  induction s generalizing read with
  | nil => simp [doubled, run, step]
  | cons c rest ih =>
    rw [doubled, List.flatMap_cons, List.append_assoc, run_append]
    rw [doubled] at ih
    by_cases hc : c = '\''
    · have hstep : run p (.string read) [c, c] = (.string (read ++ [c]), []) := by
        simp [run, step, hc]
      rw [if_pos hc, hstep, ih]
      simp
    · have hstep : run p (.string read) [c] = (.string (read ++ [c]), []) := by
        simp [run, step, hc, hp]
      rw [if_neg hc, hstep, ih]
      simp

/-- Where a backslash escapes, a string with doubled backslashes is read in the same way. -/
theorem run_escapedString (hp : p.strings = .backslash) (read s : List Char) :
    run p (.string read) (doubled '\'' (doubled '\\' s) ++ ['\'']) =
      (.stringMark (read ++ s), []) := by
  induction s generalizing read with
  | nil => simp [doubled, run, step]
  | cons c rest ih =>
    have hcons : doubled '\'' (doubled '\\' (c :: rest)) =
        doubled '\'' (doubled '\\' [c]) ++ doubled '\'' (doubled '\\' rest) := by
      simp [doubled]
    rw [hcons, List.append_assoc, run_append]
    have hstep : run p (.string read) (doubled '\'' (doubled '\\' [c])) =
        (.string (read ++ [c]), []) := by
      by_cases hslash : c = '\\'
      · simp [doubled, hslash, run, step, hp, unescaped]
      · by_cases hquote : c = '\''
        · simp [doubled, hquote, run, step]
        · simp [doubled, hslash, hquote, run, step]
    rw [hstep, ih]
    simp

/-- The body of a string literal is read up to the closing quote as the sanitised text. -/
theorem run_body (read s : List Char) :
    run p (.string read) (p.strings.body s ++ ['\'']) =
      (.stringMark (read ++ sanitized s), []) := by
  cases hp : p.strings with
  | standard => exact run_string (by simp [hp]) read (sanitized s)
  | backslash => exact run_escapedString hp read (sanitized s)
  | dollarTag => exact run_string (by simp [hp]) read (sanitized s)

end Profile

/-- Outside dollar tags, the literal of a text is its lead and the sanitised text in quotes. -/
theorem Profile.toList_quoteText {p : Profile} (hp : p.strings ≠ .dollarTag)
    (tag : String → String) (s : String) :
    (p.quoteText tag s).toList =
      p.stringLead.toList ++ ['\''] ++ (p.strings.body s.toList ++ ['\'']) := by
  cases h : p.strings with
  | dollarTag => exact absurd h hp
  | standard => simp [Profile.quoteText, h]
  | backslash => simp [Profile.quoteText, h]

/-- The lead of a string literal and its opening quote start a string. -/
theorem Engine.run_lead (e : Engine) :
    Scan.run e.profile .ready (e.profile.stringLead.toList ++ ['\'']) =
      (.string [], leadTokens e.profile) := by cases e <;> decide

/-- Outside dollar tags, the literal of a text is one string token behind its lead. -/
theorem Engine.reads_quoteText {e : Engine} (he : e ≠ .postgres) (tag : String → String)
    (s : String) :
    e.profile.Reads (e.profile.quoteText tag s).toList
      (leadTokens e.profile ++ [.string (sanitized s.toList)]) := by
  have hstyle := Engine.strings_ne_dollarTag he
  have hrun : Scan.run e.profile .ready (e.profile.quoteText tag s).toList =
      (.stringMark (sanitized s.toList), leadTokens e.profile) := by
    rw [Profile.toList_quoteText hstyle, Scan.run_append, Engine.run_lead, Profile.run_body]
    simp
  exact Profile.reads_of_run hrun rfl

end SqlRender
