import Mathlib.Data.List.Infix
import SqlRender.Profile.Engines
import SqlRender.Proofs.Like

/-!
# The texts that a pattern matches

An engine reads a pattern from left to right: a percent sign stands for any run of characters, an
underscore for any one character, and an escaped character for itself. Where brackets hold a set,
they stand for one character of the set. A pattern whose last escape or set is not complete is not
well-formed.

An escaped text is read as its own characters, one by one. So with a wildcard in front of it a
pattern matches the texts that end with it, with one behind it those that start with it, and with
both those that have it anywhere.
-/

namespace SqlRender

/-- What a place of a pattern stands for: any run of characters, or one character that it
admits. -/
inductive LikeItem
  | run
  | one (admits : Char → Bool)

/-- The place of one given character. -/
def LikeItem.exact (c : Char) : LikeItem := one (· == c)

/-- How an engine reads a pattern. -/
structure LikeRules where
  /-- The character that makes the next one stand for itself. -/
  escape : Option Char
  /-- Whether brackets hold a set of characters. -/
  sets : Bool
deriving DecidableEq

/-- Where the reading of a pattern stands. -/
inductive LikePlace
  | outside
  /-- Behind the escape character. -/
  | escaped
  /-- Inside brackets, behind a part of the set. -/
  | inSet (spec : List Char)

/-- Whether a character is listed: two characters with a dash between them are a range. -/
def inRanges : List Char → Char → Bool
  | first :: '-' :: last :: spec, c => (first ≤ c && c ≤ last) || inRanges spec c
  | member :: spec, c => c == member || inRanges spec c
  | [], _ => false

/-- Whether a character is in a set; behind a caret are the ones that are not. -/
def inSet (spec : List Char) (c : Char) : Bool :=
  if spec.head? = some '^' then !inRanges spec.tail c else inRanges spec c

/-- A set of one character has that character only, unless it is a caret. -/
theorem inSet_singleton {c : Char} (hc : c ≠ '^') : inSet [c] = (· == c) := by
  funext d
  simp [inSet, inRanges, hc]

namespace LikeRules

/-- Reads a pattern; none when an escape or a set is not complete. -/
def read (rules : LikeRules) : LikePlace → List Char → Option (List LikeItem)
  | .outside, [] => some []
  | _, [] => none
  | .outside, c :: rest =>
    if rules.escape = some c then rules.read .escaped rest
    else if rules.sets ∧ c = '[' then rules.read (.inSet []) rest
    else
      let item : LikeItem :=
        if c = '%' then .run else if c = '_' then .one fun _ => true else .exact c
      (rules.read .outside rest).map (item :: ·)
  | .escaped, c :: rest => (rules.read .outside rest).map (.exact c :: ·)
  | .inSet spec, c :: rest =>
    if c = ']' then (rules.read .outside rest).map (.one (inSet spec) :: ·)
    else rules.read (.inSet (spec ++ [c])) rest

end LikeRules

/-- Whether the places of a pattern stand for a text, from its start to its end. -/
def accepts : List LikeItem → List Char → Bool
  | [], t => t.isEmpty
  | .run :: items, t => t.tails.any (accepts items)
  | .one admits :: items, c :: t => admits c && accepts items t
  | .one _ :: _, [] => false

/-- Whether a text is like a pattern; none when the pattern is not well-formed. -/
def LikeRules.like? (rules : LikeRules) (pattern t : List Char) : Option Bool :=
  (rules.read .outside pattern).map (accepts · t)

/-- How an engine reads a pattern that is followed by a clause with an escape character, or by
none. -/
def Engine.likeRules (e : Engine) (clause : Option Char) : LikeRules where
  escape := clause.or <| match e with
    | mySql | postgres => some '\\'
    | sqlServer | sqlite => none
  sets := e = sqlServer

section Accepts

variable {s t : List Char} {items : List LikeItem}

/-- A run stands for any part in front of what the rest stands for. -/
theorem accepts_run : accepts (.run :: items) t ↔ ∃ u, u <:+ t ∧ accepts items u := by
  simp [accepts, List.any_eq_true, List.mem_tails]

/-- The places of a text stand for that text in front of what the rest stands for. -/
theorem accepts_exact_append :
    accepts (s.map .exact ++ items) t ↔ ∃ u, t = s ++ u ∧ accepts items u := by
  induction s generalizing t with
  | nil => simp
  | cons c s ih =>
    cases t with
    | nil => simp [accepts, LikeItem.exact]
    | cons d t =>
      rw [List.map_cons, List.cons_append, LikeItem.exact, accepts, Bool.and_eq_true, ih,
        beq_iff_eq]
      constructor
      · rintro ⟨rfl, u, rfl, hu⟩
        exact ⟨u, rfl, hu⟩
      · rintro ⟨u, hu, hitems⟩
        obtain ⟨rfl, rfl⟩ := List.cons.inj hu
        exact ⟨rfl, u, rfl, hitems⟩

/-- The places of a text stand for nothing else. -/
theorem accepts_exact : accepts (s.map .exact) t ↔ t = s := by
  have h : accepts (s.map .exact ++ []) t ↔ ∃ u, t = s ++ u ∧ accepts [] u := accepts_exact_append
  simpa [accepts] using h

/-- A run behind the places of a text lets anything follow. -/
theorem accepts_exact_run : accepts (s.map .exact ++ [.run]) t ↔ s <+: t := by
  have hrun : ∀ u, accepts [.run] u := fun u =>
    accepts_run.mpr ⟨[], List.nil_suffix, rfl⟩
  rw [accepts_exact_append]
  constructor
  · rintro ⟨u, rfl, -⟩
    exact List.prefix_append s u
  · rintro ⟨u, rfl⟩
    exact ⟨u, rfl, hrun u⟩

end Accepts

/-- Whether a text has another one in it, with or without anything in front and behind. -/
def foundIn (front back : Bool) (s t : List Char) : Bool :=
  match front, back with
  | true, true => s <:+: t
  | true, false => s <:+ t
  | false, true => s <+: t
  | false, false => t = s

/-- A run on either side, where there may be anything. -/
def LikeItem.around (front back : Bool) (s : List Char) : List LikeItem :=
  (if front then [run] else []) ++ (s.map exact ++ if back then [run] else [])

/-- The places of a text with runs around it stand for the texts that it is found in. -/
theorem accepts_around (front back : Bool) (s t : List Char) :
    accepts (LikeItem.around front back s) t = foundIn front back s t := by
  rw [Bool.eq_iff_iff]
  cases front with
  | false =>
    cases back with
    | false => simpa [LikeItem.around, foundIn] using accepts_exact
    | true => simpa [LikeItem.around, foundIn] using accepts_exact_run
  | true =>
    cases back with
    | false =>
      have hlist : LikeItem.around true false s = .run :: s.map .exact := by
        simp [LikeItem.around]
      rw [hlist, accepts_run]
      simp [accepts_exact, foundIn]
    | true =>
      have hlist : LikeItem.around true true s = .run :: (s.map .exact ++ [.run]) := rfl
      rw [hlist, accepts_run]
      -- a text has another one in it where one of its ends starts with that
      simp only [accepts_exact_run, foundIn, decide_eq_true_eq, List.infix_iff_prefix_suffix]
      exact exists_congr fun u => and_comm

namespace LikeStyle

/-- The escape character that the clause behind a pattern names. -/
def clauseMark? : LikeStyle → Option Char
  | backslashClause => some '\\'
  | _ => none

/-- How the patterns of a style are meant to be read. -/
def rules : LikeStyle → LikeRules
  | brackets => ⟨none, true⟩
  | _ => ⟨some '\\', false⟩

/-- An engine reads the patterns of its own style as they are meant. -/
theorem rules_eq (e : Engine) :
    e.likeRules e.profile.like.clauseMark? = e.profile.like.rules := by cases e <;> rfl

variable (style : LikeStyle)

/-- The escaped form of a character is read as the character. -/
theorem read_escapeChar (c : Char) (rest : List Char) :
    style.rules.read .outside (style.escapeChar c ++ rest) =
      (style.rules.read .outside rest).map (.exact c :: ·) := by
  rw [escapeChar_eq]
  by_cases hc : style.IsEscaped c
  · rw [if_pos hc]
    cases style with
    | brackets =>
      have hne : c ≠ '^' ∧ c ≠ ']' := by
        rcases hc with rfl | rfl | rfl <;> decide
      simp [rules, mark, closing, LikeRules.read, inSet_singleton hne.1, hne.2, LikeItem.exact]
    | backslash => simp [rules, mark, closing, LikeRules.read]
    | backslashClause => simp [rules, mark, closing, LikeRules.read]
  · rw [if_neg hc]
    obtain ⟨hrun, hone, hmark⟩ : c ≠ '%' ∧ c ≠ '_' ∧ c ≠ style.mark := by
      simpa [IsEscaped] using hc
    cases style with
    | brackets =>
      have hset : c ≠ '[' := hmark
      simp [rules, LikeRules.read, hrun, hone, hset]
    | backslash | backslashClause =>
      have hescape : '\\' ≠ c := hmark.symm
      simp [rules, LikeRules.read, hrun, hone, hescape]

/-- An escaped text is read as its characters. -/
theorem read_escapeChars (s rest : List Char) :
    style.rules.read .outside (style.escapeChars s ++ rest) =
      (style.rules.read .outside rest).map (s.map .exact ++ ·) := by
  induction s with
  | nil => simp [escapeChars]
  | cons c s ih =>
    rw [escapeChars] at ih ⊢
    rw [List.flatMap_cons, List.append_assoc, read_escapeChar, ih, Option.map_map]
    rfl

/-- A wildcard is read as a run. -/
theorem read_wildcard (rest : List Char) :
    style.rules.read .outside ('%' :: rest) =
      (style.rules.read .outside rest).map (.run :: ·) := by
  cases style <;> simp [rules, LikeRules.read]

/-- An escaped text with a wildcard on either side, where there may be anything. -/
def around (front back : Bool) (s : List Char) : List Char :=
  (if front then ['%'] else []) ++ (style.escapeChars s ++ if back then ['%'] else [])

/-- A text is like an escaped one with wildcards around it exactly when it has the text there:
no character of the text is a wildcard or an escape. -/
theorem like?_around (front back : Bool) (s t : List Char) :
    style.rules.like? (style.around front back s) t = some (foundIn front back s t) := by
  have hnil : style.rules.read .outside [] = some [] := rfl
  have hback : style.rules.read .outside (style.escapeChars s ++ if back then ['%'] else []) =
      some (s.map .exact ++ if back then [.run] else []) := by
    rw [read_escapeChars]
    cases back <;> simp [read_wildcard, hnil]
  have hread : style.rules.read .outside (style.around front back s) =
      some (LikeItem.around front back s) := by
    cases front with
    | false => exact hback
    | true => exact (style.read_wildcard _).trans (congrArg (Option.map (.run :: ·)) hback)
  rw [LikeRules.like?, hread, Option.map_some, accepts_around]

example : (Engine.sqlServer.likeRules none).like? "10[%][_]off%".toList "10%_off!".toList =
    some true := by decide

end LikeStyle

end SqlRender
