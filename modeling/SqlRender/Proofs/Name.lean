import Mathlib.Data.List.Basic
import SqlRender.Name
import SqlRender.Profile.Engines

/-!
# Reading a quoted name back

A reader goes through a name part by part: a bare asterisk is a part, and so is what stands between
the marks, up to the first closing mark that stands alone. Behind a part a point says that another
one follows. The reader knows by itself where a name ends, so what follows a quoted name changes
nothing about it as long as it does not go on with the name: it starts neither with a point nor with
one more closing mark.
-/

namespace SqlRender

/-- Reads up to the first mark that stands alone, with doubled marks as one: what stands in front of
it, and what stands behind it. -/
def readInside (mark : Char) : List Char → Option (List Char × List Char)
  | [] => none
  | [c] => if c = mark then some ([], []) else none
  | c :: d :: rest =>
    if c = mark then
      if d = mark then (readInside mark rest).map fun read => (mark :: read.1, read.2)
      else some ([], d :: rest)
    else (readInside mark (d :: rest)).map fun read => (c :: read.1, read.2)

/-- A character that is no mark is read as it stands. -/
theorem readInside_cons {mark c : Char} (hc : c ≠ mark) (s : List Char) :
    readInside mark (c :: s) = (readInside mark s).map fun read => (c :: read.1, read.2) := by
  cases s with
  | nil => simp [readInside, hc]
  | cons d rest => rw [readInside, if_neg hc]

/-- A mark that no second one follows ends what is read. -/
theorem readInside_mark {mark : Char} {t : List Char} (ht : t.head? ≠ some mark) :
    readInside mark (mark :: t) = some ([], t) := by
  cases t with
  | nil => simp [readInside]
  | cons d rest =>
    have hd : d ≠ mark := fun h => ht (congrArg some h)
    rw [readInside, if_pos rfl, if_neg hd]

/-- A doubled text in front of a mark is read as the text. -/
theorem readInside_doubled {mark : Char} (s : List Char) {t : List Char}
    (ht : t.head? ≠ some mark) :
    readInside mark (doubled mark s ++ mark :: t) = some (s, t) := by
  induction s with
  | nil => exact readInside_mark ht
  | cons c rest ih =>
    rw [doubled] at ih
    rw [doubled, List.flatMap_cons, List.append_assoc]
    by_cases hc : c = mark
    · simp [hc, readInside, ih]
    · simp [hc, readInside_cons hc, ih]

/-- What is left behind a mark is shorter than the text. -/
theorem length_readInside {mark : Char} {s part rest : List Char}
    (h : readInside mark s = some (part, rest)) : rest.length < s.length := by
  fun_induction readInside mark s generalizing part with
  | case1 => cases h
  | case2 =>
    cases h
    exact Nat.zero_lt_one
  | case3 => cases h
  | case4 tail ih =>
    obtain ⟨⟨part', rest'⟩, hread, heq⟩ := Option.map_eq_some_iff.mp h
    cases heq
    exact Nat.lt_succ_of_lt (Nat.lt_succ_of_lt (ih hread))
  | case5 c d tail =>
    cases h
    exact Nat.lt_succ_self _
  | case6 c d tail hc ih =>
    obtain ⟨⟨part', rest'⟩, hread, heq⟩ := Option.map_eq_some_iff.mp h
    cases heq
    exact Nat.lt_succ_of_lt (ih hread)

namespace QuoteStyle

/-- Reads one part of a name, and what stands behind it. -/
def readPart? (style : QuoteStyle) : List Char → Option (List Char × List Char)
  | [] => none
  | c :: rest =>
    if c = '*' then some (['*'], rest)
    else if c = style.opening then readInside style.closing rest
    else none

variable {style : QuoteStyle}

/-- What is left behind a part is shorter than the text. -/
theorem length_readPart? {s part rest : List Char} (h : style.readPart? s = some (part, rest)) :
    rest.length < s.length := by
  cases s with
  | nil => cases h
  | cons c tail =>
    unfold readPart? at h
    dsimp only at h
    split at h
    · cases h
      exact Nat.lt_succ_self _
    · split at h
      · exact Nat.lt_succ_of_lt (length_readInside h)
      · cases h

/-- A quoted part that no closing mark follows is read back. -/
theorem readPart?_quotePart (part : List Char) {t : List Char}
    (ht : t.head? ≠ some style.closing) :
    style.readPart? (style.quotePart part ++ t) = some (part, t) := by
  unfold quotePart
  split
  · next hpart =>
    subst hpart
    rfl
  · have hopening : style.opening ≠ '*' := by cases style <;> decide
    have hinside := readInside_doubled part ht
    rw [List.cons_append, List.cons_append, List.append_assoc, readPart?, if_neg hopening,
      if_pos rfl]
    exact hinside

/-- Reads the parts of a name: behind a point stands another part. -/
def readParts? (style : QuoteStyle) (s : List Char) : Option (List (List Char) × List Char) :=
  match _hpart : style.readPart? s with
  | none => none
  | some (part, '.' :: rest) =>
    (style.readParts? rest).map fun read => (part :: read.1, read.2)
  | some (part, rest) => some ([part], rest)
termination_by s.length
decreasing_by
  have hlength := length_readPart? _hpart
  rw [List.length_cons] at hlength
  omega

/-- Behind a part without a point behind it, nothing more is read. -/
theorem readParts?_last {s part rest : List Char} (h : style.readPart? s = some (part, rest))
    (hrest : rest.head? ≠ some '.') : style.readParts? s = some ([part], rest) := by
  rw [readParts?]
  split
  · next hnone => simp [h] at hnone
  · next hpoint =>
    rw [h] at hpoint
    cases hpoint
    exact absurd rfl hrest
  · next hpart =>
    rw [h] at hpart
    cases hpart
    rfl

/-- Behind a point the other parts are read. -/
theorem readParts?_point {s part rest : List Char}
    (h : style.readPart? s = some (part, '.' :: rest)) :
    style.readParts? s = (style.readParts? rest).map fun read => (part :: read.1, read.2) := by
  rw [readParts?]
  split
  · next hnone => simp [h] at hnone
  · next hpoint =>
    rw [h] at hpoint
    cases hpoint
    rfl
  · next hno hpart =>
    rw [h] at hpart
    cases hpart
    exact absurd rfl (hno _)

/-- Quoted parts with points between them are read back. -/
theorem readParts?_quoteParts {parts : List (List Char)} (hparts : parts ≠ []) {t : List Char}
    (hpoint : t.head? ≠ some '.') (hmark : t.head? ≠ some style.closing) :
    style.readParts? (['.'].intercalate (parts.map style.quotePart) ++ t) = some (parts, t) := by
  induction parts with
  | nil => exact absurd rfl hparts
  | cons part rest ih =>
    cases rest with
    | nil =>
      rw [List.map_singleton, List.intercalate_singleton]
      exact readParts?_last (readPart?_quotePart part hmark) hpoint
    | cons next rest =>
      have hclosing : '.' ≠ style.closing := by cases style <;> decide
      have hnext := ih (List.cons_ne_nil next rest)
      rw [List.map_cons] at hnext
      rw [List.map_cons, List.map_cons, List.intercalate_cons_cons, List.append_assoc,
        List.append_assoc, List.singleton_append]
      have hhead : ∀ s : List Char, ('.' :: s).head? ≠ some style.closing := fun _ h =>
        hclosing (Option.some.inj h)
      rw [readParts?_point (readPart?_quotePart part (hhead _)), hnext]
      rfl

/-- Reads a quoted name: its parts with points between them, and what stands behind it. -/
def readName? (style : QuoteStyle) (s : List Char) : Option (List Char × List Char) :=
  (style.readParts? s).map fun read => (['.'].intercalate read.1, read.2)

/-- A quoted name is read back in front of anything that does not go on with it. -/
theorem readName?_quoteChars (name : List Char) {t : List Char} (hpoint : t.head? ≠ some '.')
    (hmark : t.head? ≠ some style.closing) :
    style.readName? (style.quoteChars name ++ t) = some (name, t) := by
  rw [readName?, quoteChars, readParts?_quoteParts (List.splitOn_ne_nil _ _) hpoint hmark,
    Option.map_some, List.intercalate_splitOn]

end QuoteStyle

/-- On every engine a quoted name is read back in front of anything that starts neither with a point
nor with the closing mark, up to its end and no further. So names that are quoted alike are one
name. -/
theorem Engine.readName?_quote (e : Engine) :
    (∀ (name : String) (t : List Char), t.head? ≠ some '.' →
      t.head? ≠ some e.profile.quote.closing →
        e.profile.quote.readName? ((e.profile.quote.quote name).toList ++ t) =
          some (name.toList, t)) ∧
    Function.Injective e.profile.quote.quote := by
  have hread : ∀ (name : String) (t : List Char), t.head? ≠ some '.' →
      t.head? ≠ some e.profile.quote.closing →
        e.profile.quote.readName? ((e.profile.quote.quote name).toList ++ t) =
          some (name.toList, t) := by
    intro name t hpoint hmark
    rw [QuoteStyle.quote, String.toList_ofList]
    exact QuoteStyle.readName?_quoteChars name.toList hpoint hmark
  refine ⟨hread, fun a b hab => ?_⟩
  have ha := hread a [] nofun nofun
  rw [hab, hread b [] nofun nofun] at ha
  exact String.toList_inj.mp (congrArg Prod.fst (Option.some.inj ha)).symm

/-- A name with an asterisk that is a part, one that is not, an empty part, and closing marks at the
edges of parts, in front of another asterisk. -/
theorem Engine.readName?_quote_edges :
    "* [x]".toList.head? ≠ some '.' ∧
      "* [x]".toList.head? ≠ some Engine.sqlServer.profile.quote.closing ∧
      Engine.sqlServer.profile.quote.quote "*.]a..**.]" = "*.[]]a].[].[**].[]]]" ∧
      Engine.sqlServer.profile.quote.readName?
          ("*.[]]a].[].[**].[]]]".toList ++ "* [x]".toList) =
        some ("*.]a..**.]".toList, "* [x]".toList) := by
  have hpoint : "* [x]".toList.head? ≠ some '.' := by decide
  have hmark : "* [x]".toList.head? ≠ some Engine.sqlServer.profile.quote.closing := by decide
  have hquote : Engine.sqlServer.profile.quote.quote "*.]a..**.]" = "*.[]]a].[].[**].[]]]" := by
    decide +kernel
  have hread := (readName?_quote .sqlServer).1 "*.]a..**.]" "* [x]".toList hpoint hmark
  rw [hquote] at hread
  exact ⟨hpoint, hmark, hquote, hread⟩

end SqlRender
