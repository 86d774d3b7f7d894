import Mathlib.Data.List.Infix
import SqlRender.Literal.DollarTag

/-!
# Reading a text between dollar tags back

An engine with dollar tags takes the name between two dollar signs as the mark of a string, and
reads on to the first place where the same mark stands again. The tag of a literal is chosen so
that its mark does not occur in the text, but the engine looks for the mark in the text and the
closing mark together. The one place where the two can run into each other is the dollar sign
that ends the mark and starts it: a text that ends in a mark without its last dollar sign borrows
that sign from the closing mark, and is read as if it ended there.
-/

namespace SqlRender.DollarTag

/-- Whether a name between dollar signs may start with a character. -/
def isNameStart (c : Char) : Bool := c.isAlpha || c == '_' || 0x80 ≤ c.toNat

/-- Whether a name between dollar signs may go on with a character. -/
def isNameChar (c : Char) : Bool := isNameStart c || c.isDigit

/-- The mark that a text starts with, and what stands behind it. -/
def readMark? : List Char → Option (List Char × List Char)
  | '$' :: rest =>
    let name := rest.takeWhile isNameChar
    match rest.dropWhile isNameChar with
    | '$' :: body => if name.head?.all isNameStart then some ('$' :: name ++ ['$'], body) else none
    | _ => none
  | _ => none

/-- The text in front of the first place where a mark stands, and what stands behind the mark. -/
def readUpTo (mark : List Char) : List Char → Option (List Char × List Char)
  | [] => if mark = [] then some ([], []) else none
  | c :: rest =>
    if mark.isPrefixOf (c :: rest) then some ([], (c :: rest).drop mark.length)
    else (readUpTo mark rest).map fun (front, behind) => (c :: front, behind)

/-- The string at the start of a text as an engine with dollar tags reads it, and what stands
behind it. -/
def read? (text : List Char) : Option (List Char × List Char) :=
  (readMark? text).bind fun (mark, body) => readUpTo mark body

/-- A tag is six letters and digits. -/
structure IsTag (tag : List Char) : Prop where
  length_eq : tag.length = 6
  alphanum : ∀ c ∈ tag, c.isAlphanum

instance (tag : List Char) : Decidable (IsTag tag) :=
  decidable_of_iff (tag.length = 6 ∧ tag.all Char.isAlphanum)
    ⟨fun h => ⟨h.1, List.all_eq_true.mp h.2⟩,
      fun h => ⟨h.length_eq, List.all_eq_true.mpr h.alphanum⟩⟩

/-- The delimiter with a tag up to its last dollar sign. -/
def stem (tag : List Char) : List Char := ['$', 'q'] ++ tag

variable {tag s mark : List Char}

/-- Looking for a text finds it where it stands in one piece. -/
theorem occursIn_iff {needle : List Char} : occursIn needle s ↔ needle <:+: s := by
  induction s with
  | nil => simp [occursIn]
  | cons c rest ih =>
    rw [occursIn, Bool.or_eq_true, List.isPrefixOf_iff_prefix, ih, List.infix_cons_iff]

/-- A tag is accepted when its delimiter stands nowhere in the text. -/
theorem accepts_iff : accepts tag s ↔ ¬delimiter tag <:+: s := by
  rw [accepts, Bool.not_eq_true', ← Bool.not_eq_true, occursIn_iff]

/-- Where a mark does not stand at once, reading goes on behind the first character. -/
theorem readUpTo_cons {c : Char} {rest front behind : List Char} (h : ¬mark <+: c :: rest) :
    readUpTo mark (c :: rest) = some (front, behind) ↔
      ∃ more, front = c :: more ∧ readUpTo mark rest = some (more, behind) := by
  rw [readUpTo, if_neg (fun hmark => h (List.isPrefixOf_iff_prefix.mp hmark)),
    Option.map_eq_some_iff]
  constructor
  · rintro ⟨⟨more, _⟩, hread, hpair⟩
    cases hpair
    exact ⟨more, rfl, hread⟩
  · rintro ⟨more, rfl, hread⟩
    exact ⟨(more, behind), hread, rfl⟩

/-- What is read up to a mark is the text in front of it, and the mark stands nowhere earlier. -/
theorem readUpTo_eq_some_iff {text front behind : List Char} :
    readUpTo mark text = some (front, behind) ↔
      text = front ++ mark ++ behind ∧ ∀ i < front.length, ¬mark <+: text.drop i := by
  induction text generalizing front with
  | nil =>
    rw [readUpTo]
    split
    · next hmark =>
      subst hmark
      cases front <;> cases behind <;> simp
    · next hmark =>
      cases front <;> simp [hmark]
  | cons c rest ih =>
    by_cases hstart : mark <+: c :: rest
    · rw [readUpTo, if_pos (List.isPrefixOf_iff_prefix.mpr hstart)]
      constructor
      · intro h
        cases h
        refine ⟨?_, nofun⟩
        rw [List.nil_append]
        exact (List.prefix_iff_eq_append.mp hstart).symm
      · rintro ⟨htext, hfirst⟩
        cases front with
        | nil => simp [htext]
        | cons d front => exact absurd hstart (hfirst 0 (Nat.succ_pos _))
    · rw [readUpTo_cons hstart]
      constructor
      · rintro ⟨front, rfl, hread⟩
        obtain ⟨rfl, hfirst⟩ := ih.mp hread
        refine ⟨rfl, fun i hi => ?_⟩
        cases i with
        | zero => exact hstart
        | succ i => exact hfirst i (Nat.lt_of_succ_lt_succ hi)
      · rintro ⟨htext, hfirst⟩
        cases front with
        | nil => exact absurd ⟨behind, htext.symm⟩ hstart
        | cons d front =>
          obtain ⟨rfl, hbehind⟩ := List.cons.inj htext
          refine ⟨front, rfl, ih.mpr ⟨hbehind, fun i hi => ?_⟩⟩
          exact hfirst (i + 1) (Nat.succ_lt_succ hi)

/-- A mark that starts inside a text and ends behind it, in the mark that follows the text, shares
one dollar sign with that mark, so the text is the rest of it. -/
theorem eq_of_overlap {name t : List Char} (hname : '$' ∉ name) (hs : s ≠ [])
    (hoccurs : ¬('$' :: name ++ ['$']) <:+: s)
    (hstart : ('$' :: name ++ ['$']) <+: s ++ ('$' :: name ++ ['$']) ++ t) :
    s = '$' :: name := by
  rw [List.append_assoc] at hstart
  rcases List.prefix_or_prefix_of_prefix hstart (List.prefix_append s _) with hinside | hlonger
  · exact absurd hinside.isInfix hoccurs
  · obtain ⟨more, hmore⟩ := hlonger
    have hclosing : more <+: ('$' :: name ++ ['$']) ++ t := by
      apply (List.prefix_append_right_inj s).mp
      rwa [hmore]
    obtain ⟨u, hu⟩ := hclosing
    cases more with
    | nil => exact absurd ⟨[], [], by simpa using hmore.symm⟩ hoccurs
    | cons c more =>
      obtain rfl : c = '$' := (List.cons.inj hu).1
      cases s with
      | nil => exact absurd rfl hs
      | cons d rest =>
        obtain ⟨rfl, hend⟩ := List.cons.inj hmore
        -- the dollar sign behind `rest` is the last one of the mark, for there is none inside it
        rcases List.append_eq_append_iff.mp hend with ⟨inner, hrest, hlast⟩ | ⟨inner, hrest, hlast⟩
        · cases inner with
          | nil => simpa using hrest.symm
          | cons e inner =>
            exfalso
            apply hname
            obtain ⟨rfl, -⟩ := List.cons.inj hlast
            simp [hrest]
        · cases inner with
          | nil => simpa using hrest
          | cons e inner => simp at hlast

/-- Behind a text that neither holds a mark nor ends in the front part of one, the mark is found
where it stands. -/
theorem readUpTo_append {name : List Char} (hname : '$' ∉ name)
    (hoccurs : ¬('$' :: name ++ ['$']) <:+: s) (hend : ¬('$' :: name) <:+ s) (t : List Char) :
    readUpTo ('$' :: name ++ ['$']) (s ++ ('$' :: name ++ ['$']) ++ t) = some (s, t) := by
  rw [readUpTo_eq_some_iff]
  refine ⟨rfl, fun i hi hstart => ?_⟩
  have hdrop : (s.drop i) <:+ s := List.drop_suffix i s
  have hne : s.drop i ≠ [] := by simpa using hi
  rw [List.append_assoc, List.drop_append_of_le_length hi.le, ← List.append_assoc] at hstart
  have hoverlap := eq_of_overlap hname hne (fun h => hoccurs (h.trans hdrop.isInfix)) hstart
  exact hend (hoverlap ▸ hdrop)

/-- There is no dollar sign inside a delimiter. -/
theorem IsTag.dollar_not_mem (htag : IsTag tag) : '$' ∉ 'q' :: tag := by
  intro h
  rcases List.mem_cons.mp h with h | h
  · cases h
  · exact absurd (htag.alphanum _ h) (by decide)

/-- A literal starts with the mark that is its delimiter. -/
theorem IsTag.readMark?_delimiter (htag : IsTag tag) (body : List Char) :
    readMark? (delimiter tag ++ body) = some (delimiter tag, body) := by
  have hname : ∀ c ∈ 'q' :: tag, isNameChar c := by
    intro c hc
    rcases List.mem_cons.mp hc with rfl | hc
    · rfl
    · have halphanum := htag.alphanum c hc
      rw [Char.isAlphanum, Bool.or_eq_true] at halphanum
      rcases halphanum with h | h <;> simp [isNameChar, isNameStart, h]
  have hend : isNameChar '$' = false := by decide
  have hsplit : delimiter tag ++ body = '$' :: (('q' :: tag) ++ '$' :: body) := by
    simp [delimiter]
  have htake : (('q' :: tag) ++ '$' :: body).takeWhile isNameChar = 'q' :: tag := by
    rw [List.takeWhile_append_of_pos hname, List.takeWhile_cons_of_neg (by simp [hend]),
      List.append_nil]
  have hdrop : (('q' :: tag) ++ '$' :: body).dropWhile isNameChar = '$' :: body := by
    rw [List.dropWhile_append_of_pos hname, List.dropWhile_cons_of_neg (by simp [hend])]
  rw [hsplit, readMark?]
  simp only [htake, hdrop]
  rfl

/-- What an accepted tag does to its text. Unless the text ends in the delimiter without its last
dollar sign, the delimiter is found behind the opening one for the first time where the text ends,
and the string that is read is the text, whatever follows the literal. A text that does end so is
cut off in front of that, and the rest of the closing delimiter is left over. -/
theorem read?_wrap (htag : IsTag tag) (haccepts : accepts tag s) (t : List Char) :
    (¬stem tag <:+ s →
      (∀ i < s.length, ¬delimiter tag <+: (s ++ delimiter tag ++ t).drop i) ∧
        read? (wrap tag s ++ t) = some (s, t)) ∧
      ∀ front, s = front ++ stem tag →
        read? (wrap tag s ++ t) = some (front, (delimiter tag).tail ++ t) := by
  have hoccurs := accepts_iff.mp haccepts
  have hread : read? (wrap tag s ++ t) = readUpTo (delimiter tag) (s ++ delimiter tag ++ t) := by
    rw [read?, wrap, List.append_assoc, List.append_assoc, htag.readMark?_delimiter,
      Option.bind_some, List.append_assoc]
  rw [hread]
  constructor
  · intro hend
    have hwhole := readUpTo_append htag.dollar_not_mem hoccurs hend t
    exact ⟨(readUpTo_eq_some_iff.mp hwhole).2, hwhole⟩
  · rintro front rfl
    have hfront : ¬delimiter tag <:+: front := fun h =>
      hoccurs (h.trans (List.prefix_append _ _).isInfix)
    -- a second stem in front of the last one would make a delimiter with it
    have hend : ¬stem tag <:+ front := by
      rintro ⟨before, rfl⟩
      apply hoccurs
      exact ⟨before, (stem tag).tail, by simp [stem, delimiter]⟩
    have hshift : front ++ stem tag ++ delimiter tag ++ t =
        front ++ delimiter tag ++ ((delimiter tag).tail ++ t) := by
      simp [stem, delimiter]
    rw [hshift]
    exact readUpTo_append htag.dollar_not_mem hfront hend _

/-- A text with a longer and a shorter piece of the delimiter in it is read back, and one that ends
in the delimiter up to its last dollar sign is not. -/
theorem read?_wrap_pieces :
    (accepts "000000".toList "it's $q$ a trap $q00000".toList ∧
      read? (wrap "000000".toList "it's $q$ a trap $q00000".toList ++ " AND".toList) =
        some ("it's $q$ a trap $q00000".toList, " AND".toList)) ∧
      accepts "000000".toList "a$q000000".toList ∧
      read? (wrap "000000".toList "a$q000000".toList ++ " AND".toList) =
        some ("a".toList, "q000000$ AND".toList) := by
  have htag : IsTag "000000".toList := by decide
  have htrap : accepts "000000".toList "it's $q$ a trap $q00000".toList := by decide
  have hclosing : accepts "000000".toList "a$q000000".toList := by decide
  refine ⟨⟨htrap, ?_⟩, hclosing, ?_⟩
  · exact ((read?_wrap htag htrap " AND".toList).1 (by decide)).2
  · exact (read?_wrap htag hclosing " AND".toList).2 "a".toList rfl

/-- A tag that is accepted for a text does not always read back: the text of the first tag itself,
up to the last dollar sign, is accepted with that tag, which is the one chosen for it, and is read
as the empty text. -/
theorem not_read?_wrap_closing :
    IsTag "000000".toList ∧ choose 0 "$q000000" = "000000" ∧
      accepts "000000".toList "$q000000".toList ∧
      wrap "000000".toList "$q000000".toList = "$q000000$$q000000$q000000$".toList ∧
      read? (wrap "000000".toList "$q000000".toList) = some ([], "q000000$".toList) ∧
      ¬∀ tag s t, IsTag tag → accepts tag s → read? (wrap tag s ++ t) = some (s, t) := by
  have htag : IsTag "000000".toList := by decide
  have haccepts : accepts "000000".toList "$q000000".toList := by decide
  have hread : read? (wrap "000000".toList "$q000000".toList) = some ([], "q000000$".toList) := by
    decide
  refine ⟨htag, by decide, haccepts, rfl, hread, fun h => ?_⟩
  have hback := h "000000".toList "$q000000".toList [] htag haccepts
  rw [List.append_nil, hread] at hback
  cases hback

end SqlRender.DollarTag
