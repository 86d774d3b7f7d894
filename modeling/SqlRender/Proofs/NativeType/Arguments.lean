import SqlRender.Proofs.NativeType.Reader

/-!
# Native types with arguments

A catalog writes the arguments of a type behind the word that takes them, which need not be the last
one of the name: `timestamp(3) with time zone`. The reader leaves out the arguments together with
all that follows them, so it sees the words in front alone. Behind the last word nothing is lost,
and the arguments are ignored. Within a name they take the remaining words with them: the type that
is read is that of the words in front, if those make a name. One name of the tables, `TIMESTAMP
WITHOUT TIME ZONE`, has the type of its first word.
-/

namespace SqlRender

namespace NativeType

/-- A name with arguments in brackets between two parts of it. -/
def withArguments (front args back : List Char) : List Char := front ++ '(' :: (args ++ ')' :: back)

end NativeType

namespace Engine

open NativeType

variable {e : Engine} {name s : String} {front args back : List Char}

/-- The names that an engine's tables list: those its types are written by, and their aliases. -/
def typeNames (e : Engine) : List String :=
  e.profile.types.map (·.2.name) ++ e.profile.aliases.map (·.1)

/-- No alias has a bracket. -/
theorem bracket_not_mem_alias {entry : String × DataType} (h : entry ∈ e.profile.aliases) :
    '(' ∉ entry.1.toList := by
  have htables : ∀ e ∈ all, ∀ entry ∈ e.profile.aliases, '(' ∉ entry.1.toList := by
    decide +kernel
  exact htables e e.mem_all entry h

/-- A text with a bracket is found in the index as a full spelling of the table, or not at all. -/
theorem lookup?_bracket {text : List Char} (hopen : '(' ∈ text)
    (hfresh : ∀ entry ∈ e.profile.types, normalized entry.2.name.toList ≠ normalized text) :
    lookup? (index e.profile) (normalized text) = none := by
  have hbracket : ∀ {other : List Char}, '(' ∉ other → normalized other ≠ normalized text := by
    intro other hother hsame
    rw [← bracket_mem_normalized, ← hsame, bracket_mem_normalized] at hopen
    exact hother hopen
  apply lookup?_eq_none
  intro key hkey
  simp only [index, List.mem_append, List.mem_map] at hkey
  rcases hkey with (⟨entry, hentry, rfl⟩ | ⟨entry, hentry, rfl⟩) | ⟨entry, hentry, rfl⟩
  · exact hfresh entry hentry
  · exact hbracket (bracket_not_mem_alias hentry)
  · exact hbracket (bracket_not_mem_bare _)

/-- A name with arguments is read as the words in front of them. -/
theorem readType?_withArguments (hfront : '(' ∉ front)
    (hs : Text.Respells (withArguments front args back) s.toList)
    (hfresh : ∀ entry ∈ e.profile.types, normalized entry.2.name.toList ≠ normalized s.toList) :
    e.readType? s = e.readType? (String.ofList front) := by
  have hopen : '(' ∈ s.toList := by
    rw [← bracket_mem_normalized, normalized_of_respells hs, bracket_mem_normalized]
    exact List.mem_append_right _ List.mem_cons_self
  have hbare : normalized (bare s.toList) = normalized front := by
    rw [normalized_of_respells (bare_respells hs), withArguments, bare_append hfront]
  simp only [readType?, String.toList_ofList]
  rw [lookup?_bracket hopen hfresh, hbare, bare_eq_self hfront, Option.none_or, Option.or_self]

/-- The words at the front of a name are read as the name if they are all of it, and in one more
case. -/
theorem readType?_front_iff (hname : name ∈ e.typeNames) (hsplit : name.toList = front ++ back)
    (hword : Text.startsWord back = false) :
    e.readType? (String.ofList front) = e.readType? name ↔
      back = [] ∨ name = "TIMESTAMP WITHOUT TIME ZONE" ∧ back = " WITHOUT TIME ZONE".toList := by
  have htables : ∀ e ∈ all, ∀ name ∈ e.typeNames, ∀ count < name.toList.length,
      Text.startsWord (name.toList.drop count) = false →
        (e.readType? (String.ofList (name.toList.take count)) = e.readType? name ↔
          name = "TIMESTAMP WITHOUT TIME ZONE" ∧
            name.toList.drop count = " WITHOUT TIME ZONE".toList) := by
    decide +kernel
  by_cases hback : back = []
  · rw [hback, List.append_nil] at hsplit
    rw [← hsplit, String.ofList_toList]
    exact iff_of_true rfl (.inl hback)
  · have hcount : front.length < name.toList.length := by
      have hpos : 0 < back.length := List.length_pos_iff.mpr hback
      rw [hsplit, List.length_append]
      omega
    have hcut := htables e e.mem_all name hname front.length hcount
    rw [hsplit, List.take_left, List.drop_left] at hcut
    rw [hcut hword, or_iff_right hback]

/-- A listed name with arguments behind one of its words is read, in any case and with any blanks,
as the words in front of the arguments. That is the type of the name itself if the arguments stand
behind its last word, and for one name if they stand behind its first. -/
theorem readType?_of_arguments (hname : name ∈ e.typeNames) (hbare : '(' ∉ name.toList)
    (hsplit : name.toList = front ++ back) (hword : Text.startsWord back = false)
    (hs : Text.Respells (withArguments front args back) s.toList)
    (hfresh : ∀ entry ∈ e.profile.types, normalized entry.2.name.toList ≠ normalized s.toList) :
    e.readType? s = e.readType? (String.ofList front) ∧
      (e.readType? s = e.readType? name ↔
        back = [] ∨ name = "TIMESTAMP WITHOUT TIME ZONE" ∧ back = " WITHOUT TIME ZONE".toList) := by
  have hfront : '(' ∉ front := by
    rw [hsplit] at hbare
    exact fun hmem => hbare (List.mem_append_left _ hmem)
  have hread := readType?_withArguments hfront hs hfresh
  refine ⟨hread, ?_⟩
  rw [hread]
  exact readType?_front_iff hname hsplit hword

/-- The precision of a timestamp without a time zone is ignored. -/
theorem readType?_of_arguments_withoutTimeZone :
    Engine.postgres.readType? "timestamp(3) without time zone" =
      Engine.postgres.readType? "TIMESTAMP WITHOUT TIME ZONE" := by
  have hspelled : Text.Respells
      (withArguments "TIMESTAMP".toList ['3'] " WITHOUT TIME ZONE".toList)
      "timestamp(3) without time zone".toList :=
    ⟨[], _, [], rfl, Text.widens_of_map_toUpper (by decide +kernel), rfl, (List.append_nil _).symm⟩
  exact (readType?_of_arguments (by decide +kernel) (by decide +kernel) (by decide +kernel) rfl
    hspelled (by decide +kernel)).2.mpr (.inr ⟨rfl, rfl⟩)

/-- The precision of a timestamp with a time zone takes the time zone with it. -/
theorem not_readType?_withTimeZone :
    ¬ ∀ (e : Engine) (name : String) (front args back : List Char), name ∈ e.typeNames →
      '(' ∉ name.toList → ')' ∉ name.toList → '(' ∉ args → ')' ∉ args →
      name.toList = front ++ back → Text.startsWord back = false →
      (∀ entry ∈ e.profile.types,
        normalized entry.2.name.toList ≠ normalized (withArguments front args back)) →
      e.readType? (String.ofList (withArguments front args back)) = e.readType? name := by
  intro h
  let spelled := withArguments "TIMESTAMP".toList ['3'] " WITH TIME ZONE".toList
  have hsame : Engine.postgres.readType? (String.ofList spelled) =
      Engine.postgres.readType? "TIMESTAMP WITH TIME ZONE" :=
    h .postgres "TIMESTAMP WITH TIME ZONE" _ _ _ (by decide +kernel) (by decide +kernel)
      (by decide +kernel) (by decide) (by decide) (by decide +kernel) rfl (by decide +kernel)
  have hspelled : Text.Respells spelled (String.ofList spelled).toList := by
    rw [String.toList_ofList]
    exact Text.Respells.refl spelled
  have hfront : Engine.postgres.readType? (String.ofList spelled) =
      Engine.postgres.readType? "TIMESTAMP" :=
    readType?_withArguments (by decide +kernel) hspelled (by decide +kernel)
  have hplain : Engine.postgres.readType? "TIMESTAMP" = some .dateTime := by decide +kernel
  have hoffset : Engine.postgres.readType? "TIMESTAMP WITH TIME ZONE" = some .dateTimeOffset := by
    decide +kernel
  rw [hfront, hplain, hoffset] at hsame
  cases hsame

end Engine

end SqlRender
