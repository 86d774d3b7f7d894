import Mathlib.Data.List.TakeWhile
import SqlRender.Proofs.NativeType
import SqlRender.Proofs.Text.Respelled

/-!
# Native types read back

A catalog returns the text that a column was declared with, in the case and with the blanks of the
engine at hand. Reading it back gives the type of the column, up to the types that share its name:
the first of them in the table of the engine. A text with arguments is no full spelling, so it is
read by the name in front of them, and the names of a table come before every alias.
-/

namespace SqlRender

namespace NativeType

open Text (isBlank words unspaced Respells)

variable {s t : List Char} {entries entries' : List (List Char × DataType)}

/-! ### Names that are compared -/

/-- The words of a name in capital letters, with a blank between them. -/
theorem normalized_eq (s : List Char) :
    normalized s = [' '].intercalate ((words s).map (List.map Char.toUpper)) := by
  have hjoin : ∀ ws : List (List Char), ([' '].intercalate ws).map Char.toUpper =
      [' '].intercalate (ws.map (List.map Char.toUpper)) := by
    intro ws
    induction ws with
    | nil => rfl
    | cons word others ih =>
      cases others with
      | nil => simp
      | cons next others => simpa [List.intercalate_cons_cons] using ih
  exact hjoin (words s)

/-- A respelled name compares as the name. -/
theorem normalized_of_respells (h : Respells s t) : normalized t = normalized s := by
  rw [normalized_eq, normalized_eq, h.words_eq]

/-- A name in the form in which names are compared has the letters of the name, in capitals. -/
theorem unspaced_normalized (s : List Char) :
    unspaced (normalized s) = (unspaced s).map Char.toUpper := by
  have hjoin : ∀ ws : List (List Char), unspaced ([' '].intercalate ws) = unspaced ws.flatten := by
    intro ws
    induction ws with
    | nil => rfl
    | cons word others ih =>
      cases others with
      | nil => simp
      | cons next others =>
        rw [unspaced, unspaced] at ih ⊢
        rw [List.intercalate_cons_cons, List.filter_append, List.filter_append, ih,
          List.flatten_cons, List.filter_append]
        simp [isBlank]
  have hcase : (!isBlank ·) ∘ Char.toUpper = (!isBlank ·) := by
    funext c
    simp
  calc unspaced (normalized s)
      = (unspaced ([' '].intercalate (words s))).map Char.toUpper := by
        rw [unspaced, normalized, List.filter_map, hcase, unspaced]
    _ = (unspaced (unspaced s)).map Char.toUpper := by rw [hjoin, Text.flatten_words]
    _ = (unspaced s).map Char.toUpper := by simp [unspaced]

/-! ### Arguments -/

/-- The name in front of the arguments of a respelled text is respelled. -/
theorem bare_respells (h : Respells s t) : Respells (bare s) (bare t) :=
  h.takeWhile (by decide) (by decide)

/-- The part of a name in front of its arguments has no bracket. -/
theorem bracket_not_mem_bare (s : List Char) : '(' ∉ bare s := by
  intro h
  simpa using List.mem_takeWhile_imp h

/-- A name without a bracket has no arguments. -/
theorem bare_eq_self (h : '(' ∉ s) : bare s = s :=
  List.takeWhile_eq_self_iff.mpr fun c hc => by simpa using ne_of_mem_of_not_mem hc h

/-- A text is a name without a bracket up to its arguments. -/
theorem bare_append (h : '(' ∉ s) (args : List Char) : bare (s ++ '(' :: args) = s := by
  have hself : s.takeWhile (· != '(') = s := bare_eq_self h
  rw [bare, List.takeWhile_append, hself, if_pos rfl]
  simp

/-- A bracket stands in a name and in the form in which it is compared alike. -/
theorem bracket_mem_normalized : '(' ∈ normalized s ↔ '(' ∈ s := by
  rw [← Text.mem_unspaced rfl, unspaced_normalized, Text.mem_map_toUpper (by decide),
    Text.mem_unspaced rfl]

/-! ### Look-ups -/

/-- A name is looked for in the entries in front first. -/
theorem lookup?_append (name : List Char) :
    lookup? (entries ++ entries') name = (lookup? entries name).or (lookup? entries' name) := by
  rw [lookup?, List.find?_append, Option.map_or]
  rfl

/-- A name that differs from the name of every entry is not found. -/
theorem lookup?_eq_none {name : List Char} (h : ∀ entry ∈ entries, entry.1 ≠ name) :
    lookup? entries name = none := by
  simpa [lookup?] using h

end NativeType

/-- The text of a spelling is its name alone, or its name in front of a bracket. -/
theorem TypeSyntax.Writes.eq_plain_or_arguments {t : TypeSyntax} {c : Column} {s : String}
    (h : t.Writes c s) :
    t = .plain s ∨ t ≠ .plain t.name ∧ ∃ args, s.toList = t.name.toList ++ '(' :: args := by
  cases h with
  | plain => exact .inl rfl
  | @length name n hn | @within name n limit hn hlimit =>
    exact .inr ⟨by simp, (toString n).toList ++ [')'], by simp [TypeSyntax.name]⟩
  | @lengthPrecision name n p hn hp =>
    exact .inr ⟨by simp, (toString n).toList ++ ',' :: (toString p).toList ++ [')'],
      by simp [TypeSyntax.name]⟩
  | unbounded name hn => exact .inr ⟨by simp, "MAX)".toList, by simp [TypeSyntax.name]⟩

namespace Engine

open NativeType

variable {e : Engine} {c : Column} {type : DataType} {t : TypeSyntax} {s s' : String}
  {entry : DataType × TypeSyntax}

/-- A respelled text is read as the text. -/
theorem readType?_of_respells (h : Text.Respells s.toList s'.toList) :
    e.readType? s' = e.readType? s := by
  simp only [readType?]
  rw [normalized_of_respells h, normalized_of_respells (bare_respells h)]

/-! ### Tables -/

/-- The first type in the table of an engine that is written by a name. -/
def firstType? (e : Engine) (name : String) : Option DataType :=
  (e.profile.types.find? (·.2.name == name)).map (·.1)

/-- The entries in the table of an engine in front of that of a type. -/
def entriesBefore (e : Engine) (type : DataType) : List (DataType × TypeSyntax) :=
  e.profile.types.takeWhile (·.1 != type)

/-- The spelling of a type is one of the table's. -/
theorem mem_types (h : e.nativeType? type = some t) : (type, t) ∈ e.profile.types := by
  obtain ⟨entry, hfind, rfl⟩ := Option.map_eq_some_iff.mp h
  have htype : entry.1 = type := by simpa using List.find?_some hfind
  exact htype ▸ List.mem_of_find?_eq_some hfind

/-- A table has one entry for each of its types. -/
theorem nativeType?_of_mem (h : entry ∈ e.profile.types) : e.nativeType? entry.1 = some entry.2 := by
  have htables : ∀ e ∈ all, ∀ entry ∈ e.profile.types, e.nativeType? entry.1 = some entry.2 := by
    decide +kernel
  exact htables e e.mem_all entry h

/-- The names of a table are in the form in which names are compared. -/
theorem normalized_name (h : entry ∈ e.profile.types) :
    normalized entry.2.name.toList = entry.2.name.toList := by
  have htables : ∀ e ∈ all, ∀ entry ∈ e.profile.types,
      normalized entry.2.name.toList = entry.2.name.toList := by
    decide +kernel
  exact htables e e.mem_all entry h

/-- A name of a table is the name of some type, that of the first entry with the name. -/
theorem exists_firstType? (h : entry ∈ e.profile.types) :
    ∃ first t, e.firstType? entry.2.name = some first ∧ e.nativeType? first = some t ∧
      t.name = entry.2.name := by
  have hsome : (e.profile.types.find? (·.2.name == entry.2.name)).isSome := by
    rw [List.find?_isSome]
    exact ⟨entry, h, beq_self_eq_true _⟩
  obtain ⟨first, hfirst⟩ := Option.isSome_iff_exists.mp hsome
  have hname : first.2.name = entry.2.name := by simpa using List.find?_some hfirst
  exact ⟨first.1, first.2, by rw [firstType?, hfirst, Option.map_some],
    nativeType?_of_mem (List.mem_of_find?_eq_some hfirst), hname⟩

/-- A type is the first of its name if no entry in front of its own has the name. -/
theorem firstType?_eq_self (h : e.nativeType? type = some t)
    (hfirst : ∀ entry ∈ e.entriesBefore type, entry.2.name ≠ t.name) :
    e.firstType? t.name = some type := by
  obtain ⟨entry, hfind, rfl⟩ := Option.map_eq_some_iff.mp h
  obtain ⟨htype, before, after, htypes, hbefore⟩ := List.find?_eq_some_iff_append.mp hfind
  have hself : entry.1 = type := by simpa using htype
  have hentries : e.entriesBefore type = before := by
    rw [entriesBefore, htypes, List.takeWhile_append_of_pos fun a ha => by
      simpa [bne] using hbefore a ha]
    simp [hself]
  rw [hentries] at hfirst
  have hnone : before.find? (·.2.name == entry.2.name) = none := by simpa using hfirst
  rw [firstType?, htypes, List.find?_append, hnone]
  simp [hself]

/-! ### Look-ups in an index -/

/-- A name of a table is found in the index as the first type of that name. -/
theorem lookup?_name (h : e.nativeType? type = some t) :
    lookup? (index e.profile) (normalized t.name.toList) = e.firstType? t.name := by
  have htest : ∀ entry ∈ e.profile.types,
      ((·.1 == normalized t.name.toList) ∘ fun (entry : DataType × TypeSyntax) =>
        (normalized entry.2.name.toList, entry.1)) entry = (entry.2.name == t.name) := by
    intro entry hentry
    rw [Function.comp_apply, normalized_name (mem_types h), normalized_name hentry, Bool.eq_iff_iff,
      beq_iff_eq, beq_iff_eq, String.toList_inj]
  have htable : lookup? (e.profile.types.map fun entry =>
      (normalized entry.2.name.toList, entry.1)) (normalized t.name.toList) =
        e.firstType? t.name := by
    rw [lookup?, List.find?_map, ← List.head?_filter, List.filter_congr htest, List.head?_filter,
      Option.map_map]
    rfl
  obtain ⟨first, -, hfirst, -⟩ := exists_firstType? (mem_types h)
  rw [index, List.append_assoc, lookup?_append]
  exact (congrArg (Option.or · _) (htable.trans hfirst)).trans hfirst.symm

/-- A spelling that takes arguments has no bracket in its name, and no full spelling in the index
has that name in front of a bracket. -/
theorem not_full_spelling (h : e.nativeType? type = some t) (hargs : t ≠ .plain t.name) :
    '(' ∉ t.name.toList ∧ ∀ key ∈ index e.profile, '(' ∈ key.1 →
      bare (Text.unspaced key.1) ≠ (Text.unspaced t.name.toList).map Char.toUpper := by
  have htables : ∀ e ∈ all, ∀ entry ∈ e.profile.types, entry.2 ≠ .plain entry.2.name →
      '(' ∉ entry.2.name.toList ∧ ∀ key ∈ index e.profile, '(' ∈ key.1 →
        bare (Text.unspaced key.1) ≠ (Text.unspaced entry.2.name.toList).map Char.toUpper := by
    decide +kernel
  exact htables e e.mem_all (type, t) (mem_types h) hargs

/-- A name with arguments is no full spelling. -/
theorem lookup?_arguments (h : e.nativeType? type = some t) (hargs : t ≠ .plain t.name)
    (args : List Char) :
    lookup? (index e.profile) (normalized (t.name.toList ++ '(' :: args)) = none := by
  obtain ⟨hbare, hindex⟩ := not_full_spelling h hargs
  apply lookup?_eq_none
  intro key hkey hname
  have hmem : '(' ∈ key.1 := by
    rw [hname, bracket_mem_normalized]
    exact List.mem_append_right _ List.mem_cons_self
  have hopen : '(' ∉ (Text.unspaced t.name.toList).map Char.toUpper := by
    rwa [Text.mem_map_toUpper (by decide), Text.mem_unspaced rfl]
  apply hindex key hkey hmem
  rw [hname, unspaced_normalized, Text.unspaced_append, List.map_append]
  exact bare_append hopen _

/-- The text of a spelling is read as the first type of its name. -/
theorem readType?_of_writes (h : e.nativeType? type = some t) (ht : t.Writes c s) :
    e.readType? s = e.firstType? t.name := by
  simp only [readType?]
  rcases ht.eq_plain_or_arguments with rfl | ⟨hargs, args, hs⟩
  · obtain ⟨first, -, hfirst, -⟩ := exists_firstType? (mem_types h)
    have hname := lookup?_name h
    exact (congrArg (Option.or · _) (hname.trans hfirst)).trans hfirst.symm
  · rw [hs, lookup?_arguments h hargs, bare_append (not_full_spelling h hargs).1, Option.none_or,
      lookup?_name h]

/-! ### Columns -/

/-- The type of a column is read back from every respelling of its text: as a type of the same
name, and as the type itself if it is the first with that name. -/
theorem readType?_of_columnType (h : e.columnType c = .ok s)
    (hs : Text.Respells s.toList s'.toList) :
    ∃ read t t', e.readType? s' = some read ∧ e.nativeType? c.type = some t ∧
      e.nativeType? read = some t' ∧ t'.name = t.name ∧
      ((∀ entry ∈ e.entriesBefore c.type, entry.2.name ≠ t.name) → read = c.type) := by
  obtain ⟨t, hnative, ht⟩ := columnType_eq_ok_iff.mp h
  obtain ⟨read, t', hread, ht', hname⟩ := exists_firstType? (mem_types hnative)
  have hs' : e.readType? s' = some read := by
    rw [readType?_of_respells hs, readType?_of_writes hnative ht, hread]
  refine ⟨read, t, t', hs', hnative, ht', hname, ?_⟩
  intro hfirst
  rw [firstType?_eq_self hnative hfirst] at hread
  exact (Option.some.inj hread).symm

/-- The two words of a name are read in another case, apart and with blanks around them. -/
theorem readType?_of_columnType_twoWords :
    Engine.postgres.columnType { name := "ratio", type := .double } = .ok "DOUBLE PRECISION" ∧
      Text.Respells "DOUBLE PRECISION".toList " double\t precision\n".toList ∧
      Engine.postgres.readType? " double\t precision\n" = some .double := by
  have hcolumn : Engine.postgres.columnType { name := "ratio", type := .double } =
      .ok "DOUBLE PRECISION" := by rfl
  have hfirst : Text.Widens "DOUBLE".toList "double".toList :=
    Text.widens_of_map_toUpper (by decide +kernel)
  have hblank : Text.Widens [' '] ['\t', ' '] :=
    @Text.Widens.run ' ' ['\t', ' '] [] [] (by decide) (by decide) (by decide) .nil
  have hsecond : Text.Widens "PRECISION".toList "precision".toList :=
    Text.widens_of_map_toUpper (by decide +kernel)
  have hspelled : Text.Respells "DOUBLE PRECISION".toList " double\t precision\n".toList :=
    ⟨[' '], _, ['\n'], by decide, (hfirst.append hblank).append hsecond, by decide,
      by decide +kernel⟩
  obtain ⟨read, t, t', hread, ht, -, -, hself⟩ := readType?_of_columnType hcolumn hspelled
  cases ht
  rw [hself (by decide +kernel)] at hread
  exact ⟨hcolumn, hspelled, hread⟩

end Engine

end SqlRender
