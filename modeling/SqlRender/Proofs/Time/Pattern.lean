import SqlRender.Time.Pattern

/-!
# Which patterns can be filled in

A pattern is filled in item by item, and an item is refused for one reason only: it shows the
offset, and the stamp has none. The fields of the stamp have no say in it, however early or late
its year, so what one stamp can be written by every other stamp can be written by too.
-/

namespace SqlRender

namespace PatternItem

/-- Whether an item shows the offset. -/
def showsOffset : PatternItem → Bool
  | offset _ => true
  | text _ | number .. | word _ => false

/-- An item has a text when it does not show the offset or there is one. -/
theorem isSome_fill? (item : PatternItem) (s : Stamp) (offset : Option Int) :
    (item.fill? s offset).isSome = (!item.showsOffset || offset.isSome) := by
  cases item with
  | text c => rfl
  | number field padding => rfl
  | word field => rfl
  | offset field => exact Option.isSome_map

end PatternItem

namespace Pattern

/-- Whether a pattern shows the offset. -/
def showsOffset (p : Pattern) : Bool := List.any p PatternItem.showsOffset

/-- A pattern can be filled in when all of its items can. -/
theorem isSome_fill?_cons (item : PatternItem) (rest : Pattern) (s : Stamp) (offset : Option Int) :
    (fill? s offset (item :: rest)).isSome =
      ((item.fill? s offset).isSome && (fill? s offset rest).isSome) := by
  rw [fill?]
  cases item.fill? s offset with
  | none => rfl
  | some head =>
    cases fill? s offset rest with
    | none => rfl
    | some tail => rfl

/-- A pattern can be filled in when it does not show the offset or there is one. -/
theorem isSome_fill? (p : Pattern) (s : Stamp) (offset : Option Int) :
    (p.fill? s offset).isSome = (!p.showsOffset || offset.isSome) := by
  induction p with
  | nil => rfl
  | cons item rest ih =>
    calc (fill? s offset (item :: rest)).isSome
      _ = ((!item.showsOffset || offset.isSome) && (!showsOffset rest || offset.isSome)) := by
        rw [isSome_fill?_cons, item.isSome_fill?, ih]
      _ = (!(item.showsOffset || showsOffset rest) || offset.isSome) := by
        rw [Bool.not_or, Bool.or_and_distrib_right]

end Pattern

/-- A stamp can be written by a pattern when the pattern has a reading and does not show the
offset. -/
theorem Stamp.isSome_format? (s : Stamp) (pattern : String) :
    (s.format? pattern).isSome =
      (Pattern.read? pattern.toList).any fun p => !Pattern.showsOffset p := by
  rw [format?]
  cases Pattern.read? pattern.toList with
  | none => rfl
  | some p =>
    have hfill := Pattern.isSome_fill? p s none
    rw [Option.isSome_none, Bool.or_false] at hfill
    rw [Option.any_some, ← hfill]
    change ((Pattern.fill? s none p).bind fun text => some (String.ofList text)).isSome = _
    cases Pattern.fill? s none p <;> rfl

/-- A stamp with an offset can be written by a pattern when the pattern has a reading. -/
theorem OffsetStamp.isSome_format? (s : OffsetStamp) (pattern : String) :
    (s.format? pattern).isSome = (Pattern.read? pattern.toList).isSome := by
  rw [format?]
  cases Pattern.read? pattern.toList with
  | none => rfl
  | some p =>
    have hfill := Pattern.isSome_fill? p s.stamp (some s.offset)
    rw [Option.isSome_some, Bool.or_true] at hfill
    rw [Option.isSome_some, ← hfill]
    change ((Pattern.fill? s.stamp (some s.offset) p).bind
      fun text => some (String.ofList text)).isSome = _
    cases Pattern.fill? s.stamp (some s.offset) p <;> rfl

-- Where the seconds of an offset are not written, half a minute counts as a whole one.
example : OffsetStamp.format? ⟨⟨{ year := 2024, month := 2, day := 29 }, .midnight⟩, -5430,
    by decide⟩ "%z %:z %::z %:::z %Z" = some "-0131 -01:31 -01:30:30 -01 -01:30:30" := by
  decide +kernel

/-- What one stamp can be written by, every stamp can be written by. -/
theorem Stamp.format?_of_sample {sample : Stamp} {pattern : String}
    (h : (sample.format? pattern).isSome) (s : Stamp) : ∃ text, s.format? pattern = some text := by
  rw [isSome_format?] at h
  exact Option.isSome_iff_exists.mp ((s.isSome_format? pattern).trans h)

/-- What one stamp with an offset can be written by, every one can be written by. -/
theorem OffsetStamp.format?_of_sample {sample : OffsetStamp} {pattern : String}
    (h : (sample.format? pattern).isSome) (s : OffsetStamp) :
    ∃ text, s.format? pattern = some text := by
  rw [isSome_format?] at h
  exact Option.isSome_iff_exists.mp ((s.isSome_format? pattern).trans h)

end SqlRender
