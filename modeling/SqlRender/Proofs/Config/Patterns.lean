import SqlRender.Proofs.Config.Sections
import SqlRender.Proofs.Results
import SqlRender.Proofs.Time.Pattern

/-!
# Patterns that never fail

The patterns of a configuration are tried on two samples, the start of 1970 without an offset and
with one. Since a pattern does not fail on account of the value, a pattern that passes writes every
value of its kind, and one that fails on any value does not pass. A dialect takes its patterns from
the section that counts or from the engine, so every timestamp has a literal on it.
-/

namespace SqlRender

/-- Every pattern that a section sets writes every value of its kind. -/
structure Overrides.Writes (o : Overrides) : Prop where
  stamp : ∀ pattern, o.timestampFormat = some pattern →
    ∀ t : Stamp, ∃ text, t.format? pattern = some text
  offsetStamp : ∀ pattern, o.timestampOffsetFormat = some pattern →
    ∀ t : OffsetStamp, ∃ text, t.format? pattern = some text

/-- Every timestamp has a literal on a dialect, whatever the number of the literal: the text that
the dialect's pattern writes. -/
structure Dialect.WritesStamps (d : Dialect) : Prop where
  stamp : ∀ t : Stamp, ∃ text, t.format? d.timestampFormat = some text ∧
    ∀ n, d.literal n (.dateTime t) = .ok (d.quoteText n text)
  offsetStamp : ∀ t : OffsetStamp, ∃ text, t.format? d.timestampOffsetFormat = some text ∧
    ∀ n, d.literal n (.dateTimeOffset t) = .ok (d.quoteText n text)

/-- A pattern that is not refused on a sample writes every value, when no value is refused by a
pattern that writes the sample. -/
theorem patternFault_eq_none_iff {α : Type} {format? : α → String → Option String} {sample : α}
    (hsample : ∀ {pattern}, (format? sample pattern).isSome →
      ∀ t, ∃ text, format? t pattern = some text)
    {set : Option String} {fault : String → ConfigFault} :
    (set.bind fun pattern =>
      if (format? sample pattern).isNone then some (fault pattern) else none) = none ↔
      ∀ pattern, set = some pattern → ∀ t, ∃ text, format? t pattern = some text := by
  rw [Option.bind_eq_none_iff]
  refine forall₂_congr fun pattern _ => ?_
  constructor
  · intro hnone
    apply hsample
    by_contra hrefused
    rw [if_pos (by simpa using hrefused)] at hnone
    cases hnone
  · intro h
    obtain ⟨text, htext⟩ := h sample
    rw [htext]
    rfl

namespace Config

variable {c : Config} {e : Engine} {name : String} {o : Overrides}

/-- Nothing is wrong with a section when its name is that of an engine, its patterns write every
value and its limit is not zero. -/
theorem sectionFault?_eq_none_iff : sectionFault? name o = none ↔
    (Engine.ofName? name).isSome ∧ o.Writes ∧ o.maxStatementLength ≠ some 0 := by
  unfold sectionFault?
  split
  · next hname => simp_all
  · next hname =>
    dsimp only
    rw [Option.or_eq_none_iff, Option.or_eq_none_iff,
      patternFault_eq_none_iff Stamp.format?_of_sample,
      patternFault_eq_none_iff OffsetStamp.format?_of_sample, ite_eq_right_iff]
    rw [Bool.not_eq_true, Option.isNone_eq_false_iff] at hname
    constructor
    · rintro ⟨⟨hstamp, hoffset⟩, hlimit⟩
      exact ⟨hname, ⟨hstamp, hoffset⟩, fun hzero => nomatch hlimit hzero⟩
    · rintro ⟨-, hwrites, hlimit⟩
      exact ⟨⟨hwrites.stamp, hwrites.offsetStamp⟩, fun hzero => absurd hzero hlimit⟩

/-- A configuration is sound when nothing is wrong with any of its sections. -/
theorem validate_eq_ok_iff : c.validate = .ok () ↔
    ∀ entry ∈ c.sections, sectionFault? entry.1 entry.2 = none := by
  unfold validate
  constructor
  · intro h
    split at h
    · cases h
    · next hnone => exact List.findSome?_eq_none_iff.mp hnone
  · intro h
    rw [List.findSome?_eq_none_iff.mpr h]

/-- The section that counts for an engine in a sound configuration writes every value. -/
theorem writes_of_validate (hvalid : c.validate = .ok ()) : ((c.section? e).getD {}).Writes := by
  cases hsection : c.section? e with
  | none => exact ⟨nofun, nofun⟩
  | some o =>
    obtain ⟨⟨name, _⟩, hentry, rfl⟩ := Option.map_eq_some_iff.mp hsection
    have hfault := validate_eq_ok_iff.mp hvalid _ (List.mem_of_find?_eq_some hentry)
    exact (sectionFault?_eq_none_iff.mp hfault).2.1

end Config

namespace Dialect

variable {d : Dialect} {e : Engine} {o : Overrides}

/-- The patterns of an engine write every value. -/
theorem writes_engine (e : Engine) :
    (∀ t : Stamp, ∃ text, t.format? e.profile.timestampFormat = some text) ∧
      ∀ t : OffsetStamp, ∃ text, t.format? e.profile.timestampOffsetFormat = some text := by
  have hstamp : ∀ e ∈ Engine.all,
      (Config.sample.format? e.profile.timestampFormat).isSome := by decide +kernel
  have hoffset : ∀ e ∈ Engine.all,
      (Config.offsetSample.format? e.profile.timestampOffsetFormat).isSome := by decide +kernel
  exact ⟨Stamp.format?_of_sample (hstamp e e.mem_all),
    OffsetStamp.format?_of_sample (hoffset e e.mem_all)⟩

/-- Every timestamp has a literal when the patterns write every value. -/
theorem writesStamps_of_format?
    (hstamp : ∀ t : Stamp, ∃ text, t.format? d.timestampFormat = some text)
    (hoffset : ∀ t : OffsetStamp, ∃ text, t.format? d.timestampOffsetFormat = some text) :
    d.WritesStamps where
  stamp t := by
    obtain ⟨text, htext⟩ := hstamp t
    exact ⟨text, htext, fun n => by simp only [literal, htext, stampLiteral]⟩
  offsetStamp t := by
    obtain ⟨text, htext⟩ := hoffset t
    exact ⟨text, htext, fun n => by simp only [literal, htext, stampLiteral]⟩

/-- Every timestamp has a literal on a dialect that follows a section whose patterns write every
value. -/
theorem Follows.writesStamps (h : d.Follows e o) (ho : o.Writes) : d.WritesStamps := by
  apply writesStamps_of_format?
  · rw [h.timestampFormat_eq]
    cases hset : o.timestampFormat with
    | none => exact (writes_engine e).1
    | some pattern => exact ho.stamp pattern hset
  · rw [h.timestampOffsetFormat_eq]
    cases hset : o.timestampOffsetFormat with
    | none => exact (writes_engine e).2
    | some pattern => exact ho.offsetStamp pattern hset

end Dialect

namespace Config

/-- Timestamps never fail on a dialect: not on one that a sound configuration makes, whatever its
patterns, and not on an engine's own. A configuration is not sound when a pattern that one of its
sections sets fails on any value of its kind. -/
theorem writesStamps_of_validate :
    (∀ (c : Config) (e : Engine), c.validate = .ok () →
      ∃ d, Dialect.ofConfig e c = .ok d ∧ d.WritesStamps) ∧
    (∀ e : Engine, (Dialect.ofEngine e).WritesStamps) ∧
    ∀ (c : Config) (name : String) (o : Overrides) (pattern : String), (name, o) ∈ c.sections →
      (o.timestampFormat = some pattern ∧ ∃ t : Stamp, t.format? pattern = none) ∨
        (o.timestampOffsetFormat = some pattern ∧ ∃ t : OffsetStamp, t.format? pattern = none) →
      ∃ fault, c.validate = .error (.config fault) := by
  refine ⟨fun c e hvalid => ?_, fun e => ?_, fun c name o pattern hentry hfails => ?_⟩
  · obtain ⟨d, hd, hfollows⟩ := Dialect.follows_of_validate e hvalid
    exact ⟨d, hd, hfollows.writesStamps (writes_of_validate hvalid)⟩
  · exact Dialect.writesStamps_of_format? (Dialect.writes_engine e).1 (Dialect.writes_engine e).2
  · have hinvalid : c.validate ≠ .ok () := by
      intro hvalid
      obtain ⟨-, hwrites, -⟩ := sectionFault?_eq_none_iff.mp (validate_eq_ok_iff.mp hvalid _ hentry)
      rcases hfails with ⟨hset, t, ht⟩ | ⟨hset, t, ht⟩
      · obtain ⟨text, htext⟩ := hwrites.stamp pattern hset t
        cases ht.symm.trans htext
      · obtain ⟨text, htext⟩ := hwrites.offsetStamp pattern hset t
        cases ht.symm.trans htext
    unfold validate at hinvalid ⊢
    split
    · next fault _ => exact ⟨fault, rfl⟩
    · next hnone => exact absurd (by rw [hnone]) hinvalid

/-- A leap second of a year before the first one has a literal under a pattern with flags and
fractions, also on a clock that is off by an odd number of seconds, and a pattern that shows the
offset is refused where the values have none. -/
theorem writesStamps_of_validate_leapSecond :
    (∃ d text offsetText, Dialect.ofConfig .mySql { sections :=
        [("mariadb", { timestampFormat := some "%_d %b %Y, %-I:%M:%S%.f %p" })] } = .ok d ∧
      d.literal 1 (.dateTime ⟨{ year := -44, month := 3, day := 15 },
        { hour := 23, minute := 59, second := 59, nanosecond := 1500000000 }⟩) =
          .ok (d.quoteText 1 text) ∧
      d.literal 2 (.dateTimeOffset ⟨⟨{ year := -44, month := 3, day := 15 },
        { hour := 23, minute := 59, second := 12, nanosecond := 1500000000 }⟩, -17783, by decide⟩) =
          .ok (d.quoteText 2 offsetText)) ∧
    ∃ fault, validate { sections := [("pg", { timestampFormat := some "%F %T %z" })] } =
      .error (.config fault) := by
  obtain ⟨hdialect, -, hfails⟩ := writesStamps_of_validate
  constructor
  · obtain ⟨d, hd, hwrites⟩ := hdialect { sections :=
      [("mariadb", { timestampFormat := some "%_d %b %Y, %-I:%M:%S%.f %p" })] } .mySql
      (eq_ok_of_toOption (by decide +kernel))
    obtain ⟨text, -, hliteral⟩ := hwrites.stamp _
    obtain ⟨offsetText, -, hoffset⟩ := hwrites.offsetStamp _
    exact ⟨d, text, offsetText, hd, hliteral 1, hoffset 2⟩
  · refine hfails _ "pg" { timestampFormat := some "%F %T %z" } "%F %T %z"
      (List.mem_singleton_self _) (.inl ⟨rfl, sample, ?_⟩)
    decide +kernel

end Config

end SqlRender
