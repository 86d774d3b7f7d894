import SqlRender.Dialect
import SqlRender.Proofs.Lists
import SqlRender.Wire.Config

/-!
# The sections of a configuration

However the sections of a configuration are written, they are kept in the order of their names. What
is kept under a name is what is written under it, so the order of writing does not matter. Of the
sections that go by a name of one engine, the one with the least name counts and the others have no
effect: the dialect of the engine has what that section sets, and for the rest the engine's own.
-/

namespace SqlRender

/-- Sections in the order of their names, each with a name of its own. -/
def InOrder (sections : List (String × Overrides)) : Prop :=
  sections.Pairwise fun a b => a.1 < b.1

variable {sections : List (String × Overrides)} {name : String} {o : Overrides}

/-- A section that has been put is found under its name, and no other section changes. -/
theorem lookup_putSection (name : String) (o : Overrides) (sections : List (String × Overrides))
    (other : String) : (putSection name o sections).lookup other =
      if other = name then some o else sections.lookup other := by
  induction sections with
  | nil => exact lookup_cons name o [] other
  | cons entry rest ih =>
    obtain ⟨key, old⟩ := entry
    rw [lookup_cons, putSection]
    split
    · next hkey =>
      rw [lookup_cons, ← hkey]
      split <;> rfl
    · next hkey =>
      split
      · rw [lookup_cons, lookup_cons]
      · rw [lookup_cons, ih]
        by_cases hother : other = key
        · rw [if_pos hother, if_neg (hother ▸ hkey), if_pos hother]
        · rw [if_neg hother, if_neg hother]

/-- A section behind the putting of another one is that one or was there before. -/
theorem mem_putSection {entry : String × Overrides} (h : entry ∈ putSection name o sections) :
    entry = (name, o) ∨ entry ∈ sections := by
  induction sections with
  | nil => exact .inl (List.mem_singleton.mp h)
  | cons first rest ih =>
    unfold putSection at h
    split at h
    · exact (List.mem_cons.mp h).imp_right (List.mem_cons_of_mem _)
    · split at h
      · exact List.mem_cons.mp h
      · rcases List.mem_cons.mp h with rfl | h
        · exact .inr List.mem_cons_self
        · exact (ih h).imp_right (List.mem_cons_of_mem _)

/-- Putting a section keeps the sections in order. -/
theorem InOrder.putSection (h : InOrder sections) : InOrder (putSection name o sections) := by
  induction sections with
  | nil => exact List.pairwise_singleton _ _
  | cons entry rest ih =>
    obtain ⟨key, old⟩ := entry
    obtain ⟨hbehind, hrest⟩ := List.pairwise_cons.mp h
    unfold SqlRender.putSection
    split
    · next hkey =>
      subst hkey
      exact List.pairwise_cons.mpr ⟨hbehind, hrest⟩
    · next hkey =>
      split
      · next hless =>
        refine List.pairwise_cons.mpr ⟨fun entry hentry => ?_, h⟩
        rcases List.mem_cons.mp hentry with rfl | hentry
        · exact hless
        · exact String.lt_trans hless (hbehind entry hentry)
      · next hless =>
        refine List.pairwise_cons.mpr ⟨fun entry hentry => ?_, ih hrest⟩
        rcases mem_putSection hentry with rfl | hentry
        · -- Of two different names that are not in one order, the other order holds.
          refine Decidable.byContradiction fun hnot => hkey ?_
          exact String.le_antisymm (String.not_lt.mp hless) (String.not_lt.mp hnot)
        · exact hbehind entry hentry

/-- What is read into sections that have been read: they stay in order, what is written under a name
is read and found there, and a name under which nothing is written keeps what it had. -/
theorem sections_of_fields {fields : List (String × Json)} {read : List (String × Overrides)}
    (hnames : (fields.map (·.1)).Nodup) (hsections : InOrder sections)
    (h : fields.foldlM (fun sections (name, j) =>
      (Overrides.ofJson? j).map fun o => putSection name o sections) sections = some read) :
    InOrder read ∧
      (∀ name j, fields.lookup name = some j →
        ∃ o, Overrides.ofJson? j = some o ∧ read.lookup name = some o) ∧
      ∀ name, fields.lookup name = none → read.lookup name = sections.lookup name := by
  induction fields generalizing sections with
  | nil =>
    cases h
    exact ⟨hsections, nofun, fun _ _ => rfl⟩
  | cons field rest ih =>
    obtain ⟨key, j⟩ := field
    rw [List.foldlM_cons] at h
    obtain ⟨put, hput, h⟩ := Option.bind_eq_some_iff.mp h
    obtain ⟨o, ho, rfl⟩ := Option.map_eq_some_iff.mp hput
    rw [List.map_cons, List.nodup_cons] at hnames
    obtain ⟨horder, hwritten, hkept⟩ := ih hnames.2 hsections.putSection h
    refine ⟨horder, fun name j' hj => ?_, fun name hnone => ?_⟩
    · rw [lookup_cons] at hj
      split at hj
      · next hname =>
        cases hj
        refine ⟨o, ho, ?_⟩
        rw [hname, hkept key (lookup_eq_none.mpr hnames.1), lookup_putSection, if_pos rfl]
      · exact hwritten name j' hj
    · rw [lookup_cons] at hnone
      split at hnone
      · cases hnone
      · next hname => rw [hkept name hnone, lookup_putSection, if_neg hname]

/-- The sections that are read from the fields of an object with distinct names are in order, and
each name has what is written under it. -/
theorem sections_of_read {fields : List (String × Json)} {read : List (String × Overrides)}
    (hnames : (fields.map (·.1)).Nodup) (h : readSections? (.object fields) = some read) :
    InOrder read ∧
      (∀ name j, fields.lookup name = some j →
        ∃ o, Overrides.ofJson? j = some o ∧ read.lookup name = some o) ∧
      ∀ name, fields.lookup name = none → read.lookup name = none :=
  sections_of_fields hnames List.Pairwise.nil h

/-- The section with the least name of an engine is the one that counts for it. -/
theorem Config.section_of_least {c : Config} {e : Engine} (horder : InOrder c.sections)
    (hlookup : c.sections.lookup name = some o) (hengine : Engine.ofName? name = some e)
    (hleast : ∀ other ∈ c.sections.map (·.1), Engine.ofName? other = some e → name ≤ other) :
    c.section? e = some o := by
  unfold Config.section?
  generalize c.sections = sections at *
  induction sections with
  | nil => cases hlookup
  | cons entry rest ih =>
    obtain ⟨key, old⟩ := entry
    obtain ⟨hbehind, hrest⟩ := List.pairwise_cons.mp horder
    by_cases hkey : name = key
    · subst hkey
      rw [List.lookup_cons_self] at hlookup
      cases hlookup
      rw [List.find?_cons_of_pos (by simp [hengine])]
      rfl
    · rw [lookup_cons, if_neg hkey] at hlookup
      have hnot : Engine.ofName? key ≠ some e := by
        intro hsame
        have hbefore : key < name := hbehind (name, o) (mem_of_lookup hlookup)
        exact String.not_lt.mpr (hleast key (by simp) hsame) hbefore
      rw [List.find?_cons_of_neg (by simpa using hnot)]
      exact ih hrest hlookup fun other hother => hleast other (List.mem_cons_of_mem _ hother)

/-- What a section sets, another one sets alike. -/
structure Overrides.Within (o o' : Overrides) : Prop where
  timestampFormat : ∀ pattern, o.timestampFormat = some pattern →
    o'.timestampFormat = some pattern
  timestampOffsetFormat : ∀ pattern, o.timestampOffsetFormat = some pattern →
    o'.timestampOffsetFormat = some pattern
  maxStatementLength : ∀ length, o.maxStatementLength = some length →
    o'.maxStatementLength = some length

/-- What a section sets, it sets alike. -/
theorem Overrides.Within.refl (o : Overrides) : o.Within o :=
  ⟨fun _ => id, fun _ => id, fun _ => id⟩

/-- A dialect has what a section sets. -/
structure Dialect.Has (d : Dialect) (o : Overrides) : Prop where
  timestampFormat : ∀ pattern, o.timestampFormat = some pattern → d.timestampFormat = pattern
  timestampOffsetFormat : ∀ pattern, o.timestampOffsetFormat = some pattern →
    d.timestampOffsetFormat = pattern
  maxStatementLength : ∀ length, o.maxStatementLength = some length →
    d.maxStatementLength = length

/-- A dialect has what a section sets, and for the rest the engine's own. -/
structure Dialect.Follows (d : Dialect) (e : Engine) (o : Overrides) : Prop where
  engine_eq : d.engine = e
  timestampFormat_eq : d.timestampFormat = o.timestampFormat.getD e.profile.timestampFormat
  timestampOffsetFormat_eq :
    d.timestampOffsetFormat = o.timestampOffsetFormat.getD e.profile.timestampOffsetFormat
  maxStatementLength_eq :
    d.maxStatementLength = o.maxStatementLength.getD e.profile.maxStatementLength

namespace Dialect

variable {d : Dialect} {e : Engine} {o o' : Overrides} {c : Config}

/-- A dialect that follows a section has what is set within it. -/
theorem Follows.has (h : d.Follows e o') (hwithin : o.Within o') : d.Has o where
  timestampFormat pattern hset := by
    rw [h.timestampFormat_eq, hwithin.timestampFormat pattern hset, Option.getD_some]
  timestampOffsetFormat pattern hset := by
    rw [h.timestampOffsetFormat_eq, hwithin.timestampOffsetFormat pattern hset, Option.getD_some]
  maxStatementLength length hset := by
    rw [h.maxStatementLength_eq, hwithin.maxStatementLength length hset, Option.getD_some]

/-- The dialect of an engine under a sound configuration follows the section that counts, or sets
nothing of its own when there is none. -/
theorem follows_of_validate (e : Engine) (hvalid : c.validate = .ok ()) :
    ∃ d, ofConfig e c = .ok d ∧ d.Follows e ((c.section? e).getD {}) := by
  have hconfig : ofConfig e c = .ok { ofEngine e with
      parameterized := c.parameterized
      strictPredicates := c.strictPredicates
      timestampFormat := ((c.section? e).getD {}).timestampFormat.getD e.profile.timestampFormat
      timestampOffsetFormat :=
        ((c.section? e).getD {}).timestampOffsetFormat.getD e.profile.timestampOffsetFormat
      maxStatementLength :=
        ((c.section? e).getD {}).maxStatementLength.getD e.profile.maxStatementLength } := by
    rw [ofConfig, hvalid]
    rfl
  exact ⟨_, hconfig, rfl, rfl, rfl, rfl⟩

/-- The dialect of an engine under a sound configuration follows the section that counts. -/
theorem follows_of_section (hvalid : c.validate = .ok ()) (h : c.section? e = some o) :
    ∃ d, ofConfig e c = .ok d ∧ d.Follows e o := by
  have hfollows := follows_of_validate e hvalid
  rwa [h, Option.getD_some] at hfollows

end Dialect

end SqlRender
