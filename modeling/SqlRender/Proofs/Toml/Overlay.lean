import SqlRender.Proofs.Toml.Distinct

/-!
# Tables laid over each other

What a name has in a table with another one laid over it depends on what it has in the two tables
alone: with a value in both, the upper one laid over the lower one, and otherwise the value that is
there. A value that is neither an array nor a table is the upper one. Distinct names stay distinct.
-/

namespace SqlRender

namespace Toml

/-- What there is under a name when there is something under it in a table, in one that is laid over
it, and in the two together. -/
inductive Over : Option Toml → Option Toml → Option Toml → Prop
  | both {base upper merged : Toml} (h : base.overlay? upper = some merged) :
      Over (some base) (some upper) (some merged)
  | base (base : Toml) : Over (some base) none (some base)
  | upper (upper : Option Toml) : Over none upper upper

variable {base upper merged : List (String × Toml)}

/-- The first entry of a table is laid over by the entry of its name, and the others by the other
entries. -/
theorem overlayEntries_cons {name : String} {value : Toml}
    (h : overlayEntries? ((name, value) :: base) upper = some merged) :
    ∃ first others, Over (some value) (upper.lookup name) (some first) ∧
      overlayEntries? base (upper.filter (·.1 != name)) = some others ∧
      merged = (name, first) :: others := by
  rw [overlayEntries?] at h
  cases hupper : upper.lookup name with
  | none =>
    rw [hupper] at h
    have hrest := (Option.bind_some _ _).symm.trans h
    obtain ⟨others, hothers, hmerged⟩ := Option.bind_eq_some_iff.mp hrest
    exact ⟨value, others, .base value, hothers, (Option.some.inj hmerged).symm⟩
  | some other =>
    rw [hupper] at h
    obtain ⟨first, hfirst, hrest⟩ := Option.bind_eq_some_iff.mp h
    obtain ⟨others, hothers, hmerged⟩ := Option.bind_eq_some_iff.mp hrest
    exact ⟨first, others, .both hfirst, hothers, (Option.some.inj hmerged).symm⟩

/-- What a name has in tables that are laid over each other. -/
theorem over_of_overlayEntries (h : overlayEntries? base upper = some merged) (name : String) :
    Over (base.lookup name) (upper.lookup name) (merged.lookup name) := by
  induction base generalizing upper merged with
  | nil =>
    cases h
    exact .upper _
  | cons entry rest ih =>
    obtain ⟨other, value⟩ := entry
    obtain ⟨first, others, hfirst, hothers, rfl⟩ := overlayEntries_cons h
    by_cases hname : name = other
    · subst hname
      rwa [List.lookup_cons_self, List.lookup_cons_self]
    · have hrest := ih hothers
      rw [lookup_filter_ne hname] at hrest
      rwa [lookup_cons, lookup_cons, if_neg hname, if_neg hname]

/-- Nothing is under a name that is in neither table. -/
theorem Over.eq_none {base upper merged : Option Toml} (h : Over base upper merged) :
    merged = none ↔ base = none ∧ upper = none := by
  cases h <;> simp

/-- A name that the upper table does not have keeps what it has. -/
theorem Over.eq_base {base : Toml} {merged : Option Toml} (h : Over (some base) none merged) :
    merged = some base := by
  cases h
  rfl

/-- Tables with distinct names have distinct names when they are laid over each other. -/
theorem nodup_overlayEntries (h : overlayEntries? base upper = some merged)
    (hbase : (base.map (·.1)).Nodup) (hupper : (upper.map (·.1)).Nodup) :
    (merged.map (·.1)).Nodup := by
  induction base generalizing upper merged with
  | nil =>
    cases h
    exact hupper
  | cons entry rest ih =>
    obtain ⟨name, value⟩ := entry
    obtain ⟨first, others, -, hothers, rfl⟩ := overlayEntries_cons h
    rw [List.map_cons, List.nodup_cons] at hbase ⊢
    refine ⟨?_, ih hothers hbase.2 (hupper.sublist (List.filter_sublist.map _))⟩
    rw [← lookup_eq_none, (over_of_overlayEntries hothers name).eq_none, lookup_eq_none,
      lookup_eq_none]
    exact ⟨hbase.1, by simp⟩

/-- A value that is neither an array nor a table is the one that is laid over. -/
theorem eq_upper_of_isScalar {base upper merged : Toml} (h : base.overlay? upper = some merged)
    (hscalar : merged.isScalar) : merged = upper := by
  unfold overlay? at h
  split at h
  case h_7 =>
    obtain ⟨entries, -, rfl⟩ := Option.map_eq_some_iff.mp h
    cases hscalar
  case h_8 => cases h
  case h_6 =>
    cases h
    cases hscalar
  all_goals
    cases h
    rfl

end Toml

end SqlRender
