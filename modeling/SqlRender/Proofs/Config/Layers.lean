import SqlRender.Proofs.Config.Merged

/-!
# A base with an overlay

The files are merged by the names of their sections, and an engine has several names. Of the
sections of one engine that are left in the merged document the one with the least name counts. So
an overlay that has a section of an engine wins over its base when no section of the engine in the
base has a name that comes before, as it does when both files use one name. When the base has such a
section, that one counts alone: what the overlay sets is read and checked, and not used.
-/

namespace SqlRender

namespace Config

open Toml

variable {files : Files} {base overlay name : String} {warnings : List String} {c : Config}
  {below above s : Toml} {e : Engine} {merged : List (String × Toml)}

/-- What is known of a configuration in layers, when the overlay has a section: it is sound, and its
sections are those of the overlay laid over those of the base, in the order of their names. -/
structure Layers (below above : Toml) (c : Config) (merged : List (String × Toml)) : Prop where
  below_nodup : (below.sections.map (·.1)).Nodup
  above_nodup : (above.sections.map (·.1)).Nodup
  merged_eq : overlayEntries? below.sections above.sections = some merged
  valid : c.validate = .ok ()
  inOrder : InOrder c.sections
  /-- What is written under a name is read and found there. -/
  read : ∀ name v, merged.lookup name = some v →
    ∃ o, v.overrides? = some o ∧ c.sections.lookup name = some o
  /-- Nothing is found under a name under which nothing is written. -/
  unread : ∀ name, merged.lookup name = none → c.sections.lookup name = none

/-- What is known of a configuration that is loaded in layers. -/
theorem layers_of_loadLayered (hload : loadLayered files base overlay = (warnings, .ok c))
    (hbelow : loadToml files base = .ok below) (habove : loadToml files overlay = .ok above)
    (hne : above.sections ≠ []) : ∃ merged, Layers below above c merged := by
  obtain ⟨merged, hmerged, hc⟩ := merged_of_loadLayered hload hbelow habove
  obtain ⟨htable, hlookup, hsections⟩ := sections_of_overlay hmerged hne
  obtain ⟨hvalid, hread⟩ := sections_of_ofMerged hc htable hlookup
  have hlower := nodup_sections (distinct_of_loadToml hbelow)
  have hupper := nodup_sections (distinct_of_loadToml habove)
  have hnames : ((Toml.fields merged.sections).map (·.1)).Nodup := by
    rw [names_fields]
    exact nodup_overlayEntries hsections hlower hupper
  obtain ⟨horder, hwritten, hnone⟩ := sections_of_read hnames hread
  refine ⟨merged.sections, hlower, hupper, hsections, hvalid, horder, fun name v hv => ?_,
    fun name hv => ?_⟩
  · refine hwritten name v.toJson.portable ?_
    rw [lookup_fields, hv, Option.map_some]
  · refine hnone name ?_
    rw [lookup_fields, hv, Option.map_none]

namespace Layers

/-- A section of an engine in a configuration in layers goes by the name of the engine's section in
the overlay or of one in the base. -/
theorem name_of_mem (h : Layers below above c merged) (honly : above.sectionsOf e = [(name, s)])
    {other : String} (hother : other ∈ c.sections.map (·.1))
    (hengine : Engine.ofName? other = some e) :
    other = name ∨ ∃ entry ∈ below.sectionsOf e, entry.1 = other := by
  have hmerged : merged.lookup other ≠ none := fun hnone =>
    lookup_eq_none.mp (h.unread other hnone) hother
  rw [Ne, (over_of_overlayEntries h.merged_eq other).eq_none, not_and_or] at hmerged
  rcases hmerged with hbelow | habove
  · obtain ⟨v, hv⟩ := Option.ne_none_iff_exists'.mp hbelow
    exact .inr ⟨(other, v), mem_sectionsOf.mpr ⟨mem_of_lookup hv, hengine⟩, rfl⟩
  · obtain ⟨v, hv⟩ := Option.ne_none_iff_exists'.mp habove
    have hmem : (other, v) ∈ above.sectionsOf e :=
      mem_sectionsOf.mpr ⟨mem_of_lookup hv, hengine⟩
    rw [honly] at hmem
    exact .inl (congrArg Prod.fst (List.mem_singleton.mp hmem))

/-- The name of a section of the overlay has all that the section sets, when it is a table or the
base has no section of that name. -/
theorem within (h : Layers below above c merged) (habove : (name, s) ∈ above.sections)
    (hplain : s = .table s.entries ∨ below.sections.lookup name = none) :
    ∃ o o', s.overrides? = some o ∧ c.sections.lookup name = some o' ∧ o.Within o' := by
  have hover := over_of_overlayEntries h.merged_eq name
  rw [lookup_of_mem h.above_nodup habove] at hover
  generalize below.sections.lookup name = base, hmerged : merged.lookup name = value
    at hover hplain
  cases hover with
  | upper =>
    obtain ⟨o, ho, hlookup⟩ := h.read name s hmerged
    exact ⟨o, o, ho, hlookup, .refl o⟩
  | both hboth =>
    obtain ⟨o', ho', hlookup⟩ := h.read name _ hmerged
    rcases hplain with htable | hnone
    · obtain ⟨o, ho, hwithin⟩ := within_of_overlay hboth htable ho'
      exact ⟨o, o', ho, hlookup, hwithin⟩
    · cases hnone

/-- The name of a section of the base has what the section sets, when the overlay's section of the
engine goes by another name. -/
theorem read_below (h : Layers below above c merged) (honly : above.sectionsOf e = [(name, s)])
    {key : String} {b : Toml} (hentry : (key, b) ∈ below.sectionsOf e) (hne : key ≠ name) :
    ∃ o, b.overrides? = some o ∧ c.sections.lookup key = some o := by
  obtain ⟨hbase, hengine⟩ := mem_sectionsOf.mp hentry
  have hnone : above.sections.lookup key = none := by
    refine Option.eq_none_iff_forall_ne_some.mpr fun v hv => ?_
    have hmem : (key, v) ∈ above.sectionsOf e := mem_sectionsOf.mpr ⟨mem_of_lookup hv, hengine⟩
    rw [honly] at hmem
    exact hne (congrArg Prod.fst (List.mem_singleton.mp hmem))
  have hover := over_of_overlayEntries h.merged_eq key
  rw [lookup_of_mem h.below_nodup hbase, hnone] at hover
  exact h.read key b hover.eq_base

/-- The dialect of an engine has what the overlay's section sets, when no section of the engine in
the base has a name that comes before. -/
theorem has_of_first (h : Layers below above c merged) (honly : above.sectionsOf e = [(name, s)])
    (hleast : ∀ entry ∈ below.sectionsOf e, name ≤ entry.1)
    (hplain : s = .table s.entries ∨ below.sections.lookup name = none) :
    ∃ d o, Dialect.ofConfig e c = .ok d ∧ s.overrides? = some o ∧ d.Has o := by
  have hmem : (name, s) ∈ above.sectionsOf e := honly ▸ List.mem_singleton_self _
  obtain ⟨hsection, hengine⟩ := mem_sectionsOf.mp hmem
  obtain ⟨o, o', ho, hread, hwithin⟩ := h.within hsection hplain
  have hcounts : c.section? e = some o' := by
    refine section_of_least h.inOrder hread hengine fun other hother hsame => ?_
    rcases h.name_of_mem honly hother hsame with rfl | ⟨entry, hentry, rfl⟩
    · exact String.le_refl _
    · exact hleast entry hentry
  obtain ⟨d, hd, hfollows⟩ := Dialect.follows_of_section h.valid hcounts
  exact ⟨d, o, hd, ho, hfollows.has hwithin⟩

/-- The dialect of an engine follows the first section of the engine in the base alone, when its
name comes before that of the overlay's section. -/
theorem follows_of_before (h : Layers below above c merged)
    (honly : above.sectionsOf e = [(name, s)]) {key : String} {b : Toml}
    (hentry : (key, b) ∈ below.sectionsOf e) (hbefore : key < name)
    (hleast : ∀ other ∈ below.sectionsOf e, key ≤ other.1) :
    ∃ d o, Dialect.ofConfig e c = .ok d ∧ b.overrides? = some o ∧ d.Follows e o := by
  have hne : key ≠ name := by
    rintro rfl
    exact String.lt_irrefl _ hbefore
  obtain ⟨o, ho, hread⟩ := h.read_below honly hentry hne
  have hcounts : c.section? e = some o := by
    refine section_of_least h.inOrder hread (mem_sectionsOf.mp hentry).2
      fun other hother hsame => ?_
    rcases h.name_of_mem honly hother hsame with rfl | ⟨entry, hentry', rfl⟩
    · exact String.not_lt.mp fun hafter => String.lt_irrefl _ (String.lt_trans hbefore hafter)
    · exact hleast entry hentry'
  obtain ⟨d, hd, hfollows⟩ := Dialect.follows_of_section h.valid hcounts
  exact ⟨d, o, hd, ho, hfollows⟩

end Layers

/-- The dialect of an engine has what the engine's section in an overlay sets, unless the base has a
section of the engine under a name that comes before: then it follows the first of those, and what
the overlay sets is not used. -/
theorem dialect_of_layers (hload : loadLayered files base overlay = (warnings, .ok c))
    (hbelow : loadToml files base = .ok below) (habove : loadToml files overlay = .ok above)
    (honly : above.sectionsOf e = [(name, s)]) :
    ((∀ entry ∈ below.sectionsOf e, name ≤ entry.1) →
      (s = .table s.entries ∨ below.sections.lookup name = none) →
        ∃ d o, Dialect.ofConfig e c = .ok d ∧ s.overrides? = some o ∧ d.Has o) ∧
    ∀ entry ∈ below.sectionsOf e, entry.1 < name →
      (∀ other ∈ below.sectionsOf e, entry.1 ≤ other.1) →
        ∃ d o, Dialect.ofConfig e c = .ok d ∧ entry.2.overrides? = some o ∧ d.Follows e o := by
  have hmem : (name, s) ∈ above.sectionsOf e := honly ▸ List.mem_singleton_self _
  have hne : above.sections ≠ [] := List.ne_nil_of_mem (mem_sectionsOf.mp hmem).1
  obtain ⟨merged, hlayers⟩ := layers_of_loadLayered hload hbelow habove hne
  exact ⟨hlayers.has_of_first honly, fun entry => hlayers.follows_of_before honly⟩

/-- The text of a section that sets the greatest length of a statement. -/
def lengthSection (name : String) (length : Nat) : String :=
  "[dialects." ++ name ++ "]\nmax_statement_length = " ++ toString length ++ "\n"

/-- A base that takes long statements and an overlay that takes short ones, each with one section
under a name. -/
def lengthFiles (base overlay : String) : Files
  | "base.toml" => .text (lengthSection base 4096)
  | "overlay.toml" => .text (lengthSection overlay 64)
  | path => .missing path

/-- A document that is loaded with one section of an engine. -/
theorem section_of_load {path : String} {o : Overrides}
    (h : (loadToml files path).toOption.map (fun t => (t.sectionsOf e).map fun entry =>
      (entry.1, entry.2.overrides?)) = some [(name, some o)]) :
    ∃ t s, loadToml files path = .ok t ∧ t.sectionsOf e = [(name, s)] ∧ s.overrides? = some o := by
  obtain ⟨t, ht, hsections⟩ := Option.map_eq_some_iff.mp h
  obtain ⟨⟨key, s⟩, hsection, hread⟩ := List.map_eq_singleton_iff.mp hsections
  obtain ⟨rfl, ho⟩ := Prod.mk.inj hread
  exact ⟨t, s, eq_ok_of_toOption ht, hsection, ho⟩

/-- The overlay's section is used when its name comes first. -/
theorem dialect_of_layers_first : ∃ c d,
    loadLayered (lengthFiles "sqlserver" "mssql") "base.toml" "overlay.toml" = ([], .ok c) ∧
      Dialect.ofConfig .sqlServer c = .ok d ∧ d.maxStatementLength = 64 := by
  have hload : loadLayered (lengthFiles "sqlserver" "mssql") "base.toml" "overlay.toml" =
      ([], .ok { sections := [("mssql", { maxStatementLength := some 64 }),
        ("sqlserver", { maxStatementLength := some 4096 })] }) :=
    Prod.ext (by decide +kernel) (eq_ok_of_toOption (by decide +kernel))
  obtain ⟨below, b, hbelow, hbase, -⟩ : ∃ t s,
      loadToml (lengthFiles "sqlserver" "mssql") "base.toml" = .ok t ∧
        t.sectionsOf .sqlServer = [("sqlserver", s)] ∧
        s.overrides? = some { maxStatementLength := some 4096 } :=
    section_of_load (by decide +kernel)
  obtain ⟨above, s, habove, honly, ho⟩ : ∃ t s,
      loadToml (lengthFiles "sqlserver" "mssql") "overlay.toml" = .ok t ∧
        t.sectionsOf .sqlServer = [("mssql", s)] ∧
        s.overrides? = some { maxStatementLength := some 64 } :=
    section_of_load (by decide +kernel)
  have hbefore : "mssql" ≤ "sqlserver" := by decide
  have hfirst : ∀ entry ∈ below.sectionsOf .sqlServer, "mssql" ≤ entry.1 := by
    intro entry hentry
    rw [hbase] at hentry
    rwa [List.mem_singleton.mp hentry]
  have hname : Engine.ofName? "mssql" = some .sqlServer := by decide +kernel
  have hother : below.sections.lookup "mssql" = none := by
    refine Option.eq_none_iff_forall_ne_some.mpr fun v hv => ?_
    have hmem : ("mssql", v) ∈ below.sectionsOf .sqlServer :=
      mem_sectionsOf.mpr ⟨mem_of_lookup hv, hname⟩
    rw [hbase, List.mem_singleton] at hmem
    have hne : "mssql" ≠ "sqlserver" := by decide
    exact hne (congrArg Prod.fst hmem)
  obtain ⟨d, o, hd, ho', hhas⟩ :=
    (dialect_of_layers hload hbelow habove honly).1 hfirst (.inr hother)
  cases ho.symm.trans ho'
  exact ⟨_, d, hload, hd, hhas.maxStatementLength 64 rfl⟩

/-- The overlay's section is not used when the base names the engine by a name that comes before:
the overlay sets a length of 64, and the dialect has that of the base. -/
theorem not_has_lengthFiles : ∃ above s o c d,
    loadToml (lengthFiles "mssql" "sqlserver") "overlay.toml" = .ok above ∧
      above.sectionsOf .sqlServer = [("sqlserver", s)] ∧ s.overrides? = some o ∧
      o.maxStatementLength = some 64 ∧
      loadLayered (lengthFiles "mssql" "sqlserver") "base.toml" "overlay.toml" = ([], .ok c) ∧
      Dialect.ofConfig .sqlServer c = .ok d ∧ d.maxStatementLength = 4096 ∧ ¬d.Has o := by
  have hload : loadLayered (lengthFiles "mssql" "sqlserver") "base.toml" "overlay.toml" =
      ([], .ok { sections := [("mssql", { maxStatementLength := some 4096 }),
        ("sqlserver", { maxStatementLength := some 64 })] }) :=
    Prod.ext (by decide +kernel) (eq_ok_of_toOption (by decide +kernel))
  obtain ⟨above, s, habove, honly, ho⟩ : ∃ t s,
      loadToml (lengthFiles "mssql" "sqlserver") "overlay.toml" = .ok t ∧
        t.sectionsOf .sqlServer = [("sqlserver", s)] ∧
        s.overrides? = some { maxStatementLength := some 64 } :=
    section_of_load (by decide +kernel)
  have hvalid : validate { sections := [("mssql", { maxStatementLength := some 4096 }),
      ("sqlserver", { maxStatementLength := some 64 })] } = .ok () :=
    eq_ok_of_toOption (by decide +kernel)
  obtain ⟨d, hd, hfollows⟩ := Dialect.follows_of_section (e := .sqlServer)
    (o := { maxStatementLength := some 4096 }) hvalid (by decide +kernel)
  refine ⟨above, s, _, _, d, habove, honly, ho, rfl, hload, hd, hfollows.maxStatementLength_eq,
    fun hhas => ?_⟩
  have hlength := hhas.maxStatementLength 64 rfl
  rw [hfollows.maxStatementLength_eq] at hlength
  cases hlength

end Config

end SqlRender
