import SqlRender.Config.Layers
import SqlRender.Proofs.Config.Sections
import SqlRender.Proofs.Toml.Overlay

/-!
# Merged documents

A configuration in layers is read from one document, that of the overlay laid over that of the base.
The sections of the merged document are those of the overlay laid over those of the base, name by
name. A section is laid over one of the same name only, and then it keeps all that it sets, because a
setting is neither an array nor a table: in the two together it is the one of the upper section.
-/

namespace SqlRender

namespace Toml

/-- The entries of a table; any other value has none. -/
def entries : Toml → List (String × Toml)
  | table entries => entries
  | _ => []

/-- The sections of a document, by their names. -/
def sections (t : Toml) : List (String × Toml) :=
  ((t.entries.lookup "dialects").map entries).getD []

/-- The sections that go by a name of an engine. -/
def sectionsOf (t : Toml) (e : Engine) : List (String × Toml) :=
  t.sections.filter fun entry => Engine.ofName? entry.1 == some e

/-- What a section sets, read as a merged document is. -/
def overrides? (t : Toml) : Option Overrides := Overrides.ofJson? t.toJson.portable

variable {t below above merged : Toml} {e : Engine} {name : String}

/-- The entries of a table as the fields of an object, as a merged document has them. -/
def fields (entries : List (String × Toml)) : List (String × Json) :=
  Json.portableFields (entriesToJson entries)

/-- A table is an object with its entries for fields. -/
theorem portable_table (entries : List (String × Toml)) :
    (table entries).toJson.portable = .object (fields entries) := by
  rw [toJson, Json.portable, fields]

/-- The fields have the names of the entries. -/
theorem names_fields (entries : List (String × Toml)) :
    (fields entries).map (·.1) = entries.map (·.1) := by
  unfold fields
  induction entries with
  | nil => rfl
  | cons entry rest ih =>
    rw [entriesToJson, Json.portableFields, List.map_cons, ih, List.map_cons]

/-- A field has what the entry of its name has. -/
theorem lookup_fields (entries : List (String × Toml)) (name : String) :
    (fields entries).lookup name =
      (entries.lookup name).map fun value => value.toJson.portable := by
  unfold fields
  induction entries with
  | nil => rfl
  | cons entry rest ih =>
    obtain ⟨key, value⟩ := entry
    rw [entriesToJson, Json.portableFields, lookup_cons, lookup_cons, ih]
    split <;> rfl

/-- A value with entries is a table. -/
theorem eq_table (h : t.entries ≠ []) : t = .table t.entries := by
  cases t with
  | table entries => rfl
  | _ => exact absurd rfl h

/-- The entries of a value with distinct names have distinct names, and so has each of them. -/
theorem Distinct.entries (h : t.Distinct) :
    (t.entries.map (·.1)).Nodup ∧ ∀ entry ∈ t.entries, entry.2.Distinct := by
  cases h with
  | scalar hscalar =>
    cases t with
    | table entries => cases hscalar
    | _ => exact ⟨List.nodup_nil, nofun⟩
  | array hitems => exact ⟨List.nodup_nil, nofun⟩
  | table hnames hentries => exact ⟨hnames, hentries⟩

/-- The sections of a document with distinct names have distinct names. -/
theorem nodup_sections (h : t.Distinct) : (t.sections.map (·.1)).Nodup := by
  unfold sections
  cases hlookup : t.entries.lookup "dialects" with
  | none => exact List.nodup_nil
  | some value => exact (h.entries.2 _ (mem_of_lookup hlookup)).entries.1

/-- A section of an engine is a section that goes by a name of the engine. -/
theorem mem_sectionsOf {entry : String × Toml} :
    entry ∈ t.sectionsOf e ↔ entry ∈ t.sections ∧ Engine.ofName? entry.1 = some e := by
  rw [sectionsOf, List.mem_filter, beq_iff_eq]

/-- What is laid over a value has its entries laid over those of the value. -/
theorem entries_of_overlay (h : below.overlay? above = some merged)
    (habove : above = .table above.entries) : merged = .table merged.entries ∧
      overlayEntries? below.entries above.entries = some merged.entries := by
  rw [habove] at h
  cases below with
  | table base =>
    rw [overlay?] at h
    obtain ⟨entries, hentries, rfl⟩ := Option.map_eq_some_iff.mp h
    exact ⟨rfl, hentries⟩
  | _ => cases h

/-- The sections of an overlay are laid over those of its base. -/
theorem sections_of_overlay (h : below.overlay? above = some merged) (hne : above.sections ≠ []) :
    merged = .table merged.entries ∧
      merged.entries.lookup "dialects" = some (.table merged.sections) ∧
      overlayEntries? below.sections above.sections = some merged.sections := by
  unfold sections at hne ⊢
  cases habove : above.entries.lookup "dialects" with
  | none =>
    rw [habove] at hne
    exact absurd rfl hne
  | some upper =>
    rw [habove] at hne
    have hupper : upper.entries ≠ [] := hne
    have hentries : above.entries ≠ [] := by
      intro hnil
      rw [hnil] at habove
      cases habove
    obtain ⟨hmerged, hoverlay⟩ := entries_of_overlay h (eq_table hentries)
    refine ⟨hmerged, ?_⟩
    have hover := over_of_overlayEntries hoverlay "dialects"
    rw [habove] at hover
    generalize below.entries.lookup "dialects" = base,
      merged.entries.lookup "dialects" = value at hover ⊢
    cases hover with
    | both hboth =>
      obtain ⟨hvalue, hsections⟩ := entries_of_overlay hboth (eq_table hupper)
      exact ⟨congrArg some hvalue, hsections⟩
    | upper => exact ⟨congrArg some (eq_table hupper), rfl⟩

end Toml

namespace Json

/-- The field of an object is looked up by its name. -/
theorem field_eq_lookup (name : String) (fields : List (String × Json)) :
    field? name fields = fields.lookup name := by
  induction fields with
  | nil => rfl
  | cons field rest ih =>
    obtain ⟨other, value⟩ := field
    rw [field?, lookup_cons, ih]
    simp only [eq_comm]

end Json

namespace Config

open Toml

variable {t : Toml} {c : Config} {j : Json}

/-- The sections of a configuration are those that are read under their name. -/
theorem sections_of_ofJson (h : ofJson? j = some c) :
    Json.defaulted? readSections? []
      (j.member? ["parameterized", "strict_predicates", "dialects"] "dialects") =
        some c.sections := by
  unfold ofJson? at h
  obtain ⟨-, -, h⟩ := Option.bind_eq_some_iff.mp h
  obtain ⟨parameterized, -, h⟩ := Option.bind_eq_some_iff.mp h
  obtain ⟨strict, -, h⟩ := Option.bind_eq_some_iff.mp h
  obtain ⟨sections, hsections, h⟩ := Option.bind_eq_some_iff.mp h
  cases h
  exact hsections

/-- The configuration of a document is sound, and its sections are read from those of the
document. -/
theorem sections_of_ofMerged (h : ofMerged t = .ok c) (htable : t = .table t.entries)
    (hsections : t.entries.lookup "dialects" = some (.table t.sections)) :
    c.validate = .ok () ∧ readSections? (.object (Toml.fields t.sections)) = some c.sections := by
  unfold ofMerged at h
  cases hread : ofJson? t.toJson.portable with
  | none =>
    rw [hread] at h
    cases h
  | some read =>
    rw [hread] at h
    obtain ⟨⟨⟩, hvalid, hc⟩ := bind_eq_ok h
    cases hc
    have hmember := sections_of_ofJson hread
    rw [htable, portable_table, Json.member?, Json.field_eq_lookup, lookup_fields, hsections,
      Option.map_some, portable_table] at hmember
    exact ⟨hvalid, hmember⟩

variable {files : Files} {path base overlay : String} {warnings : List String}
  {below above merged : Toml}

/-- A document that is loaded has distinct names. -/
theorem distinct_of_loadToml (h : loadToml files path = .ok t) : t.Distinct := by
  unfold loadToml at h
  split at h
  · cases h
  · split at h
    · next read hread =>
      split at h
      · cases h
        exact (distinct_of_parse hread).1
      · cases h
    · cases h

/-- There is a file where a document is loaded. -/
theorem isPresent_of_loadToml (h : loadToml files path = .ok t) : (files path).isPresent := by
  unfold loadToml at h
  cases hfile : files path with
  | text content => rfl
  | missing reason =>
    rw [hfile] at h
    cases h
  | unreadable reason => rfl

/-- An overlay that is there and cannot be loaded fails the whole configuration with its error. -/
theorem loadLayered_of_overlayError {fault : Error} (hbelow : loadToml files base = .ok below)
    (hpresent : (files overlay).isPresent) (habove : loadToml files overlay = .error fault) :
    loadLayered files base overlay = ([], .error fault) := by
  unfold loadLayered
  rw [hbelow]
  dsimp only
  rw [if_pos hpresent, habove]
  rfl

/-- A configuration in layers is that of the overlay laid over the base. -/
theorem merged_of_loadLayered (h : loadLayered files base overlay = (warnings, .ok c))
    (hbelow : loadToml files base = .ok below) (habove : loadToml files overlay = .ok above) :
    ∃ merged, below.overlay? above = some merged ∧ ofMerged merged = .ok c := by
  unfold loadLayered at h
  rw [hbelow] at h
  dsimp only at h
  rw [if_pos (isPresent_of_loadToml habove)] at h
  obtain ⟨loaded, hloaded, hlayers⟩ := bind_eq_ok (congrArg Prod.snd h)
  rw [habove] at hloaded
  cases hloaded
  cases hmerged : below.overlay? above with
  | none =>
    rw [hmerged] at hlayers
    cases hlayers
  | some merged =>
    rw [hmerged] at hlayers
    exact ⟨merged, rfl, hlayers⟩

end Config

namespace Toml

variable {base upper merged : Option Toml}

/-- What is read of a value that is laid over another one is read of the two together, where no
array or object is read. -/
theorem optional_of_over {α : Type} {read : Json → Option α}
    (harray : ∀ items, read (.array items) = none)
    (hobject : ∀ fields, read (.object fields) = none) (h : Over base upper merged) {r : Option α}
    (hr : Json.optional? read (merged.map fun value => value.toJson.portable) = some r) :
    ∃ r', Json.optional? read (upper.map fun value => value.toJson.portable) = some r' ∧
      ∀ a, r' = some a → r = some a := by
  cases h with
  | base => exact ⟨none, rfl, nofun⟩
  | upper => exact ⟨r, hr, fun _ => id⟩
  | @both base upper merged hboth =>
    cases hscalar : merged.isScalar with
    | true =>
      rw [eq_upper_of_isScalar hboth hscalar] at hr
      exact ⟨r, hr, fun _ => id⟩
    | false =>
      -- Neither an array nor a table is read at all.
      exfalso
      cases merged with
      | array items =>
        rw [Option.map_some, toJson, Json.portable] at hr
        simp [Json.optional?, harray] at hr
      | table entries =>
        rw [Option.map_some, portable_table] at hr
        simp [Json.optional?, hobject] at hr
      | _ => cases hscalar

/-- A table sets what is read under the names of the settings. -/
theorem overrides_table {entries : List (String × Toml)} {o : Overrides} :
    (table entries).overrides? = some o ↔
      Json.optional? Json.string? ((entries.lookup "timestamp_format").map
          fun value => value.toJson.portable) = some o.timestampFormat ∧
        Json.optional? Json.string? ((entries.lookup "timestamp_offset_format").map
          fun value => value.toJson.portable) = some o.timestampOffsetFormat ∧
        Json.optional? (Json.natBelow? UInt64.size) ((entries.lookup "max_statement_length").map
          fun value => value.toJson.portable) = some o.maxStatementLength := by
  simp only [← lookup_fields, ← Json.field_eq_lookup]
  unfold overrides?
  rw [portable_table]
  constructor
  · intro h
    obtain ⟨-, -, h⟩ := Option.bind_eq_some_iff.mp h
    obtain ⟨stamp, hstamp, h⟩ := Option.bind_eq_some_iff.mp h
    obtain ⟨offset, hoffset, h⟩ := Option.bind_eq_some_iff.mp h
    obtain ⟨length, hlength, h⟩ := Option.bind_eq_some_iff.mp h
    cases h
    exact ⟨hstamp, hoffset, hlength⟩
  · rintro ⟨hstamp, hoffset, hlength⟩
    unfold Overrides.ofJson?
    refine Option.bind_eq_some_iff.mpr ⟨(), rfl, ?_⟩
    refine Option.bind_eq_some_iff.mpr ⟨_, hstamp, ?_⟩
    refine Option.bind_eq_some_iff.mpr ⟨_, hoffset, ?_⟩
    exact Option.bind_eq_some_iff.mpr ⟨_, hlength, rfl⟩

/-- What a section sets that is laid over another one, the two together set alike. -/
theorem within_of_overlay {b s m : Toml} {o : Overrides} (h : b.overlay? s = some m)
    (htable : s = .table s.entries) (ho : m.overrides? = some o) :
    ∃ o', s.overrides? = some o' ∧ o'.Within o := by
  obtain ⟨hmerged, hentries⟩ := entries_of_overlay h htable
  rw [hmerged] at ho
  obtain ⟨hstamp, hoffset, hlength⟩ := overrides_table.mp ho
  have hover := over_of_overlayEntries hentries
  obtain ⟨stamp, hstamp', hstampSet⟩ :=
    optional_of_over (fun _ => rfl) (fun _ => rfl) (hover "timestamp_format") hstamp
  obtain ⟨offset, hoffset', hoffsetSet⟩ :=
    optional_of_over (fun _ => rfl) (fun _ => rfl) (hover "timestamp_offset_format") hoffset
  obtain ⟨length, hlength', hlengthSet⟩ :=
    optional_of_over (fun _ => rfl) (fun _ => rfl) (hover "max_statement_length") hlength
  rw [htable]
  exact ⟨⟨stamp, offset, length⟩, overrides_table.mpr ⟨hstamp', hoffset', hlength'⟩,
    hstampSet, hoffsetSet, hlengthSet⟩

end Toml

end SqlRender
