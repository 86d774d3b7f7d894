import SqlRender.Proofs.Lists
import SqlRender.Proofs.NativeType
import SqlRender.Table

/-!
# The tables that are created

A table is created from exactly those lists of columns that the engine can hold: each column is
sound by itself and of a type that the engine has, and at most one is a key, which the engine can
index. The statement then has one definition for each column, in their order. All of this is said
here without the order of the checks, which decides only which of several faults is reported.
-/

namespace SqlRender

/-- The bytes that a character takes in a key of a text type; keys of other types are not
measured. -/
def KeyLimit.perCharacter (limit : KeyLimit) : DataType → Nat
  | .varchar => limit.varcharBytes
  | .nvarchar => limit.nvarcharBytes
  | _ => 0

namespace Dialect

variable {d : Dialect} {c key : Column} {table : String} {columns : List Column} {s s' : String}

/-- A key that the engine can index: its type may be a key, has a length where it would otherwise
have no bound, and takes no more bytes than a key may. -/
structure KeyFits (d : Dialect) (key : Column) : Prop where
  type_mem : key.type ∈ d.profile.keyTypes
  bounded : ∀ name limit, d.engine.nativeType? key.type = some (.lengthOrMax name limit) →
    ∃ n, key.maxLength = some n ∧ n ≤ limit
  bytes_le : ∀ limit n, d.profile.keyLimit = some limit → key.maxLength = some n →
    n * limit.perCharacter key.type ≤ limit.maxBytes

/-- Columns that the engine can hold in one table. -/
structure Renderable (d : Dialect) (columns : List Column) : Prop where
  ne_nil : columns ≠ []
  valid : ∀ c ∈ columns, c.validate = .ok ()
  one_key : (columns.filter (·.primaryKey)).length ≤ 1
  key_fits : ∀ c ∈ columns, c.primaryKey → d.KeyFits c
  native : ∀ c ∈ columns, (d.engine.nativeType? c.type).isSome

/-- What stands behind the name of a column. A whole-number key is counted up by the engine, by
words behind its type or by a type of its own; any other key is declared as one, and any other
column says whether it takes null. -/
inductive Declares (d : Dialect) (c : Column) : String → Prop
  | counted {native words : String} (hkey : c.primaryKey) (htype : c.type.isIntegral)
    (hidentity : d.profile.identity = .suffix words) (hnative : d.engine.Spells c native) :
    Declares d c (native ++ " " ++ words)
  | serial {int long words : String} (hkey : c.primaryKey) (htype : c.type.isIntegral)
    (hidentity : d.profile.identity = .replaceType int long words) :
    Declares d c ((if c.type = .long then long else int) ++ " " ++ words)
  | key {native : String} (hkey : c.primaryKey) (htype : c.type.isIntegral = false)
    (hnative : d.engine.Spells c native) : Declares d c (native ++ " NOT NULL PRIMARY KEY")
  | nullable {native : String} (hkey : c.primaryKey = false) (hnull : c.nullable)
    (hnative : d.engine.Spells c native) : Declares d c native
  | notNull {native : String} (hkey : c.primaryKey = false) (hnull : c.nullable = false)
    (hnative : d.engine.Spells c native) : Declares d c (native ++ " NOT NULL")

/-- The definition of a column: its quoted name and what stands behind it. -/
def Defines (d : Dialect) (c : Column) (definition : String) : Prop :=
  ∃ declared, d.Declares c declared ∧ definition = d.quoteName c.name ++ " " ++ declared

/-- The statement that creates a table, with a definition for each column in their order. -/
def Creates (d : Dialect) (table : String) (columns : List Column) (sql : String) : Prop :=
  ∃ definitions, List.Forall₂ d.Defines columns definitions ∧
    sql = "CREATE TABLE " ++ d.quoteName table ++ " (\n  " ++
      String.intercalate ",\n  " definitions ++ "\n)"

/-- A statement is accepted when the engine takes one of its length. -/
theorem checkLength_eq_ok_iff :
    d.checkLength s = .ok () ↔ s.utf8ByteSize ≤ d.maxStatementLength := by
  rw [checkLength]
  split
  · next hover => simpa using hover
  · next hfits => simpa using hfits

/-- The size of a key is accepted when it is bounded and within the bytes of a key. -/
theorem checkKeySize_eq_ok_iff : d.checkKeySize key = .ok () ↔
    (∀ name limit, d.engine.nativeType? key.type = some (.lengthOrMax name limit) →
      ∃ n, key.maxLength = some n ∧ n ≤ limit) ∧
    ∀ limit n, d.profile.keyLimit = some limit → key.maxLength = some n →
      n * limit.perCharacter key.type ≤ limit.maxBytes := by
  unfold checkKeySize KeyLimit.perCharacter
  simp only [bind, Except.bind, throw, throwThe, MonadExceptOf.throw, pure, Except.pure]
  cases key.maxLength with
  | none => grind
  | some n => grind

/-- A key is accepted when the engine can index it. -/
theorem checkKey_eq_ok_iff : d.checkKey key = .ok () ↔ d.KeyFits key := by
  unfold checkKey
  constructor
  · intro h
    split at h
    · next htype =>
      obtain ⟨hbounded, hbytes⟩ := checkKeySize_eq_ok_iff.mp h
      exact ⟨List.contains_iff_mem.mp htype, hbounded, hbytes⟩
    · cases h
  · intro h
    rw [if_pos (List.contains_iff_mem.mpr h.type_mem)]
    exact checkKeySize_eq_ok_iff.mpr ⟨h.bounded, h.bytes_le⟩

/-- The keys of a table are accepted when there is at most one and the engine can index it. -/
theorem checkKeys_eq_ok_iff : d.checkKeys table columns = .ok () ↔
    (columns.filter (·.primaryKey)).length ≤ 1 ∧ ∀ c ∈ columns, c.primaryKey → d.KeyFits c := by
  have hkeys : (∀ c ∈ columns, c.primaryKey → d.KeyFits c) ↔
      ∀ c ∈ columns.filter (·.primaryKey), d.KeyFits c := by
    simp only [List.mem_filter, and_imp]
  rw [hkeys, checkKeys]
  generalize columns.filter (·.primaryKey) = keys
  match keys with
  | [] => simp
  | [key] => simp [checkKey_eq_ok_iff]
  | _ :: _ :: _ => simp

/-- What stands behind the name of a whole-number key. -/
theorem identityText_eq_ok_iff (hkey : c.primaryKey) (htype : c.type.isIntegral) :
    d.identityText c = .ok s ↔ d.Declares c s := by
  unfold identityText
  constructor
  · intro h
    split at h
    · next words hidentity =>
      obtain ⟨native, hnative, h⟩ := bind_eq_ok h
      cases h
      exact .counted hkey htype hidentity (Engine.columnType_eq_ok_iff.mp hnative)
    · next int long words hidentity =>
      cases h
      exact .serial hkey htype hidentity
  · intro h
    cases h with
    | counted _ _ hidentity hnative =>
      rw [hidentity]
      simp only [Engine.columnType_eq_ok_iff.mpr hnative]
      rfl
    | serial _ _ hidentity => rw [hidentity]
    | key _ hother => rw [htype] at hother; cases hother
    | nullable hother | notNull hother => rw [hkey] at hother; cases hother

/-- What stands behind the name of a column is what the column declares. -/
theorem columnText_eq_ok_iff : d.columnText c = .ok s ↔ d.Declares c s := by
  cases hkey : c.primaryKey with
  | true =>
    cases htype : c.type.isIntegral with
    | true =>
      rw [columnText, if_pos hkey, if_pos htype]
      exact identityText_eq_ok_iff hkey htype
    | false =>
      simp only [columnText, hkey, htype, if_true, Bool.false_eq_true, if_false]
      constructor
      · intro h
        obtain ⟨native, hnative, h⟩ := bind_eq_ok h
        cases h
        exact .key hkey htype (Engine.columnType_eq_ok_iff.mp hnative)
      · intro h
        cases h with
        | counted _ hother | serial _ hother => rw [htype] at hother; cases hother
        | key _ _ hnative =>
          rw [Engine.columnType_eq_ok_iff.mpr hnative]
          rfl
        | nullable hother | notNull hother => rw [hkey] at hother; cases hother
  | false =>
    simp only [columnText, hkey, Bool.false_eq_true, if_false]
    constructor
    · intro h
      obtain ⟨native, hnative, h⟩ := bind_eq_ok h
      have hnative := Engine.columnType_eq_ok_iff.mp hnative
      cases hnull : c.nullable with
      | true =>
        rw [hnull] at h
        cases h
        simpa using Declares.nullable hkey hnull hnative
      | false =>
        rw [hnull] at h
        cases h
        exact .notNull hkey hnull hnative
    · intro h
      cases h with
      | counted hother | serial hother | key hother => rw [hkey] at hother; cases hother
      | nullable _ hnull hnative =>
        rw [Engine.columnType_eq_ok_iff.mpr hnative, hnull]
        simp [bind, Except.bind, pure, Except.pure]
      | notNull _ hnull hnative =>
        rw [Engine.columnType_eq_ok_iff.mpr hnative, hnull]
        rfl

/-- The definition of a column is made when the column declares something. -/
theorem columnDefinition_eq_ok_iff : d.columnDefinition c = .ok s ↔ d.Defines c s := by
  constructor
  · intro h
    obtain ⟨declared, hdeclared, h⟩ := bind_eq_ok h
    exact ⟨declared, columnText_eq_ok_iff.mp hdeclared, (Except.ok.inj h).symm⟩
  · rintro ⟨declared, hdeclared, rfl⟩
    rw [columnDefinition, columnText_eq_ok_iff.mpr hdeclared]
    rfl

/-- The definitions of columns are made one by one. -/
theorem mapM_columnDefinition_eq_ok_iff {definitions : List String} :
    columns.mapM d.columnDefinition = .ok definitions ↔
      List.Forall₂ d.Defines columns definitions := by
  simp only [mapM_eq_ok, columnDefinition_eq_ok_iff]

/-- A column that passes its checks has a definition on an engine that has its type. -/
theorem exists_defines (h : c.validate = .ok ())
    (hnative : (d.engine.nativeType? c.type).isSome) : ∃ s, d.Defines c s := by
  obtain ⟨native, hspells⟩ := Engine.exists_spells h hnative
  cases hkey : c.primaryKey with
  | true =>
    cases htype : c.type.isIntegral with
    | true =>
      cases hidentity : d.profile.identity with
      | suffix words => exact ⟨_, _, .counted hkey htype hidentity hspells, rfl⟩
      | replaceType int long words => exact ⟨_, _, .serial hkey htype hidentity, rfl⟩
    | false => exact ⟨_, _, .key hkey htype hspells, rfl⟩
  | false =>
    cases hnull : c.nullable with
    | true => exact ⟨_, _, .nullable hkey hnull hspells, rfl⟩
    | false => exact ⟨_, _, .notNull hkey hnull hspells, rfl⟩

/-- A column with a definition is of a type that the engine has. -/
theorem Defines.isSome_nativeType? (h : d.Defines c s) :
    (d.engine.nativeType? c.type).isSome := by
  have hspells : ∀ {native}, d.engine.Spells c native → (d.engine.nativeType? c.type).isSome :=
    fun ⟨t, hnative, _⟩ => Option.isSome_iff_exists.mpr ⟨t, hnative⟩
  obtain ⟨declared, hdeclared, -⟩ := h
  cases hdeclared with
  | counted _ _ _ hnative | key _ _ hnative | nullable _ _ hnative | notNull _ _ hnative =>
    exact hspells hnative
  | serial _ htype =>
    -- The native type is not written here, but every engine has one.
    obtain ⟨name, hnative, -⟩ := d.engine.exists_nativeType?_of_isIntegral htype
    exact hspells ⟨_, hnative, .plain name⟩

/-- A text without a bracket or without the letter X names no unbounded type. -/
theorem not_max_of_not_mem (h : 'X' ∉ s.toList ∨ '(' ∉ s.toList) :
    ¬ "(MAX)".toList <:+: s.toList := by
  intro hmax
  rcases h with h | h
  · exact h (hmax.subset (by decide))
  · exact h (hmax.subset (by decide))

/-- No word of a key that an engine counts up has the letter X. -/
theorem identity_not_mem (e : Engine) :
    (∀ words, e.profile.identity = .suffix words → 'X' ∉ words.toList) ∧
    ∀ int long words, e.profile.identity = .replaceType int long words →
      'X' ∉ int.toList ∧ 'X' ∉ long.toList ∧ 'X' ∉ words.toList := by
  cases e with
  | sqlServer | mySql =>
    constructor
    · intro words hwords
      cases hwords
      decide +kernel
    · nofun
  | postgres | sqlite =>
    constructor
    · nofun
    · intro int long words hwords
      cases hwords
      decide +kernel

/-- The declaration of a key that the engine can index names no unbounded type. -/
theorem Declares.not_max (h : d.Declares c s) (hkey : c.primaryKey) (hfits : d.KeyFits c) :
    ¬ "(MAX)".toList <:+: s.toList := by
  apply not_max_of_not_mem
  obtain ⟨hsuffix, hreplace⟩ := identity_not_mem d.engine
  cases h with
  | counted _ htype hidentity hnative =>
    -- The words may have brackets, so here it is the letter that is missing.
    obtain ⟨name, hplain, hname⟩ := d.engine.exists_nativeType?_of_isIntegral htype
    obtain ⟨t, ht, hwrites⟩ := hnative
    rw [hplain] at ht
    cases ht
    cases hwrites with
    | plain =>
      left
      simpa [hname] using hsuffix _ hidentity
  | serial _ _ hidentity =>
    obtain ⟨hint, hlong, hwords⟩ := hreplace _ _ _ hidentity
    left
    split
    · simpa [hlong] using hwords
    · simpa [hint] using hwords
  | key _ _ hnative => simpa using hnative.not_mem hfits.bounded
  | nullable hother | notNull hother => rw [hkey] at hother; cases hother

/-- The columns of a table that is rendered have one statement that creates it. -/
theorem Renderable.existsUnique_creates (h : d.Renderable columns) (table : String) :
    ∃! sql, d.Creates table columns sql := by
  cases hmade : columns.mapM d.columnDefinition with
  | error e =>
    obtain ⟨c, hc, hfail⟩ := mapM_eq_error hmade
    obtain ⟨s, hs⟩ := exists_defines (h.valid c hc) (h.native c hc)
    rw [columnDefinition_eq_ok_iff.mpr hs] at hfail
    cases hfail
  | ok definitions =>
    refine ⟨_, ⟨definitions, mapM_columnDefinition_eq_ok_iff.mp hmade, rfl⟩, ?_⟩
    rintro sql ⟨definitions', hdefines, rfl⟩
    rw [mapM_columnDefinition_eq_ok_iff.mpr hdefines] at hmade
    rw [Except.ok.inj hmade]

/-- A table is created from the columns that can be rendered, by the statement with a definition for
each of them, when the engine takes a statement of that length. -/
theorem createTable_eq_ok {sql : String} : d.createTable table columns = .ok sql ↔
    d.Renderable columns ∧ d.Creates table columns sql ∧
      sql.utf8ByteSize ≤ d.maxStatementLength := by
  constructor
  · intro h
    unfold createTable at h
    split at h
    · cases h
    · next hempty =>
      obtain ⟨⟨⟩, hvalid, h⟩ := bind_eq_ok h
      obtain ⟨⟨⟩, hkeys, h⟩ := bind_eq_ok h
      obtain ⟨definitions, hdefinitions, h⟩ := bind_eq_ok h
      obtain ⟨⟨⟩, hlength, h⟩ := bind_eq_ok h
      cases h
      obtain ⟨hone, hfits⟩ := checkKeys_eq_ok_iff.mp hkeys
      have hdefines := mapM_columnDefinition_eq_ok_iff.mp hdefinitions
      have hnative : ∀ c ∈ columns, (d.engine.nativeType? c.type).isSome := fun c hc =>
        (exists_of_forall₂ hdefines c hc).elim fun _ hdefine => hdefine.isSome_nativeType?
      exact ⟨⟨by simpa using hempty, forM_eq_ok.mp hvalid, hone, hfits, hnative⟩,
        ⟨definitions, hdefines, rfl⟩, checkLength_eq_ok_iff.mp hlength⟩
  · rintro ⟨hrenderable, ⟨definitions, hdefines, rfl⟩, hlength⟩
    have hempty : ¬ columns.isEmpty = true := by simpa using hrenderable.ne_nil
    have hkeys : d.checkKeys table columns = .ok () :=
      checkKeys_eq_ok_iff.mpr ⟨hrenderable.one_key, hrenderable.key_fits⟩
    rw [createTable, if_neg hempty, forM_eq_ok.mpr hrenderable.valid, hkeys,
      mapM_columnDefinition_eq_ok_iff.mpr hdefines]
    simp only [bind, Except.bind, pure, Except.pure, checkLength_eq_ok_iff.mpr hlength]

/-- Everything that a dialect says about a table that is created. It is created from exactly the
columns that can be rendered, by one statement with a definition for each of them in their order,
if the engine takes a statement of that length. The type of a column that passes its checks is never
found to be incomplete, and no key is declared with an unbounded type. -/
theorem createTable_spec (d : Dialect) (table : String) (columns : List Column) :
    (∀ sql, d.createTable table columns = .ok sql ↔
      d.Renderable columns ∧ d.Creates table columns sql ∧
        sql.utf8ByteSize ≤ d.maxStatementLength) ∧
    (d.Renderable columns → ∃! sql, d.Creates table columns sql) ∧
    (∀ c ∈ columns, c.validate = .ok () →
      ∀ cause, d.engine.columnType c ≠ .error (.malformed cause)) ∧
    ((∃ sql, d.createTable table columns = .ok sql) →
      ∀ c ∈ columns, c.primaryKey → ∀ declared, d.Declares c declared →
        ¬ "(MAX)".toList <:+: declared.toList) := by
  refine ⟨fun sql => createTable_eq_ok, fun h => h.existsUnique_creates table,
    fun c _ hvalid => Engine.columnType_ne_malformed hvalid, ?_⟩
  rintro ⟨sql, hcreated⟩ c hc hkey declared hdeclared
  obtain ⟨hrenderable, -⟩ := createTable_eq_ok.mp hcreated
  exact hdeclared.not_max hkey (hrenderable.key_fits c hc hkey)

/-- Columns with a text for a key, and a longer text than SQL Server bounds. -/
def articleColumns : List Column := [
  { name := "code", type := .nvarchar, primaryKey := true, maxLength := some 450,
    nullable := false },
  { name := "body", type := .nvarchar, maxLength := some 5000 },
  { name := "price", type := .decimal, maxLength := some 18, precision := some 2,
    nullable := false }]

/-- A key of the greatest length stands beside an unbounded text that is no key. -/
theorem createTable_spec_article :
    (ofEngine .sqlServer).Renderable articleColumns ∧
      (ofEngine .sqlServer).Creates "articles" articleColumns
        ("CREATE TABLE [articles] (\n  [code] NVARCHAR(450) NOT NULL PRIMARY KEY,\n" ++
          "  [body] NVARCHAR(MAX),\n  [price] DECIMAL(18,2) NOT NULL\n)") ∧
      ∀ c ∈ articleColumns, c.primaryKey → ∀ declared, (ofEngine .sqlServer).Declares c declared →
        ¬ "(MAX)".toList <:+: declared.toList := by
  obtain ⟨hcreated, -, -, hkeys⟩ := createTable_spec (ofEngine .sqlServer) "articles" articleColumns
  have hsql := eq_ok_of_toOption (show
    ((ofEngine .sqlServer).createTable "articles" articleColumns).toOption = some
      ("CREATE TABLE [articles] (\n  [code] NVARCHAR(450) NOT NULL PRIMARY KEY,\n" ++
        "  [body] NVARCHAR(MAX),\n  [price] DECIMAL(18,2) NOT NULL\n)") by decide +kernel)
  obtain ⟨hrenderable, hcreates, -⟩ := (hcreated _).mp hsql
  exact ⟨hrenderable, hcreates, hkeys ⟨_, hsql⟩⟩

end Dialect

end SqlRender
