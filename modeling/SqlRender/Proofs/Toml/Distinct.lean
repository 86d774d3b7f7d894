import Mathlib.Data.List.Nodup
import SqlRender.Proofs.Lists
import SqlRender.Toml.Document

/-!
# The names of a table are distinct

However a document is written, no table that is read from it has two entries of one name. While a
document is read, entries are only put in their places: an entry takes the place of one that has its
name, or comes behind all others. So what a line does to the tables that it leads through keeps
their names distinct, and what has been read at the end is made of tables with distinct names, those
in arrays and inline tables included.
-/

namespace SqlRender.Toml

/-- A value that is neither an array nor a table. -/
def isScalar : Toml → Bool
  | array _ | table _ => false
  | _ => true

/-- A value in which the names of every table are distinct. -/
inductive Distinct : Toml → Prop
  | scalar {v : Toml} (h : v.isScalar) : Distinct v
  | array {items : List Toml} (h : ∀ item ∈ items, Distinct item) : Distinct (.array items)
  | table {entries : List (String × Toml)} (hnames : (entries.map (·.1)).Nodup)
      (h : ∀ entry ∈ entries, Distinct entry.2) : Distinct (.table entries)

mutual

/-- A node in which the names of every table are distinct. -/
inductive Node.Distinct : Node → Prop
  | value {v : Toml} (h : v.Distinct) : Node.Distinct (.value v)
  | table {origin : Origin} {entries : List (String × Node)} (h : DistinctEntries entries) :
      Node.Distinct (.table origin entries)
  | listed {tables : List (List (String × Node))}
      (h : ∀ entries ∈ tables, DistinctEntries entries) : Node.Distinct (.listed tables)

/-- Entries with distinct names, in which the names of every table are distinct. -/
inductive DistinctEntries : List (String × Node) → Prop
  | mk {entries : List (String × Node)} (hnames : (entries.map (·.1)).Nodup)
      (hnodes : ∀ entry ∈ entries, Node.Distinct entry.2) : DistinctEntries entries

end

/-- What has been read has the names that were read. -/
theorem names_entriesToToml (entries : List (String × Node)) :
    (entriesToToml entries).map (·.1) = entries.map (·.1) := by
  induction entries with
  | nil => rfl
  | cons entry rest ih => rw [entriesToToml, List.map_cons, ih, List.map_cons]

mutual

/-- A node with distinct names is read as a value with distinct names. -/
theorem Node.distinct_toToml : ∀ {node : Node}, node.Distinct → node.toToml.Distinct
  | .value _, .value h => h
  | .table _ entries, .table (.mk hnames hnodes) =>
    .table ((names_entriesToToml entries).symm ▸ hnames) (distinct_entriesToToml hnodes)
  | .listed _, .listed h => .array (distinct_tablesToToml h)

/-- Entries with distinct names in them are read as values with distinct names. -/
theorem distinct_entriesToToml : ∀ {entries : List (String × Node)},
    (∀ entry ∈ entries, entry.2.Distinct) → ∀ entry ∈ entriesToToml entries, entry.2.Distinct
  | [], _ => nofun
  | (_, _) :: _, h => List.forall_mem_cons.mpr
    ⟨Node.distinct_toToml (h _ List.mem_cons_self),
      distinct_entriesToToml fun entry hentry => h entry (List.mem_cons_of_mem _ hentry)⟩

/-- Tables with distinct names are read as tables with distinct names. -/
theorem distinct_tablesToToml : ∀ {tables : List (List (String × Node))},
    (∀ entries ∈ tables, DistinctEntries entries) → ∀ item ∈ tablesToToml tables, item.Distinct
  | [], _ => nofun
  | entries :: _, h => by
    obtain ⟨hnames, hnodes⟩ := h entries List.mem_cons_self
    exact List.forall_mem_cons.mpr
      ⟨.table ((names_entriesToToml entries).symm ▸ hnames) (distinct_entriesToToml hnodes),
        distinct_tablesToToml fun entries hentries => h entries (List.mem_cons_of_mem _ hentries)⟩

end

/-- Putting a node adds its name at the end or changes no name at all. -/
theorem names_putNode (name : String) (node : Node) (entries : List (String × Node)) :
    (putNode name node entries).map (·.1) =
      if name ∈ entries.map (·.1) then entries.map (·.1) else entries.map (·.1) ++ [name] := by
  induction entries with
  | nil => rfl
  | cons entry rest ih =>
    obtain ⟨other, old⟩ := entry
    by_cases h : other = name
    · simp [putNode, h]
    · have hne : ¬name = other := fun e => h e.symm
      simp only [putNode, h, if_false, List.map_cons, ih, List.mem_cons, hne, false_or]
      split <;> simp

/-- An entry behind the putting of a node is the node or was there before. -/
theorem mem_putNode {name : String} {node : Node} {entries : List (String × Node)}
    {entry : String × Node} (h : entry ∈ putNode name node entries) :
    entry = (name, node) ∨ entry ∈ entries := by
  induction entries with
  | nil => exact .inl (List.mem_singleton.mp h)
  | cons first rest ih =>
    unfold putNode at h
    split at h
    · exact (List.mem_cons.mp h).imp_right (List.mem_cons_of_mem _)
    · rcases List.mem_cons.mp h with rfl | h
      · exact .inr List.mem_cons_self
      · exact (ih h).imp_right (List.mem_cons_of_mem _)

/-- No entries have distinct names. -/
theorem DistinctEntries.nil : DistinctEntries [] := .mk List.nodup_nil nofun

variable {entries : List (String × Node)} {name : String} {node : Node}

/-- Putting a node keeps names distinct. -/
theorem DistinctEntries.putNode (h : DistinctEntries entries) (hnode : node.Distinct) :
    DistinctEntries (putNode name node entries) := by
  obtain ⟨hnames, hnodes⟩ := h
  refine .mk ?_ fun entry hentry => ?_
  · rw [names_putNode]
    split
    · exact hnames
    · next hnew =>
      refine List.nodup_append.mpr ⟨hnames, List.nodup_singleton _, fun a ha b hb hab => ?_⟩
      exact hnew (List.mem_singleton.mp hb ▸ hab ▸ ha)
  · rcases mem_putNode hentry with rfl | hentry
    · exact hnode
    · exact hnodes entry hentry

/-- A node that is found among entries with distinct names has distinct names. -/
theorem DistinctEntries.of_lookup (h : DistinctEntries entries)
    (hlookup : entries.lookup name = some node) : node.Distinct := by
  obtain ⟨-, hnodes⟩ := h
  exact hnodes (name, node) (mem_of_lookup hlookup)

/-- The last of some tables may be changed when its names stay distinct. -/
theorem Node.Distinct.changeLast {tables : List (List (String × Node))}
    (h : Node.Distinct (.listed tables)) {inner : List (String × Node)}
    (hinner : DistinctEntries inner) : Node.Distinct (.listed (tables.dropLast ++ [inner])) := by
  cases h with
  | listed h =>
    refine .listed fun entries hentries => ?_
    rcases List.mem_append.mp hentries with hbefore | hlast
    · exact h entries (List.dropLast_subset _ hbefore)
    · exact List.mem_singleton.mp hlast ▸ hinner

/-- The last of some tables with distinct names. -/
theorem Node.Distinct.getLast {tables : List (List (String × Node))}
    (h : Node.Distinct (.listed tables)) {last : List (String × Node)}
    (hlast : tables.getLast? = some last) : DistinctEntries last := by
  cases h with
  | listed h => exact h last (List.mem_of_getLast? hlast)

/-- Adding a value keeps names distinct. -/
theorem DistinctEntries.addValue {takes : Bool} {path : List String} {v : Toml}
    {added : List (String × Node)} (h : DistinctEntries entries) (hv : v.Distinct)
    (hadd : addValue? takes path v entries = some added) : DistinctEntries added := by
  fun_induction addValue? takes path v entries generalizing added with
  | case1 => cases hadd
  | case2 takes name v entries hfree =>
    cases hadd
    exact h.putNode (.value hv)
  | case3 => cases hadd
  | case4 takes name path v entries hpath hlookup ih =>
    obtain ⟨inner, hinner, rfl⟩ := Option.map_eq_some_iff.mp hadd
    exact h.putNode (.table (ih .nil hv hinner))
  | case5 => cases hadd
  | case6 takes name path v entries hpath origin inner hlookup horigin ih =>
    obtain ⟨inner', hinner, rfl⟩ := Option.map_eq_some_iff.mp hadd
    cases h.of_lookup hlookup with
    | table hdistinct => exact h.putNode (.table (ih hdistinct hv hinner))
  | case7 takes name path v entries hpath tables hlookup last hlast ih =>
    obtain ⟨inner, hinner, rfl⟩ := Option.map_eq_some_iff.mp hadd
    have htables := h.of_lookup hlookup
    exact h.putNode (htables.changeLast (ih (htables.getLast hlast) hv hinner))
  | case8 => cases hadd
  | case9 => cases hadd

/-- A change on the way of a header keeps names distinct when it does so where it is made. -/
theorem DistinctEntries.updateAt {change : List (String × Node) → Option (List (String × Node))}
    (hchange : ∀ before after, DistinctEntries before → change before = some after →
      DistinctEntries after) {path : List String} {changed : List (String × Node)}
    (h : DistinctEntries entries) (hupdate : updateAt? change path entries = some changed) :
    DistinctEntries changed := by
  fun_induction updateAt? change path entries generalizing changed with
  | case1 entries => exact hchange _ _ h hupdate
  | case2 name path entries hlookup ih =>
    obtain ⟨inner, hinner, rfl⟩ := Option.map_eq_some_iff.mp hupdate
    exact h.putNode (.table (ih .nil hinner))
  | case3 name path entries origin inner hlookup ih =>
    obtain ⟨inner', hinner, rfl⟩ := Option.map_eq_some_iff.mp hupdate
    cases h.of_lookup hlookup with
    | table hdistinct => exact h.putNode (.table (ih hdistinct hinner))
  | case4 name path entries tables hlookup last hlast ih =>
    obtain ⟨inner, hinner, rfl⟩ := Option.map_eq_some_iff.mp hupdate
    have htables := h.of_lookup hlookup
    exact h.putNode (htables.changeLast (ih (htables.getLast hlast) hinner))
  | case5 => cases hupdate
  | case6 => cases hupdate

/-- Opening a table keeps names distinct. -/
theorem DistinctEntries.openTable {opened : List (String × Node)} (h : DistinctEntries entries)
    (hopen : openTable? name entries = some opened) : DistinctEntries opened := by
  unfold openTable? at hopen
  split at hopen
  · cases hopen
    exact h.putNode (.table .nil)
  · next inner hlookup =>
    cases hopen
    cases h.of_lookup hlookup with
    | table hdistinct => exact h.putNode (.table hdistinct)
  · cases hopen

/-- Adding a table to a list keeps names distinct. -/
theorem DistinctEntries.addTable {added : List (String × Node)} (h : DistinctEntries entries)
    (hadd : addTable? name entries = some added) : DistinctEntries added := by
  have hlisted : ∀ tables : List (List (String × Node)), (∀ t ∈ tables, DistinctEntries t) →
      Node.Distinct (.listed (tables ++ [[]])) := by
    intro tables htables
    refine .listed fun t ht => ?_
    rcases List.mem_append.mp ht with ht | ht
    · exact htables t ht
    · exact List.mem_singleton.mp ht ▸ .nil
  unfold addTable? at hadd
  split at hadd
  · cases hadd
    exact h.putNode (hlisted [] nofun)
  · next tables hlookup =>
    cases hadd
    cases h.of_lookup hlookup with
    | listed htables => exact h.putNode (hlisted tables htables)
  · cases hadd

/-- A word is read as a value that is neither an array nor a table. -/
theorem isScalar_of_ofWord {word : List Char} {v : Toml} (h : ofWord? word = some v) :
    v.isScalar := by
  have hinteger : ∀ v, integerOfWord? word = some v → v.isScalar := by
    intro v hv
    unfold integerOfWord? at hv
    dsimp only at hv
    split at hv
    all_goals
      split at hv
      · cases hv
        rfl
      · cases hv
  have hfloat : ∀ v, floatOfWord? word = some v → v.isScalar := by
    intro v hv
    unfold floatOfWord? finiteFloatOfWord? at hv
    grind [isScalar]
  have hmoment : ∀ v, momentOfWord? word = some v → v.isScalar := by
    intro v hv
    unfold momentOfWord? at hv
    grind [isScalar]
  unfold ofWord? at h
  split at h
  · cases h
    rfl
  · split at h
    · cases h
      rfl
    · rcases Option.or_eq_some_iff.mp h with h | ⟨-, h⟩
      · rcases Option.or_eq_some_iff.mp h with h | ⟨-, h⟩
        · exact hinteger v h
        · exact hfloat v h
      · exact hmoment v h

/-- With so much fuel, values, entries and items are read with distinct names. -/
structure ReadsDistinct (fuel : Nat) : Prop where
  value : ∀ {depth s v rest}, readValue? fuel depth s = some (v, rest) → v.Distinct
  entries : ∀ {depth done s read rest}, DistinctEntries done →
    readEntries? fuel depth done s = some (read, rest) → DistinctEntries read
  items : ∀ {depth s items rest}, readItems? fuel depth s = some (items, rest) →
    ∀ item ∈ items, item.Distinct

namespace ReadsDistinct

variable {fuel depth : Nat} {s rest : List Char}

/-- A value is read with distinct names when its parts are. -/
theorem readValue (ih : ReadsDistinct fuel) {v : Toml}
    (h : readValue? (fuel + 1) depth s = some (v, rest)) : v.Distinct := by
  unfold readValue? at h
  dsimp only at h
  split at h
  · obtain ⟨read, -, hread⟩ := Option.map_eq_some_iff.mp h
    cases hread
    exact .scalar rfl
  · obtain ⟨read, -, hread⟩ := Option.map_eq_some_iff.mp h
    cases hread
    exact .scalar rfl
  · obtain ⟨read, hitems, hread⟩ := Option.map_eq_some_iff.mp h
    cases hread
    exact .array (ih.items hitems)
  · obtain ⟨read, hentries, hread⟩ := Option.map_eq_some_iff.mp h
    cases hread
    have htable : Node.Distinct (.table .dotted _) := .table (ih.entries .nil hentries)
    exact Node.distinct_toToml htable
  · obtain ⟨read, hword, hread⟩ := Option.map_eq_some_iff.mp h
    cases hread
    exact .scalar (isScalar_of_ofWord hword)

/-- The items of an array are read with distinct names when each of them is. -/
theorem readItems (ih : ReadsDistinct fuel) {items : List Toml}
    (h : readItems? (fuel + 1) depth s = some (items, rest)) : ∀ item ∈ items, item.Distinct := by
  unfold readItems? at h
  dsimp only at h
  split at h
  · cases h
  · cases h
    nofun
  · obtain ⟨⟨item, rest'⟩, hitem, h⟩ := Option.bind_eq_some_iff.mp h
    obtain ⟨next, -, h⟩ := Option.bind_eq_some_iff.mp h
    have hfirst := ih.value hitem
    split at h
    · cases h
      simpa using hfirst
    · obtain ⟨⟨others, rest''⟩, hothers, h⟩ := Option.bind_eq_some_iff.mp h
      cases h
      exact List.forall_mem_cons.mpr ⟨hfirst, ih.items hothers⟩
    · cases h

/-- The entries of an inline table are read with distinct names when their values are. -/
theorem readEntries (ih : ReadsDistinct fuel) {done read : List (String × Node)}
    (hdone : DistinctEntries done)
    (h : readEntries? (fuel + 1) depth done s = some (read, rest)) : DistinctEntries read := by
  unfold readEntries? at h
  dsimp only at h
  split at h
  · cases h
  · cases h
    exact hdone
  · obtain ⟨⟨path, afterKey⟩, -, h⟩ := Option.bind_eq_some_iff.mp h
    obtain ⟨gap, -, h⟩ := Option.bind_eq_some_iff.mp h
    obtain ⟨afterSign, -, h⟩ := Option.bind_eq_some_iff.mp h
    obtain ⟨gap', -, h⟩ := Option.bind_eq_some_iff.mp h
    obtain ⟨⟨v, afterValue⟩, hv, h⟩ := Option.bind_eq_some_iff.mp h
    obtain ⟨added, hadd, h⟩ := Option.bind_eq_some_iff.mp h
    obtain ⟨next, -, h⟩ := Option.bind_eq_some_iff.mp h
    have hadded := hdone.addValue (ih.value hv) hadd
    split at h
    · cases h
      exact hadded
    · exact ih.entries hadded h
    · cases h

/-- Whatever the fuel, values, entries and items are read with distinct names. -/
theorem of_fuel (fuel : Nat) : ReadsDistinct fuel := by
  induction fuel with
  | zero =>
    refine ⟨fun h => ?_, fun _ h => ?_, fun h => ?_⟩
    · rw [readValue?] at h
      cases h
    · rw [readEntries?] at h
      cases h
    · rw [readItems?] at h
      cases h
  | succ fuel ih => exact ⟨ih.readValue, ih.readEntries, ih.readItems⟩

end ReadsDistinct

/-- The lines of a document keep names distinct. -/
theorem DistinctEntries.readDocument {fuel : Nat} {path : List String} {s : List Char}
    {read : List (String × Node)} (h : DistinctEntries entries)
    (hread : readDocument? fuel path entries s = some read) : DistinctEntries read := by
  induction fuel generalizing path entries s with
  | zero =>
    rw [readDocument?] at hread
    cases hread
  | succ fuel ih =>
    unfold readDocument? at hread
    obtain ⟨line, -, hread⟩ := Option.bind_eq_some_iff.mp hread
    split at hread
    · cases hread
      exact h
    · obtain ⟨⟨path, afterHeader⟩, -, hread⟩ := Option.bind_eq_some_iff.mp hread
      obtain ⟨updated, hupdate, hread⟩ := Option.bind_eq_some_iff.mp hread
      obtain ⟨next, -, hread⟩ := Option.bind_eq_some_iff.mp hread
      exact ih (h.updateAt (fun _ _ => .addTable) hupdate) hread
    · obtain ⟨⟨path, afterHeader⟩, -, hread⟩ := Option.bind_eq_some_iff.mp hread
      obtain ⟨updated, hupdate, hread⟩ := Option.bind_eq_some_iff.mp hread
      obtain ⟨next, -, hread⟩ := Option.bind_eq_some_iff.mp hread
      exact ih (h.updateAt (fun _ _ => .openTable) hupdate) hread
    · obtain ⟨⟨key, afterKey⟩, -, hread⟩ := Option.bind_eq_some_iff.mp hread
      obtain ⟨afterSign, -, hread⟩ := Option.bind_eq_some_iff.mp hread
      obtain ⟨⟨v, afterValue⟩, hv, hread⟩ := Option.bind_eq_some_iff.mp hread
      obtain ⟨updated, hupdate, hread⟩ := Option.bind_eq_some_iff.mp hread
      obtain ⟨next, -, hread⟩ := Option.bind_eq_some_iff.mp hread
      have hvalue := (ReadsDistinct.of_fuel _).value hv
      exact ih (h.updateAt (fun _ _ hbefore => hbefore.addValue hvalue) hupdate) hread

/-- A document that is read is a table in which the names of every table are distinct. -/
theorem distinct_of_parse {s : String} {t : Toml} (h : parse? s = some t) :
    t.Distinct ∧ ∃ entries, t = .table entries := by
  unfold parse? at h
  obtain ⟨entries, hread, rfl⟩ := Option.map_eq_some_iff.mp h
  have hentries := DistinctEntries.nil.readDocument hread
  have htable : Node.Distinct (.table .passed entries) := .table hentries
  exact ⟨Node.distinct_toToml htable, _, rfl⟩

end SqlRender.Toml
