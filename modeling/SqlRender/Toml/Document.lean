import SqlRender.Toml.Value

/-!
# Reading TOML documents

A document is lines: entries, headers that open a table, and headers that add a table to a
list. A table is opened by a header at most once; a header may pass through tables that other
lines have made, and into the last table of a list.
-/

namespace SqlRender.Toml

/-- Changes the entries of the table that a header's path leads to, opening tables on the way
that are not there yet. -/
def updateAt? (change : List (String × Node) → Option (List (String × Node))) :
    List String → List (String × Node) → Option (List (String × Node))
  | [], entries => change entries
  | name :: path, entries =>
    match entries.lookup name with
    | none =>
      (updateAt? change path []).map fun inner => putNode name (.table .passed inner) entries
    | some (.table origin inner) =>
      (updateAt? change path inner).map fun inner => putNode name (.table origin inner) entries
    | some (.listed tables) =>
      match tables.getLast? with
      | some last =>
        (updateAt? change path last).map fun inner =>
          putNode name (.listed (tables.dropLast ++ [inner])) entries
      | none => none
    | some (.value _) => none

/-- Opens a table by a header, which may not have been opened before. -/
def openTable? (name : String) (entries : List (String × Node)) : Option (List (String × Node)) :=
  match entries.lookup name with
  | none => some (putNode name (.table .opened []) entries)
  | some (.table .passed inner) => some (putNode name (.table .opened inner) entries)
  | some _ => none

/-- Adds an empty table to a list of tables. -/
def addTable? (name : String) (entries : List (String × Node)) : Option (List (String × Node)) :=
  match entries.lookup name with
  | none => some (putNode name (.listed [[]]) entries)
  | some (.listed tables) => some (putNode name (.listed (tables ++ [[]])) entries)
  | some _ => none

/-- The key of a header after its opening brackets, and what follows its closing brackets. -/
def readHeader? (isList : Bool) (s : List Char) : Option (List String × List Char) := do
  let (path, rest) ← readKey? s
  let rest ← expectChar? ']' rest
  let rest ← if isList then expectChar? ']' rest else some rest
  return (path, rest)

/-- The text after the end of a line, which may hold a comment. -/
def endLine? (s : List Char) : Option (List Char) := do
  let rest ← skipComment? (skipGap s)
  if rest.isEmpty then some [] else lineBreak? rest

/-- Reads the lines of a document into the entries read so far; entries go into the table that
the last header opened. The fuel bounds the lines. -/
def readDocument? : Nat → List String → List (String × Node) → List Char →
    Option (List (String × Node))
  | 0, _, _, _ => none
  | fuel + 1, path, entries, s => do
    match ← skipLines? (s.length + 1) s with
    | [] => some entries
    | '[' :: '[' :: rest =>
      let (path, rest) ← readHeader? true rest
      let entries ← updateAt? (addTable? (path.getLastD "")) path.dropLast entries
      readDocument? fuel path entries (← endLine? rest)
    | '[' :: rest =>
      let (path, rest) ← readHeader? false rest
      let entries ← updateAt? (openTable? (path.getLastD "")) path.dropLast entries
      readDocument? fuel path entries (← endLine? rest)
    | s =>
      let (key, rest) ← readKey? s
      let rest ← expectChar? '=' rest
      let (v, rest) ← readValue? (2 * s.length + 2) maxDepth (skipGap rest)
      let entries ← updateAt? (addValue? true key v) path entries
      readDocument? fuel path entries (← endLine? rest)

/-- Reads a whole text as a document; a byte order mark in front is passed over. -/
def parse? (s : String) : Option Toml :=
  let cs := match s.toList with
    | '\ufeff' :: rest => rest
    | cs => cs
  (readDocument? (cs.length + 1) [] [] cs).map fun entries => table (entriesToToml entries)

end SqlRender.Toml
