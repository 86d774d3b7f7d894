import SqlRender.Toml.Document
import SqlRender.Wire.Config

/-!
# Configuration files

A configuration is read from a TOML text, from a file, or from a base file with an overlay
laid over it. Files are reached through a function from paths to what is found there.
-/

namespace SqlRender.Config

/-- What is found at a path. Where there is no text, the reason is the one that reading gives. -/
inductive File
  | text (content : String)
  | missing (reason : String)
  | unreadable (reason : String)

/-- Whether there is a file, readable or not. -/
def File.isPresent : File → Bool
  | text _ | unreadable _ => true
  | missing _ => false

/-- The text of a file, or the reason why it cannot be read. -/
def File.read : File → Except String String
  | text content => .ok content
  | missing reason | unreadable reason => .error reason

/-- What is found at each path. -/
abbrev Files := String → File

/-- A sound configuration, or what is wrong with it. -/
def checked (c : Config) : Except Error Config := do
  c.validate
  return c

/-- A section without the items of a list that go past its fields. -/
def withoutSpareItems : Toml → Toml
  | .array items => .array (items.take Overrides.fieldNames.length)
  | t => t

/-- What a text is read for: in its sections, nothing past their fields. -/
def withoutSpares : Toml → Toml
  | .table entries => .table (entries.map fun
    | ("dialects", .table sections) =>
      ("dialects", .table (sections.map fun (name, t) => (name, withoutSpareItems t)))
    | entry => entry)
  | t => t

/-- Reads and checks a configuration text. A section given as a list may go on after its fields;
all whole numbers that are read fit one hundred and twenty-eight bits with a sign or without. -/
def ofText (text : String) : Except Error Config :=
  let config? := do
    let t := withoutSpares (← Toml.parse? text)
    guard (t.isWithin (-Nat.pow 2 127) (Nat.pow 2 128))
    ofJson? t.toJson
  match config? with
  | some c => c.checked
  | none => .error (.config .malformedText)

/-- Reads and checks the configuration of a file. -/
def load (files : Files) (path : String) : Except Error Config :=
  match (files path).read with
  | .error reason =>
    .error (.config (.unreadable path reason ". Make sure the file exists and is readable."))
  | .ok text =>
    match ofText text with
    | .ok c => .ok c
    | .error e => .error (.inContext ("Invalid configuration in '" ++ path ++ "'") e)

/-- Reads the TOML value of a file; its whole numbers fit sixty-four bits with a sign. -/
def loadToml (files : Files) (path : String) : Except Error Toml :=
  match (files path).read with
  | .error reason => .error (.config (.unreadable path reason ""))
  | .ok text =>
    match Toml.parse? text with
    | some t =>
      if t.isWithin (-Nat.pow 2 63) (Nat.pow 2 63) then .ok t
      else .error (.config (.malformedFile path))
    | none => .error (.config (.malformedFile path))

/-- The configuration of a merged TOML value. Numbers that JSON does not have are as good as
missing. -/
def ofMerged (t : Toml) : Except Error Config :=
  match ofJson? t.toJson.portable with
  | some c => c.checked
  | none => .error .json

/-- The warning about an overlay that is not there. -/
def missingOverlay (path : String) : String :=
  "Configuration overlay not found, using base only: " ++ path

/-- Reads a base file and an overlay whose values win, and gives the warnings on the way. An
overlay that is not there leaves the base alone; one that cannot be read is an error. -/
def loadLayered (files : Files) (base overlay : String) :
    List String × Except Error Config :=
  match loadToml files base with
  | .error e => ([], .error e)
  | .ok below =>
    if (files overlay).isPresent then
      ([], do
        let above ← loadToml files overlay
        match below.overlay? above with
        | some merged => ofMerged merged
        | none => .error (.config .unmergeable))
    else ([missingOverlay overlay], ofMerged below)

end SqlRender.Config
