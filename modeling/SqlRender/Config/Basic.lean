import SqlRender.Error
import SqlRender.Time.Pattern

/-!
# Configuration

A configuration sets how values reach the engine, whether a malformed leaf is an error, and
for single engines the timestamp patterns and the greatest length of a statement. A section
may go by any name of its engine; the sections are kept in the order of their names, and of
two sections for one engine the first counts.
-/

namespace SqlRender

/-- What a section sets for its engine; a field that is not set leaves the engine's own. -/
structure Overrides where
  timestampFormat : Option String := none
  timestampOffsetFormat : Option String := none
  maxStatementLength : Option Nat := none
deriving DecidableEq

/-- The settings of rendering. -/
structure Config where
  /-- Whether values are bound rather than written out, unless a statement says otherwise. -/
  parameterized : Bool := true
  /-- Whether a malformed leaf is an error rather than left out. -/
  strictPredicates : Bool := false
  /-- The sections, in the order of their names. -/
  sections : List (String × Overrides) := []
deriving DecidableEq

/-- Puts a section at its place in the order of names, over an older one of the same name. -/
def putSection (name : String) (overrides : Overrides) :
    List (String × Overrides) → List (String × Overrides)
  | [] => [(name, overrides)]
  | (other, old) :: rest =>
    if other = name then (name, overrides) :: rest
    else if name < other then (name, overrides) :: (other, old) :: rest
    else (other, old) :: putSection name overrides rest

namespace Config

/-- The section that counts for an engine. -/
def section? (c : Config) (e : Engine) : Option Overrides :=
  (c.sections.find? fun entry => Engine.ofName? entry.1 == some e).map (·.2)

/-- The stamp that patterns are tried on. -/
def sample : Stamp := Stamp.startOf Date.epoch

/-- The offset stamp that patterns are tried on. -/
def offsetSample : OffsetStamp := .ofUniversal sample

/-- The first thing that is wrong with a section: its name, a pattern, or a limit of zero. -/
def sectionFault? (name : String) (o : Overrides) : Option ConfigFault :=
  if (Engine.ofName? name).isNone then some (.unknownSection name)
  else
    let stampFault := o.timestampFormat.bind fun pattern =>
      if (sample.format? pattern).isNone then some (ConfigFault.badPattern pattern name) else none
    let offsetFault := o.timestampOffsetFormat.bind fun pattern =>
      if (offsetSample.format? pattern).isNone then some (ConfigFault.badPattern pattern name)
      else none
    let limitFault :=
      if o.maxStatementLength = some 0 then some (ConfigFault.zeroLimit name) else none
    (stampFault.or offsetFault).or limitFault

/-- Checks the sections in order. -/
def validate (c : Config) : Except Error Unit :=
  match c.sections.findSome? fun (name, o) => sectionFault? name o with
  | some fault => .error (.config fault)
  | none => .ok ()

end Config

end SqlRender
