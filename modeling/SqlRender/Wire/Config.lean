import SqlRender.Config.Basic
import SqlRender.Wire.Record

/-!
# Configurations on the wire
-/

namespace SqlRender

/-- A section as it stands on the wire. -/
def Overrides.toJson (o : Overrides) : Json :=
  .object [("timestamp_format", .ofOption .string o.timestampFormat),
    ("timestamp_offset_format", .ofOption .string o.timestampOffsetFormat),
    ("max_statement_length", .ofOption .ofNat o.maxStatementLength)]

/-- The fields of a section, in the order of a section given as a list. -/
def Overrides.fieldNames : List String :=
  ["timestamp_format", "timestamp_offset_format", "max_statement_length"]

/-- Reads a section; a length fits sixty-four bits. -/
def Overrides.ofJson? (j : Json) : Option Overrides := do
  let names := fieldNames
  guard (j.isRecord names)
  return {
    timestampFormat := ← Json.optional? Json.string? (j.member? names "timestamp_format")
    timestampOffsetFormat :=
      ← Json.optional? Json.string? (j.member? names "timestamp_offset_format")
    maxStatementLength :=
      ← Json.optional? (Json.natBelow? UInt64.size) (j.member? names "max_statement_length") }

/-- Reads sections from an object, into the order of their names. -/
def readSections? : Json → Option (List (String × Overrides))
  | .object fields =>
    fields.foldlM (fun sections (name, j) =>
      (Overrides.ofJson? j).map fun o => putSection name o sections) []
  | _ => none

/-- A configuration as it stands on the wire. -/
def Config.toJson (c : Config) : Json :=
  .object [("parameterized", .bool c.parameterized),
    ("strict_predicates", .bool c.strictPredicates),
    ("dialects", .object (c.sections.map fun (name, o) => (name, o.toJson)))]

/-- Reads a configuration, without checking it. -/
def Config.ofJson? (j : Json) : Option Config := do
  let names := ["parameterized", "strict_predicates", "dialects"]
  guard (j.isRecord names)
  return {
    parameterized := ← Json.defaulted? Json.bool? true (j.member? names "parameterized")
    strictPredicates := ← Json.defaulted? Json.bool? false (j.member? names "strict_predicates")
    sections := ← Json.defaulted? readSections? [] (j.member? names "dialects") }

end SqlRender
