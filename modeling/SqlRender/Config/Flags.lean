import SqlRender.Config.Basic

/-!
# Flags from the environment

Two settings may be set by flags from outside. The flags are read one after the other, and
each takes effect as soon as it has been read: when the second cannot be read, the first one
stands.
-/

namespace SqlRender.Config

/-- The name of the flag for binding values. -/
def parameterizedFlag : String := "RUSTF_SQL_PARAMETERIZED"

/-- The name of the flag for strict predicates. -/
def strictFlag : String := "RUSTF_SQL_STRICT"

/-- Reads a flag: one of four words for either truth value, in any case and with blanks around
it. -/
def readFlag (name value : String) : Except Error Bool :=
  match (Text.trimmed value).toLower with
  | "1" | "true" | "yes" | "on" => .ok true
  | "0" | "false" | "no" | "off" => .ok false
  | _ => .error (.config (.badFlag name value))

/-- The configuration after the flags that are set, and whether all of them could be read. -/
def applyFlags (c : Config) (parameterized strict : Option String) : Config × Except Error Unit :=
  match parameterized.mapM (readFlag parameterizedFlag) with
  | .error e => (c, .error e)
  | .ok first =>
    let c := { c with parameterized := first.getD c.parameterized }
    match strict.mapM (readFlag strictFlag) with
    | .error e => (c, .error e)
    | .ok second => ({ c with strictPredicates := second.getD c.strictPredicates }, .ok ())

end SqlRender.Config
