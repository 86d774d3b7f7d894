import SqlRender.Json.Basic

/-!
# TOML documents

A TOML value, and how two documents are laid over each other: tables merge key by key, arrays
are joined, and any other value is replaced by one of its own type.
-/

namespace SqlRender

/-- A TOML value. A moment keeps its text. -/
inductive Toml
  | string (s : String)
  | integer (n : Int)
  | float (x : Double)
  | boolean (b : Bool)
  | moment (text : String)
  | array (items : List Toml)
  | table (entries : List (String × Toml))

namespace Toml

mutual

/-- The value with another one laid over it, if their types agree. -/
def overlay? : Toml → Toml → Option Toml
  | string _, string s => some (string s)
  | integer _, integer n => some (integer n)
  | float _, float x => some (float x)
  | boolean _, boolean b => some (boolean b)
  | moment _, moment t => some (moment t)
  | array xs, array ys => some (array (xs ++ ys))
  | table base, table upper => (overlayEntries? base upper).map table
  | _, _ => none

/-- The entries with others laid over them: an entry of the base keeps its place, and those
that the base lacks follow. -/
def overlayEntries? : List (String × Toml) → List (String × Toml) →
    Option (List (String × Toml))
  | [], upper => some upper
  | (name, value) :: rest, upper => do
    let merged ← match upper.lookup name with
      | some other => overlay? value other
      | none => some value
    let others ← overlayEntries? rest (upper.filter (·.1 != name))
    return (name, merged) :: others

end

mutual

/-- Whether every whole number in a value is at least `low` and below `high`. -/
def isWithin (low high : Int) : Toml → Bool
  | integer n => low ≤ n && n < high
  | array items => itemsWithin low high items
  | table entries => entriesWithin low high entries
  | _ => true

/-- Whether every whole number in some values is at least `low` and below `high`. -/
def itemsWithin (low high : Int) : List Toml → Bool
  | [] => true
  | item :: rest => item.isWithin low high && itemsWithin low high rest

/-- Whether every whole number in some entries is at least `low` and below `high`. -/
def entriesWithin (low high : Int) : List (String × Toml) → Bool
  | [] => true
  | (_, value) :: rest => value.isWithin low high && entriesWithin low high rest

end

mutual

/-- The value as JSON. A moment is an object, so that no text stands for it. -/
def toJson : Toml → Json
  | string s => .string s
  | integer n => .int n
  | float x => .double x
  | boolean b => .bool b
  | moment text => .object [("moment", .string text)]
  | array items => .array (itemsToJson items)
  | table entries => .object (entriesToJson entries)

/-- Values as JSON. -/
def itemsToJson : List Toml → List Json
  | [] => []
  | item :: rest => item.toJson :: itemsToJson rest

/-- Entries as the fields of a JSON object. -/
def entriesToJson : List (String × Toml) → List (String × Json)
  | [] => []
  | (name, value) :: rest => (name, value.toJson) :: entriesToJson rest

end

end Toml

end SqlRender
