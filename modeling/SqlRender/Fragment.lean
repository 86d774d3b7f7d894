import SqlRender.Dialect

/-!
# Fragments of a statement

A fragment is a piece of SQL before it is decided how its values reach the engine: fixed text,
names that the dialect quotes, and slots for values. Rendering it numbers the slots, and binds each
one to its placeholder or writes the value in its place as a literal. The fragment is the same for
both, so the two renderings differ in the slots only.
-/

namespace SqlRender

/-- How values reach the engine. -/
inductive Mode
  /-- Placeholders in the text, with the values beside it. -/
  | parameterized
  /-- Literals in the text. -/
  | inline
deriving DecidableEq

/-- The mode a dialect is set to. -/
def Dialect.mode (d : Dialect) : Mode := if d.parameterized then .parameterized else .inline

/-- A piece of a fragment. -/
inductive Piece
  | text (s : String)
  | name (s : String)
  | slot (v : Value)
deriving DecidableEq

/-- A piece of SQL with slots for values. -/
abbrev Fragment := List Piece

/-- A bound value and the placeholder it stands for. -/
structure Parameter where
  placeholder : String
  value : Value
deriving DecidableEq

namespace Fragment

/-- The fragment of a value: null is always written out, and every other value has a slot. -/
def ofValue (v : Value) : Fragment := if v.isNull then [.text "NULL"] else [.slot v]

/-- Fragments in a row with a text between two of them. -/
def joined (separator : String) (fs : List Fragment) : Fragment :=
  [Piece.text separator].intercalate fs

/-- The value of a slot. -/
def slot? : Piece → Option Value
  | .slot v => some v
  | _ => none

/-- The values of the slots, from left to right. -/
def slots (f : Fragment) : List Value := f.filterMap slot?

/-- Writes one piece at the end of a text, a slot as the placeholder of the next number. -/
def bindPiece (d : Dialect) (state : Nat × String) : Piece → Nat × String
  | .text s => (state.1, state.2 ++ s)
  | .name s => (state.1, state.2 ++ d.quoteName s)
  | .slot _ => (state.1 + 1, state.2 ++ d.placeholder state.1)

/-- The text of a fragment with placeholders numbered from `start` in its slots. -/
def boundText (d : Dialect) (start : Nat) (f : Fragment) : String :=
  (f.foldl (bindPiece d) (start, "")).2

/-- The parameters for the slots of a fragment, numbered from `start`. -/
def parameters (d : Dialect) (start : Nat) (values : List Value) : List Parameter :=
  (values.zipIdx start).map fun (v, n) => ⟨d.placeholder n, v⟩

/-- Writes one piece at the end of a text, a slot as the literal of the next number. -/
def writePiece (d : Dialect) (state : Nat × String) : Piece → Except Error (Nat × String)
  | .text s => .ok (state.1, state.2 ++ s)
  | .name s => .ok (state.1, state.2 ++ d.quoteName s)
  | .slot v => do return (state.1 + 1, state.2 ++ (← d.literal state.1 v))

/-- The text of a fragment with literals numbered from `start` in its slots. -/
def writtenText (d : Dialect) (start : Nat) (f : Fragment) : Except Error String := do
  return (← f.foldlM (writePiece d) (start, "")).2

/-- The text of a fragment in a mode, with its slots numbered from `start`. -/
def render (d : Dialect) (mode : Mode) (start : Nat) (f : Fragment) : Except Error String :=
  match mode with
  | .parameterized => .ok (f.boundText d start)
  | .inline => f.writtenText d start

end Fragment

end SqlRender
