import SqlRender.Column
import SqlRender.Profile.Engines

/-!
# Native types

A portable type is written in the spelling of an engine, with length and precision where that
spelling takes them, and a native spelling found in a catalog is read back as a portable type.
-/

namespace SqlRender

/-- The spelling of a portable type on an engine, if the engine has the type. -/
def Engine.nativeType? (e : Engine) (t : DataType) : Option TypeSyntax :=
  (e.profile.types.find? (·.1 == t)).map (·.2)

/-- The length a column must have to be written. -/
def Column.lengthText (c : Column) : Except Error String :=
  match c.maxLength with
  | some n => .ok (toString n)
  | none => .error (.malformed (.missingLength c.name c.type))

/-- The precision a column must have to be written. -/
def Column.precisionText (c : Column) : Except Error String :=
  match c.precision with
  | some n => .ok (toString n)
  | none => .error (.malformed (.missingPrecision c.name c.type))

/-- A spelling with the length and precision of a column where it takes them. -/
def TypeSyntax.text (t : TypeSyntax) (c : Column) : Except Error String :=
  match t with
  | plain name => .ok name
  | length name => do return name ++ "(" ++ (← c.lengthText) ++ ")"
  | lengthOrMax name limit =>
    match c.maxLength with
    | some n => .ok (if n ≤ limit then name ++ "(" ++ toString n ++ ")" else name ++ "(MAX)")
    | none => .ok (name ++ "(MAX)")
  | lengthPrecision name => do
    let precision ← c.precisionText
    return name ++ "(" ++ (← c.lengthText) ++ "," ++ precision ++ ")"

/-- The type of a column as an engine writes it. -/
def Engine.columnType (e : Engine) (c : Column) : Except Error String :=
  match e.nativeType? c.type with
  | some t => t.text c
  | none => .error (.unsupportedType e c.type)

namespace NativeType

/-- The form in which native names are compared: single spaces, ASCII letters in upper case. -/
def normalized (s : List Char) : List Char :=
  ([' '].intercalate (Text.words s)).map Char.toUpper

/-- A native name up to its arguments. -/
def bare (s : List Char) : List Char := s.takeWhile (· != '(')

/-- The names an engine's types are read by, the stronger claim to a name first: full
spellings, then aliases, then spellings without their arguments. -/
def index (p : Profile) : List (List Char × DataType) :=
  p.types.map (fun (t, native) => (normalized native.name.toList, t)) ++
    p.aliases.map (fun (name, t) => (normalized name.toList, t)) ++
    p.types.map (fun (t, native) => (normalized (bare native.name.toList), t))

/-- The type an index gives to a normalized name. -/
def lookup? (entries : List (List Char × DataType)) (name : List Char) : Option DataType :=
  (entries.find? (·.1 == name)).map (·.2)

end NativeType

/-- The portable type of a native spelling: by the whole spelling, or else by the part before
its arguments. -/
def Engine.readType? (e : Engine) (spelling : String) : Option DataType :=
  let entries := NativeType.index e.profile
  (NativeType.lookup? entries (NativeType.normalized spelling.toList)).or
    (NativeType.lookup? entries (NativeType.normalized (NativeType.bare spelling.toList)))

end SqlRender
