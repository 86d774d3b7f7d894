import SqlRender.Number.Double

/-!
# JSON documents

A document is a value of one inductive type. A number is whole or a double, as it was written,
because a place that wants a whole number takes no `1.0`. The fields of an object have
distinct names and keep the order in which the names first came.
-/

namespace SqlRender

/-- A JSON document. -/
inductive Json
  | null
  | bool (b : Bool)
  | int (n : Int)
  | double (x : Double)
  | string (s : String)
  | array (items : List Json)
  | object (fields : List (String × Json))

namespace Json

/-- Puts a field into an object: a name that is there already keeps its place and takes the
new value. -/
def putField (name : String) (value : Json) : List (String × Json) → List (String × Json)
  | [] => [(name, value)]
  | (other, old) :: rest =>
    if other = name then (name, value) :: rest else (other, old) :: putField name value rest

/-- The value of the field with a name. -/
def field? (name : String) : List (String × Json) → Option Json
  | [] => none
  | (other, value) :: rest => if other = name then some value else field? name rest

/-- A field is smaller than the object it is in. -/
theorem sizeOf_field? {name : String} {fields : List (String × Json)} {value : Json}
    (h : field? name fields = some value) : sizeOf value < sizeOf fields := by
  induction fields with
  | nil => simp [field?] at h
  | cons head rest ih =>
    obtain ⟨other, old⟩ := head
    by_cases hn : other = name
    · simp only [field?, hn, if_true, Option.some.injEq] at h
      subst h
      simp only [List.cons.sizeOf_spec, Prod.mk.sizeOf_spec]
      omega
    · simp only [field?, hn, if_false] at h
      have := ih h
      simp only [List.cons.sizeOf_spec]
      omega

mutual

/-- The document with null in place of the doubles that have no text in JSON. -/
def portable : Json → Json
  | double x => if x.isFinite then double x else null
  | array items => array (portableItems items)
  | object fields => object (portableFields fields)
  | j => j

/-- The items with null in place of the doubles that have no text in JSON. -/
def portableItems : List Json → List Json
  | [] => []
  | item :: rest => item.portable :: portableItems rest

/-- The fields with null in place of the doubles that have no text in JSON. -/
def portableFields : List (String × Json) → List (String × Json)
  | [] => []
  | (name, value) :: rest => (name, value.portable) :: portableFields rest

end

end Json

end SqlRender
