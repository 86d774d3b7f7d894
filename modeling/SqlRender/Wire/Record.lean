import SqlRender.Json.Basic

/-!
# Records and variants on the wire

A record is an object with named fields, or the list of its fields in their order; fields that
the record does not have are passed over. A choice among variants is the name of the variant
alone, or an object with that name as its only field.
-/

namespace SqlRender.Json

/-- Whether a document is a record with the given names. -/
def isRecord (names : List String) : Json → Bool
  | object _ => true
  | array items => items.length ≤ names.length
  | _ => false

/-- The item at the place of a name. -/
def itemAt? (name : String) : List String → List Json → Option Json
  | other :: names, item :: rest => if other = name then some item else itemAt? name names rest
  | _, _ => none

/-- The field of a record with the given names. -/
def member? (names : List String) (name : String) : Json → Option Json
  | object fields => field? name fields
  | array items => itemAt? name names items
  | _ => none

/-- An item is smaller than the list it is in. -/
theorem sizeOf_itemAt? {name : String} {names : List String} {items : List Json} {value : Json}
    (h : itemAt? name names items = some value) : sizeOf value < sizeOf items := by
  induction items generalizing names with
  | nil => cases names <;> simp [itemAt?] at h
  | cons item rest ih =>
    cases names with
    | nil => simp [itemAt?] at h
    | cons other names =>
      by_cases hn : other = name
      · simp only [itemAt?, hn, if_true, Option.some.injEq] at h
        subst h
        simp only [List.cons.sizeOf_spec]
        omega
      · simp only [itemAt?, hn, if_false] at h
        have := ih h
        simp only [List.cons.sizeOf_spec]
        omega

/-- A field is smaller than the record it is in. -/
theorem sizeOf_member? {names : List String} {name : String} {j value : Json}
    (h : member? names name j = some value) : sizeOf value < sizeOf j := by
  cases j with
  | object fields =>
    have := sizeOf_field? (show field? name fields = some value from h)
    simp only [object.sizeOf_spec]
    omega
  | array items =>
    have := sizeOf_itemAt? (show itemAt? name names items = some value from h)
    simp only [array.sizeOf_spec]
    omega
  | _ => simp [member?] at h

/-- The name of a variant, and what stands with it if anything does. -/
def variant? : Json → Option (String × Option Json)
  | string s => some (s, none)
  | object [(name, value)] => some (name, some value)
  | _ => none

/-- The name of a variant with which nothing stands; null counts as nothing. -/
def unitVariant? (j : Json) : Option String :=
  match j.variant? with
  | some (name, none) => some name
  | some (name, some null) => some name
  | _ => none

/-- A text. -/
def string? : Json → Option String
  | string s => some s
  | _ => none

/-- A truth value. -/
def bool? : Json → Option Bool
  | bool b => some b
  | _ => none

/-- A list. -/
def array? : Json → Option (List Json)
  | array items => some items
  | _ => none

/-- A whole number below a bound. -/
def natBelow? (bound : Nat) : Json → Option Nat
  | int n => if 0 ≤ n ∧ n < bound then some n.toNat else none
  | _ => none

/-- A list of things, each read in the same way. -/
def listOf? {α : Type} (read : Json → Option α) (j : Json) : Option (List α) :=
  j.array?.bind fun items => items.mapM read

/-- Something that may be missing or null. -/
def optional? {α : Type} (read : Json → Option α) : Option Json → Option (Option α)
  | none => some none
  | some null => some none
  | some j => (read j).map some

/-- Something that has a default when it is missing. -/
def defaulted? {α : Type} (read : Json → Option α) (default : α) : Option Json → Option α
  | none => some default
  | some j => read j

/-- Something or null. -/
def ofOption {α : Type} (write : α → Json) : Option α → Json
  | none => null
  | some a => write a

/-- A number that is never negative. -/
def ofNat (n : Nat) : Json := int n

end SqlRender.Json
