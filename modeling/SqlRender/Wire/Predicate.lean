import SqlRender.Predicate.Basic
import SqlRender.Wire.Value

/-!
# Predicates on the wire

A predicate is a record of its two sides and the name of its operator; a side is a choice
among its forms. Nothing is checked when a predicate is read: a tree that no operator allows
comes through as it is.
-/

namespace SqlRender

/-- Reads an operator by its name. -/
def Operator.ofJson? (j : Json) : Option Operator := j.unitVariant?.bind Operator.ofName?

mutual

/-- A left side as it stands on the wire. -/
def Term.toJson (form : DoubleForm) : Term → Json
  | .field name => .object [("Field", .string name)]
  | .nested p => .object [("Nested", p.toJson form)]

/-- A right side as it stands on the wire. -/
def Operand.toJson (form : DoubleForm) : Operand → Json
  | .value v => .object [("Value", v.toJson form)]
  | .nested p => .object [("Nested", p.toJson form)]
  | .list vs => .object [("List", .array (vs.map (Value.toJson form)))]
  | .absent => .string "Absent"

/-- A predicate as it stands on the wire. -/
def Predicate.toJson (form : DoubleForm) : Predicate → Json
  | .node left op right =>
    .object [("left", left.toJson form), ("operator", .string op.name),
      ("right", right.toJson form)]

end

/-- The names of the fields of a predicate. -/
def Predicate.fieldNames : List String := ["left", "operator", "right"]

mutual

/-- Reads a left side. -/
def Term.ofJson? (form : DoubleForm) (j : Json) : Option Term :=
  match j with
  | .object [(name, content)] =>
    if name = "Field" then content.string?.map .field
    else if name = "Nested" then (Predicate.ofJson? form content).map .nested
    else none
  | _ => none
termination_by sizeOf j

/-- Reads a right side. -/
def Operand.ofJson? (form : DoubleForm) (j : Json) : Option Operand :=
  match j with
  | .string name => if name = "Absent" then some .absent else none
  | .object [(name, content)] =>
    if name = "Value" then (Value.ofJson? form content).map .value
    else if name = "List" then (content.listOf? (Value.ofJson? form)).map .list
    else if name = "Nested" then (Predicate.ofJson? form content).map .nested
    else if name = "Absent" then
      match content with
      | .null => some .absent
      | _ => none
    else none
  | _ => none
termination_by sizeOf j

/-- Reads a predicate. -/
def Predicate.ofJson? (form : DoubleForm) (j : Json) : Option Predicate :=
  if j.isRecord Predicate.fieldNames then
    match hl : j.member? Predicate.fieldNames "left",
        j.member? Predicate.fieldNames "operator",
        hr : j.member? Predicate.fieldNames "right" with
    | some left, some op, some right =>
      have := Json.sizeOf_member? hl
      have := Json.sizeOf_member? hr
      (Term.ofJson? form left).bind fun left =>
        (Operator.ofJson? op).bind fun op =>
          (Operand.ofJson? form right).map fun right => .node left op right
    | _, _, _ => none
  else none
termination_by sizeOf j

end

end SqlRender
