import SqlRender.Predicate.Operator
import SqlRender.Value

/-!
# Predicate trees

A predicate sets a term against an operand through an operator. A leaf sets a field against a
literal; a combinator joins two predicates. Any term may be given any operator and operand:
whether they fit is a question of its own, answered when the tree is checked or rendered.
-/

namespace SqlRender

mutual

/-- The left side of a predicate. -/
inductive Term
  | field (name : String)
  | nested (p : Predicate)

/-- The right side of a predicate. -/
inductive Operand
  | value (v : Value)
  | nested (p : Predicate)
  | list (vs : List Value)
  | absent

/-- A predicate: a term, an operator and an operand. -/
inductive Predicate
  | node (left : Term) (operator : Operator) (right : Operand)

end

/-- The word for an operand's kind in messages. -/
def Operand.kind : Operand → String
  | .value v => v.kind
  | .nested _ => "expression"
  | .list _ => "list"
  | .absent => "nothing"

/-- The structure of a list of values. -/
def Value.listText (vs : List Value) : String :=
  "[" ++ String.intercalate ", " (vs.map Value.structureText) ++ "]"

mutual

/-- A term with its structure, as messages show it. -/
def Term.structureText : Term → String
  | .field name => "Field(" ++ Text.quoted name ++ ")"
  | .nested p => "Nested(" ++ p.structureText ++ ")"

/-- An operand with its structure, as messages show it. -/
def Operand.structureText : Operand → String
  | .value v => "Value(" ++ v.structureText ++ ")"
  | .nested p => "Nested(" ++ p.structureText ++ ")"
  | .list vs => "List(" ++ Value.listText vs ++ ")"
  | .absent => "Absent"

/-- A predicate with its structure, as messages show it. -/
def Predicate.structureText : Predicate → String
  | .node left op right =>
    "Expression \x7b left: " ++ left.structureText ++ ", operator: " ++ op.name ++
      ", right: " ++ right.structureText ++ " \x7d"

end

namespace Predicate

/-- A predicate on one field. -/
def leaf (field : String) (op : Operator) (right : Operand) : Predicate :=
  .node (.field field) op right

/-- Two predicates joined by an operator. -/
def join (left : Predicate) (op : Operator) (right : Predicate) : Predicate :=
  .node (.nested left) op (.nested right)

/-- Both predicates hold. -/
def and (left right : Predicate) : Predicate := join left .and right

/-- One of the predicates holds. -/
def or (left right : Predicate) : Predicate := join left .or right

/-- A field compared with a value. -/
def compare (op : Operator) (field : String) (v : Value) : Predicate := leaf field op (.value v)

/-- A field looked for in a list. -/
def member (op : Operator) (field : String) (vs : List Value) : Predicate :=
  leaf field op (.list vs)

/-- A text looked for in a field. -/
def pattern (op : Operator) (field text : String) : Predicate :=
  leaf field op (.value (.string text))

/-- A field asked for null. -/
def nullity (op : Operator) (field : String) : Predicate := leaf field op .absent

/-- The predicates joined to the right: `a op (b op c)`; none for the empty list. -/
def joinAll (op : Operator) : List Predicate → Option Predicate
  | [] => none
  | p :: rest =>
    match joinAll op rest with
    | none => some p
    | some tail => some (join p op tail)

/-- The predicate behind another one that is joined in front of it. -/
def prepend (p : Predicate) (op : Operator) (front : Predicate) : Predicate := join front op p

/-- The names of the fields of a tree, from left to right. -/
def fields : Predicate → List String
  | .node left _ right =>
    let front :=
      match left with
      | .field name => [name]
      | .nested p => p.fields
    let back :=
      match right with
      | .nested p => p.fields
      | _ => []
    front ++ back
termination_by structural p => p

/-- The number of levels of a tree; a leaf has one. -/
def depth : Predicate → Nat
  | .node left _ right =>
    let front :=
      match left with
      | .field _ => 0
      | .nested p => p.depth
    let back :=
      match right with
      | .nested p => p.depth
      | _ => 0
    1 + max front back
termination_by structural p => p

/-- A tree as a reader sees it: every node in parentheses. -/
def text : Predicate → String
  | .node left op right =>
    let front :=
      match left with
      | .field name => name
      | .nested p => p.text
    let back :=
      match right with
      | .value v => " " ++ v.text
      | .nested p => " " ++ p.text
      | .list vs => " [" ++ String.intercalate ", " (vs.map Value.text) ++ "]"
      | .absent => ""
    "(" ++ front ++ " " ++ op.name ++ back ++ ")"
termination_by structural p => p

end Predicate

end SqlRender
