import SqlRender.Error

/-!
# Checking predicates

A tree is well formed when every node is: a combinator has predicates on both sides, and a
leaf has a field on the left and an operand of the kind its operator takes on the right.
-/

namespace SqlRender

/-- Whether an operand fits the leaf of an operator that is no combinator. -/
def Operand.fits (op : Operator) : Operand → Bool
  | .absent => op.isNullity
  | .list _ => op.isMembership
  | .value (.string _) => op.isPattern || op.isComparison
  | .value .null => false
  | .value _ => op.isComparison
  | .nested _ => false

namespace Predicate

/-- Checks one node and not the nodes below it. -/
def checkNode : Predicate → Except Error Unit
  | .node left op right =>
    if op.isCombinator then
      match left, right with
      | .nested _, .nested _ => .ok ()
      | _, _ => .error (.malformed (.halfCombinator op))
    else
      match left with
      | .nested _ => .error (.malformed (.nestedField op))
      | .field field =>
        if right.fits op then .ok () else .error (.malformed (.misfit op field right))

/-- Checks every node, a parent before its children and the left side before the right. -/
def validate : Predicate → Except Error Unit
  | .node left op right => do
    checkNode (.node left op right)
    match left with
    | .nested p => p.validate
    | .field _ => .ok ()
    match right with
    | .nested p => p.validate
    | _ => .ok ()
termination_by structural p => p

/-- A node whose own sides fit together. -/
def checked (left : Term) (op : Operator) (right : Operand) : Except Error Predicate := do
  checkNode (.node left op right)
  return .node left op right

/-- A field between two bounds, both included. -/
def between (field : String) (bounds : List Value) : Except Error Predicate :=
  match bounds with
  | [low, high] =>
    if low.isNull || high.isNull then .error (.malformed (.nullBound field))
    else
      .ok (and (compare .greaterThanOrEqualTo field low) (compare .lessThanOrEqualTo field high))
  | _ => .error (.malformed (.boundCount field bounds.length))

end Predicate

end SqlRender
