/-!
# Operators

The operators of a predicate fall into five families: combinators join two predicates, and
the others set a field against an operand of the kind that the family takes.
-/

namespace SqlRender

/-- The families of operators. -/
inductive OperatorFamily
  | combinator
  | comparison
  | membership
  | pattern
  | nullity
deriving DecidableEq

/-- The operators of a predicate. -/
inductive Operator
  | and
  | or
  | equals
  | notEquals
  | isIn
  | notIn
  | contains
  | containsNot
  | startsWith
  | startsWithNot
  | endsWith
  | endsWithNot
  | greaterThan
  | greaterThanOrEqualTo
  | lessThan
  | lessThanOrEqualTo
  | isNull
  | isNotNull
deriving DecidableEq

namespace Operator

/-- Every operator. -/
def all : List Operator :=
  [and, or, equals, notEquals, isIn, notIn, contains, containsNot, startsWith, startsWithNot,
    endsWith, endsWithNot, greaterThan, greaterThanOrEqualTo, lessThan, lessThanOrEqualTo,
    isNull, isNotNull]

/-- The name of an operator, on the wire and in messages. -/
def name : Operator → String
  | and => "And"
  | or => "Or"
  | equals => "Equals"
  | notEquals => "NotEquals"
  | isIn => "In"
  | notIn => "NotIn"
  | contains => "Contains"
  | containsNot => "ContainsNot"
  | startsWith => "StartsWith"
  | startsWithNot => "StartsWithNot"
  | endsWith => "EndsWith"
  | endsWithNot => "EndsWithNot"
  | greaterThan => "GreaterThan"
  | greaterThanOrEqualTo => "GreaterThanOrEqualTo"
  | lessThan => "LessThan"
  | lessThanOrEqualTo => "LessThanOrEqualTo"
  | isNull => "IsNull"
  | isNotNull => "IsNotNull"

/-- The operator with a name. -/
def ofName? (s : String) : Option Operator := all.find? (·.name == s)

/-- An operator is found by its name. -/
theorem ofName?_name (op : Operator) : ofName? op.name = some op := by cases op <;> decide

/-- The family of an operator. -/
def family : Operator → OperatorFamily
  | and | or => .combinator
  | equals | notEquals | greaterThan | greaterThanOrEqualTo | lessThan | lessThanOrEqualTo =>
    .comparison
  | isIn | notIn => .membership
  | contains | containsNot | startsWith | startsWithNot | endsWith | endsWithNot => .pattern
  | isNull | isNotNull => .nullity

/-- Whether an operator joins two predicates. -/
def isCombinator (op : Operator) : Bool := op.family = .combinator

/-- Whether an operator compares with one value. -/
def isComparison (op : Operator) : Bool := op.family = .comparison

/-- Whether an operator looks for a value in a list. -/
def isMembership (op : Operator) : Bool := op.family = .membership

/-- Whether an operator looks for a text inside another one. -/
def isPattern (op : Operator) : Bool := op.family = .pattern

/-- Whether an operator asks for null. -/
def isNullity (op : Operator) : Bool := op.family = .nullity

/-- Whether an operator is the negation of another one of its family. -/
def isNegated : Operator → Bool
  | notIn | containsNot | startsWithNot | endsWithNot | isNotNull => true
  | _ => false

/-- The SQL keyword or symbol of an operator. -/
def symbol : Operator → String
  | and => "AND"
  | or => "OR"
  | equals => "="
  | notEquals => "<>"
  | greaterThan => ">"
  | greaterThanOrEqualTo => ">="
  | lessThan => "<"
  | lessThanOrEqualTo => "<="
  | isIn => "IN"
  | notIn => "NOT IN"
  | contains | startsWith | endsWith => "LIKE"
  | containsNot | startsWithNot | endsWithNot => "NOT LIKE"
  | isNull => "IS NULL"
  | isNotNull => "IS NOT NULL"

end Operator

end SqlRender
