import SqlRender.Draft

/-!
# Predicates as SQL

A predicate is drafted as a fragment in which every node stands in parentheses. A leaf with
nothing to compare with has no SQL text: it is dropped, or refused by a strict dialect, and a
combinator with one side left is that side. A tree of dropped leaves has no fragment at all.
-/

namespace SqlRender

/-- The patterns of a pattern operator around an escaped text: the wildcard stands where more
text may follow. -/
def Operator.patterns (op : Operator) (escaped : String) : List String :=
  match op with
  | .contains | .containsNot => ["%" ++ escaped, "%" ++ escaped ++ "%", escaped ++ "%"]
  | .startsWith | .startsWithNot => [escaped ++ "%"]
  | _ => ["%" ++ escaped]

namespace Predicate

/-- What is left of a combinator: both sides in parentheses, or the only side. -/
def joinFragments (op : Operator) : Option Fragment → Option Fragment → Option Fragment
  | some left, some right =>
    some (.text "(" :: left ++ .text (" " ++ op.symbol ++ " ") :: right ++ [.text ")"])
  | some only, none => some only
  | none, some only => some only
  | none, none => none

/-- Drops a leaf, or refuses to where the dialect is strict. -/
def dropLeaf (d : Dialect) (leaf : Drop) : Draft (Option Fragment) :=
  if d.strictPredicates then .fail (.unrenderable (.dropped leaf))
  else ⟨[.drop leaf], .ok none⟩

/-- A field asked for null; the right side is not looked at. -/
def nullityFragment (op : Operator) (field : String) : Fragment :=
  [.text "(", .name field, .text (" " ++ op.symbol ++ ")")]

/-- A field compared with one value. A comparison with null matches no rows and is dropped. -/
def draftComparison (d : Dialect) (op : Operator) (field : String) :
    Operand → Draft (Option Fragment)
  | .value .null => dropLeaf d ⟨op, field, .nullComparison⟩
  | .value v =>
    some <$> Draft.ofFragment
      [.text "(", .name field, .text (" " ++ op.symbol ++ " "), .slot v, .text ")"]
  | .absent => dropLeaf d ⟨op, field, .nothingToCompare⟩
  | operand => .fail (.unrenderable (.notOneValue op field operand))

/-- The constant for a list without a value: nothing is in it, and everything is not in it. -/
def emptyMembership (op : Operator) : Fragment :=
  [.text (if op = .notIn then "(1 = 1)" else "(1 = 0)")]

/-- A field looked for among the values of a list that are not null. -/
def draftMembership (op : Operator) (field : String) : Operand → Draft Fragment
  | .list vs =>
    let present := vs.filter (!·.isNull)
    if present.isEmpty then pure (emptyMembership op)
    else
      Draft.ofFragment (.text "(" :: .name field :: .text (" " ++ op.symbol ++ " (") ::
        Fragment.joined ", " (present.map fun v => [.slot v]) ++ [.text "))"])
  | operand => .fail (.unrenderable (.notAList op field operand))

/-- A text looked for in a field by patterns, of which one has to match, or none when the
operator is negated. -/
def draftPattern (d : Dialect) (op : Operator) (field : String) :
    Operand → Draft (Option Fragment)
  | .value (.string s) =>
    let term (pattern : String) : Fragment :=
      [.name field, .text (" " ++ op.symbol ++ " "), .slot (.string pattern),
        .text d.profile.like.clause]
    let terms := (op.patterns (d.profile.like.escape s)).map term
    let joiner := if op.isNegated then " AND " else " OR "
    some <$> Draft.ofFragment (.text "(" :: Fragment.joined joiner terms ++ [.text ")"])
  | .value v => dropLeaf d ⟨op, field, .patternKind v.kind⟩
  | _ => dropLeaf d ⟨op, field, .patternShape⟩

/-- The draft of a leaf, by the family of its operator. -/
def draftLeaf (d : Dialect) (op : Operator) (field : String) (right : Operand) :
    Draft (Option Fragment) :=
  match op.family with
  | .nullity => pure (some (nullityFragment op field))
  | .membership => some <$> draftMembership op field right
  | .pattern => draftPattern d op field right
  | _ => draftComparison d op field right

/-- The draft of a predicate; none when all of it is dropped. -/
def draft (d : Dialect) : Predicate → Draft (Option Fragment)
  | .node left op right =>
    if op.isCombinator then
      match left with
      | .field field => .fail (.unrenderable (.fieldOnLeft op field))
      | .nested l =>
        (l.draft d).bind fun front =>
          match right with
          | .nested r => (r.draft d).bind fun back => pure (joinFragments op front back)
          | .absent => pure front
          | operand => .fail (.unrenderable (.literalOnRight op operand))
    else
      match left with
      | .nested _ => .fail (.unrenderable (.nestedField op))
      | .field field => draftLeaf d op field right
termination_by structural p => p

end Predicate

end SqlRender
