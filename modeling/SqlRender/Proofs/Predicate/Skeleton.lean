import SqlRender.Proofs.Fragment.Skeleton
import SqlRender.Proofs.Predicate.Legible

/-!
# Skeletons of kept predicates

The fixed texts of a predicate have the same tokens on every engine. The skeleton of a kept
predicate is a parenthesis, the tokens of a name unless there is none, and the tokens of an
operator, and these tell to which family the predicate belongs.
-/

namespace SqlRender

/-- The tokens of the symbol of an operator. -/
def Operator.tokens : Operator → List Token
  | and => [.word ['A', 'N', 'D']]
  | or => [.word ['O', 'R']]
  | equals => [.symbol '=']
  | notEquals => [.symbol '<', .symbol '>']
  | greaterThan => [.symbol '>']
  | greaterThanOrEqualTo => [.symbol '>', .symbol '=']
  | lessThan => [.symbol '<']
  | lessThanOrEqualTo => [.symbol '<', .symbol '=']
  | isIn => [.word ['I', 'N']]
  | notIn => [.word ['N', 'O', 'T'], .word ['I', 'N']]
  | contains | startsWith | endsWith => [.word ['L', 'I', 'K', 'E']]
  | containsNot | startsWithNot | endsWithNot => [.word ['N', 'O', 'T'], .word ['L', 'I', 'K', 'E']]
  | isNull => [.word ['I', 'S'], .word ['N', 'U', 'L', 'L']]
  | isNotNull => [.word ['I', 'S'], .word ['N', 'O', 'T'], .word ['N', 'U', 'L', 'L']]

/-- A token that stands in the tokens of a name. -/
def Token.isNamePart : Token → Bool
  | name _ => true
  | symbol c => c == '*' || c == '.'
  | _ => false

/-- The tokens of a name are parts of a name. -/
theorem isNamePart_of_mem_nameTokens {name : String} : ∀ t ∈ nameTokens name, t.isNamePart := by
  intro t ht
  rcases eq_of_mem_nameTokens ht with rfl | ⟨part, rfl⟩
  · rfl
  · rw [Token.ofPart]
    split <;> rfl

/-- A token that stands in the symbol of an operator or in a constant. -/
def Token.isSign : Token → Bool
  | word _ => true
  | symbol c => ['=', '<', '>'].contains c
  | _ => false

namespace Profile

variable (p : Profile)

/-- Every engine reads the symbol of an operator in the same way. -/
theorem tokens_symbol (op : Operator) : p.tokens (" " ++ op.symbol ++ " ").toList = op.tokens := by
  rw [tokens_eq_of_all p .sqlite op.isSeparator_symbol.1]
  cases op <;> decide

/-- The symbol of an operator in front of a parenthesis. -/
theorem tokens_symbol_opening (op : Operator) :
    p.tokens (" " ++ op.symbol ++ " (").toList = op.tokens ++ [.symbol '('] := by
  rw [tokens_eq_of_all p .sqlite op.isSeparator_symbol_opening.1]
  cases op <;> decide

/-- The symbol of an operator that ends a leaf. -/
theorem tokens_symbol_closing (op : Operator) :
    p.tokens (" " ++ op.symbol ++ ")").toList = op.tokens ++ [.symbol ')'] := by
  rw [tokens_eq_of_all p .sqlite op.isSeparator_symbol_closing.1]
  cases op <;> decide

/-- An opening parenthesis is one token. -/
theorem tokens_opening : p.tokens "(".toList = [.symbol '('] :=
  tokens_eq_of_all p .sqlite (by decide)

/-- A closing parenthesis is one token. -/
theorem tokens_closing : p.tokens ")".toList = [.symbol ')'] :=
  tokens_eq_of_all p .sqlite (by decide)

/-- Two closing parentheses are two tokens. -/
theorem tokens_closings : p.tokens "))".toList = [.symbol ')', .symbol ')'] :=
  tokens_eq_of_all p .sqlite (by decide)

/-- A comma is one token. -/
theorem tokens_comma : p.tokens ", ".toList = [.symbol ','] :=
  tokens_eq_of_all p .sqlite (by decide)

/-- A constant is the comparison of two numbers. -/
theorem tokens_constant (holds : Bool) :
    p.tokens (if holds then "(1 = 1)" else "(1 = 0)").toList =
      [.symbol '(', .word ['1'], .symbol '=', .word [if holds then '1' else '0'],
        .symbol ')'] := by
  cases holds <;> exact tokens_eq_of_all p .sqlite (by decide)

/-- The word between two patterns is one token. -/
theorem tokens_joiner (op : Operator) :
    p.tokens (Kept.joiner op).toList =
      [.word (if op.isNegated then ['A', 'N', 'D'] else ['O', 'R'])] := by
  unfold Kept.joiner
  split <;> exact tokens_eq_of_all p .sqlite (by decide)

end Profile

namespace Operator

/-- The tokens of an operator are signs. -/
theorem isSign_of_mem_tokens (op : Operator) : ∀ t ∈ op.tokens, t.isSign := by
  cases op <;> decide

/-- The tokens of an operator start with one that is no part of a name. -/
theorem tokens_eq_cons (op : Operator) :
    ∃ first rest, op.tokens = first :: rest ∧ first.isNamePart = false := by
  cases op <;> exact ⟨_, _, rfl, rfl⟩

/-- In front of the tokens of an operator the parts of a name are the name. -/
theorem takeWhile_nameTokens (op : Operator) (field : String) (ts : List Token) :
    (nameTokens field ++ (op.tokens ++ ts)).takeWhile Token.isNamePart = nameTokens field := by
  obtain ⟨first, rest, hop, hfirst⟩ := op.tokens_eq_cons
  rw [List.takeWhile_append_of_pos isNamePart_of_mem_nameTokens, hop, List.cons_append,
    List.takeWhile_cons_of_neg (by simp [hfirst]), List.append_nil]

/-- Behind the parts of a name the tokens of the operator stand first. -/
theorem dropWhile_nameTokens (op : Operator) (field : String) (ts : List Token) :
    (nameTokens field ++ (op.tokens ++ ts)).dropWhile Token.isNamePart = op.tokens ++ ts := by
  obtain ⟨first, rest, hop, hfirst⟩ := op.tokens_eq_cons
  rw [List.dropWhile_append_of_pos isNamePart_of_mem_nameTokens, hop, List.cons_append,
    List.dropWhile_cons_of_neg (by simp [hfirst])]

/-- Every operator is in the list of operators. -/
theorem mem_all (op : Operator) : op ∈ all := by cases op <;> decide

/-- The tokens of an operator determine its family and its sign, and outside patterns the
operator itself. -/
theorem eq_of_tokens {op op' : Operator} (h : op.tokens = op'.tokens) :
    op.family = op'.family ∧ op.isNegated = op'.isNegated ∧ (op.family ≠ .pattern → op = op') := by
  have hall : ∀ op ∈ all, ∀ op' ∈ all, op.tokens = op'.tokens →
      op.family = op'.family ∧ op.isNegated = op'.isNegated ∧
        (op.family ≠ .pattern → op = op') := by decide
  exact hall op op.mem_all op' op'.mem_all h

end Operator

namespace Kept

open Fragment

variable {d : Dialect}

/-- The skeleton of the fragment of a kept predicate. -/
def skeleton (d : Dialect) (k : Kept) : List Token := (k.fragment d).skeleton d

/-- The tokens of the placeholders of so many values. -/
def listTokens (count : Nat) : List Token :=
  [Token.symbol ','].intercalate (List.replicate count [.placeholder []])

/-- The tokens of a pattern term behind the tokens of its operator. -/
def termEnd (d : Dialect) : List Token :=
  .placeholder [] :: d.profile.tokens d.profile.like.clause.toList

/-- The tokens of a pattern term. -/
def termTokens (d : Dialect) (op : Operator) (field : String) : List Token :=
  nameTokens field ++ (op.tokens ++ termEnd d)

/-- Whether an operator looks for a text at any place. -/
def anywhere (op : Operator) : Bool := op = .contains || op = .containsNot

/-- The tokens behind the first term of a pattern: two more terms when the text may stand
anywhere. -/
def moreTokens (d : Dialect) (op : Operator) (field : String) : List Token :=
  let joiner := Token.word (if op.isNegated then ['A', 'N', 'D'] else ['O', 'R'])
  if anywhere op then
    joiner :: (termTokens d op field ++ (joiner :: (termTokens d op field ++ [.symbol ')'])))
  else [.symbol ')']

/-- The skeleton of a constant. -/
theorem skeleton_constant (holds : Bool) : skeleton d (constant holds) =
    [.symbol '(', .word ['1'], .symbol '=', .word [if holds then '1' else '0'], .symbol ')'] := by
  rw [skeleton, fragment, skeleton_text, Profile.tokens_constant, skeleton_nil, List.append_nil]

/-- The skeleton of a question for null. -/
theorem skeleton_nullity (op : OperatorOf .nullity) (field : String) :
    skeleton d (nullity op field) =
      .symbol '(' :: (nameTokens field ++ (op.1.tokens ++ [.symbol ')'])) := by
  simp only [skeleton, fragment, Predicate.nullityFragment, skeleton_text, skeleton_name,
    Profile.tokens_opening, Profile.tokens_symbol_closing, skeleton_nil, List.cons_append,
    List.nil_append, List.append_nil]

/-- The skeleton of a comparison. -/
theorem skeleton_comparison (op : OperatorOf .comparison) (field : String) (v : Value) :
    skeleton d (comparison op field v) =
      .symbol '(' :: (nameTokens field ++ (op.1.tokens ++ [.placeholder [], .symbol ')'])) := by
  simp only [skeleton, fragment, skeleton_text, skeleton_name, skeleton_slot,
    Profile.tokens_opening, Profile.tokens_symbol, Profile.tokens_closing, skeleton_nil,
    List.cons_append, List.nil_append, List.append_nil]

/-- The skeleton of a membership. -/
theorem skeleton_membership (op : OperatorOf .membership) (field : String) (vs : List Value) :
    skeleton d (membership op field vs) =
      .symbol '(' :: (nameTokens field ++ (op.1.tokens ++ (.symbol '(' ::
        (listTokens vs.length ++ [.symbol ')', .symbol ')'])))) := by
  have hslots : (vs.map fun v => [Piece.slot v]).map (Fragment.skeleton d) =
      List.replicate vs.length [.placeholder []] := by
    rw [List.map_map, ← List.map_const']
    rfl
  simp only [skeleton, fragment, skeleton_text, skeleton_name, skeleton_append, skeleton_joined,
    hslots, listTokens, Profile.tokens_opening, Profile.tokens_symbol_opening,
    Profile.tokens_comma, Profile.tokens_closings, skeleton_nil, List.cons_append,
    List.nil_append, List.append_nil, List.append_assoc]

/-- The skeleton of a pattern. -/
theorem skeleton_pattern (op : OperatorOf .pattern) (field text : String) :
    skeleton d (pattern op field text) =
      .symbol '(' ::
        (nameTokens field ++ (op.1.tokens ++ (termEnd d ++ moreTokens d op field))) := by
  have hterm : ∀ op pattern, Fragment.skeleton d (patternTerm d op field pattern) =
      termTokens d op field := by
    intro op pattern
    simp only [patternTerm, termTokens, termEnd, skeleton_name, skeleton_text, skeleton_slot,
      Profile.tokens_symbol, skeleton_nil, List.append_nil]
  have hterms : skeleton d (pattern op field text) = .symbol '(' ::
      ((d.profile.tokens (joiner op).toList).intercalate
        ((op.1.patterns (d.profile.like.escape text)).map fun _ => termTokens d op field) ++
          [.symbol ')']) := by
    simp only [skeleton, fragment, skeleton_text, skeleton_append, skeleton_joined, List.map_map,
      Function.comp_def, hterm, Profile.tokens_opening, Profile.tokens_closing, skeleton_nil,
      List.cons_append, List.nil_append, List.append_nil]
  rw [hterms, Profile.tokens_joiner]
  obtain ⟨op, hop⟩ := op
  cases op <;> cases hop <;>
    simp [Operator.patterns, moreTokens, anywhere, termTokens, List.intercalate_cons_cons]

/-- The skeleton of two joined predicates. -/
theorem skeleton_join (op : OperatorOf .combinator) (left right : Kept) :
    skeleton d (join op left right) =
      .symbol '(' :: (left.skeleton d ++ (op.1.tokens ++ (right.skeleton d ++ [.symbol ')']))) := by
  simp only [skeleton, fragment, skeleton_text, skeleton_append, Profile.tokens_opening,
    Profile.tokens_symbol, Profile.tokens_closing, skeleton_nil, List.cons_append, List.nil_append,
    List.append_nil, List.append_assoc]

end Kept

end SqlRender
