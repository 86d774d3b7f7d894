import SqlRender.Proofs.Fragment.Tokens
import SqlRender.Proofs.Like.Sanitized
import SqlRender.Proofs.Predicate.Modes
import SqlRender.Proofs.Predicate.Skeleton
import SqlRender.Proofs.Token.Literal

/-!
# What a search for a text asks

An engine reads the condition that a pattern operator compiles to as tests of one column against
patterns, with the words between them and with the clause that names an escape character. With
placeholders it puts the patterns in from the parameters, and with literals it reads them from the
text. Either way the condition holds of a text exactly when the operator finds in it what is
searched for: the text that was given, or with literals what a literal can carry of it.
-/

namespace SqlRender

/-- A test of a column against a pattern, as it stands in a condition. -/
structure LikeTest where
  column : List Token
  negated : Bool
  pattern : List Char
  /-- The escape character of the clause behind the pattern. -/
  clause : Option Char
deriving DecidableEq

namespace LikeTest

/-- Reads the clause behind a pattern. -/
def readClause? : List Token → Option (Option Char)
  | [] => some none
  | [.word ['E', 'S', 'C', 'A', 'P', 'E'], .string [c]] => some (some c)
  | _ => none

/-- Reads a pattern, which may be marked as a national string, and the clause behind it. -/
def readPattern? : List Token → Option (List Char × Option Char)
  | .word ['N'] :: .string s :: rest => (readClause? rest).map (s, ·)
  | .string s :: rest => (readClause? rest).map (s, ·)
  | _ => none

/-- Reads a test. -/
def ofTokens? (tokens : List Token) : Option LikeTest :=
  let test (negated : Bool) (operand : List Token) : Option LikeTest :=
    (readPattern? operand).map fun (pattern, clause) =>
      ⟨tokens.takeWhile Token.isNamePart, negated, pattern, clause⟩
  match tokens.dropWhile Token.isNamePart with
  | .word ['L', 'I', 'K', 'E'] :: operand => test false operand
  | .word ['N', 'O', 'T'] :: .word ['L', 'I', 'K', 'E'] :: operand => test true operand
  | _ => none

/-- Whether a column with a text passes a test; none when the pattern is not well-formed. -/
def value? (e : Engine) (t : List Char) (test : LikeTest) : Option Bool :=
  ((e.likeRules test.clause).like? test.pattern t).map (test.negated ^^ ·)

end LikeTest

/-- Alternatives of tests, of which those of one alternative have to be passed together. -/
abbrev LikeCondition := List (List LikeTest)

/-- The word between tests that have to be passed together, or between alternatives. -/
def joinWord (together : Bool) : Token := .word (if together then ['A', 'N', 'D'] else ['O', 'R'])

namespace LikeCondition

/-- The tokens of each test of each alternative; the word between tests binds closer than the one
between alternatives. -/
def splitTests (tokens : List Token) : List (List (List Token)) :=
  (tokens.splitOn (joinWord false)).map (List.splitOn (joinWord true))

/-- Reads a condition in parentheses. -/
def ofTokens? : List Token → Option LikeCondition
  | .symbol '(' :: tokens =>
    if tokens.getLast? = some (.symbol ')') then
      (splitTests tokens.dropLast).mapM (List.mapM LikeTest.ofTokens?)
    else none
  | _ => none

/-- Whether a condition holds of a column with a text; none when a pattern is not well-formed. -/
def value? (e : Engine) (t : List Char) (condition : LikeCondition) : Option Bool :=
  (condition.mapM (List.mapM (LikeTest.value? e t))).map fun values => values.any (·.all id)

end LikeCondition

/-- One alternative of all the tests that have to be passed together, or one of each test. -/
def alternatives {α : Type} (together : Bool) (tests : List α) : List (List α) :=
  if together then [tests] else tests.map ([·])

section Alternatives

variable {α β γ : Type} {f : α → β}

/-- What every test comes to, the alternatives of the tests come to. -/
theorem mapM_alternatives {g : β → Option γ} {h : α → γ} (hgf : ∀ x, g (f x) = some (h x))
    (together : Bool) (xs : List α) :
    (alternatives together (xs.map f)).mapM (List.mapM g) =
      some (alternatives together (xs.map h)) := by
  have htests : ∀ ys : List α, (ys.map f).mapM g = some (ys.map h) := by
    intro ys
    rw [List.mapM_map, show g ∘ f = fun x => pure (h x) from funext hgf]
    exact List.mapM_pure
  cases together with
  | true => simp [alternatives, htests]
  | false =>
    have halone : List.mapM g ∘ (fun x => [f x]) = fun x => pure [h x] :=
      funext fun x => htests [x]
    simp only [alternatives, Bool.false_eq_true, if_false, List.map_map]
    rw [List.mapM_map]
    exact (congrArg (List.mapM · xs) halone).trans List.mapM_pure

/-- The tests of all alternatives are the tests. -/
theorem flatten_alternatives (together : Bool) (xs : List α) :
    (alternatives together xs).flatten = xs := by
  cases together with
  | true => simp [alternatives]
  | false => simp [alternatives, ← List.flatMap_def]

/-- All tests that have to be passed together are passed, or one of them. -/
theorem any_alternatives (together : Bool) (values : List Bool) :
    (alternatives together values).any (·.all id) =
      if together then values.all id else values.any id := by
  cases together with
  | true => simp [alternatives]
  | false =>
    have hone : (fun vs : List Bool => vs.all id) ∘ (fun value => [value]) = id := by
      funext value
      simp
    simp only [alternatives, Bool.false_eq_true, if_false, List.any_map, hone]

end Alternatives

/-- The condition that an engine reads in a text with the parameters that are bound in it. -/
def Dialect.readCondition? (d : Dialect) (sql : String) (params : List Parameter) :
    Option LikeCondition := (d.readTokens? sql params).bind LikeCondition.ofTokens?

namespace Operator

/-- What an operator asks of a text when it searches for another one. -/
def finds (op : Operator) (s t : List Char) : Bool :=
  match op with
  | contains => s <:+: t
  | containsNot => ¬s <:+: t
  | startsWith => s <+: t
  | startsWithNot => ¬s <+: t
  | endsWith => s <:+ t
  | endsWithNot => ¬s <:+ t
  | _ => false

/-- The sides on which each pattern of an operator lets anything stand. -/
def sides (op : Operator) : List (Bool × Bool) :=
  match op with
  | contains | containsNot => [(true, false), (true, true), (false, true)]
  | startsWith | startsWithNot => [(false, true)]
  | _ => [(true, false)]

/-- The patterns of an operator are the escaped text with wildcards on these sides. -/
theorem patterns_escape (op : Operator) (style : LikeStyle) (s : String) :
    (op.patterns (style.escape s)).map String.toList =
      op.sides.map fun side => style.around side.1 side.2 s.toList := by
  cases op <;> simp [patterns, sides, LikeStyle.escape, LikeStyle.around]

/-- The patterns of a text, sanitised, are the patterns of the sanitised text. -/
theorem patterns_sanitized (op : Operator) (style : LikeStyle) (s : String) :
    (op.patterns (style.escape s)).map (fun pattern => sanitized pattern.toList) =
      (op.patterns (style.escape (String.ofList (sanitized s.toList)))).map String.toList := by
  have hmap := congrArg (List.map sanitized) (op.patterns_escape style s)
  rw [List.map_map, List.map_map] at hmap
  rw [patterns_escape, String.toList_ofList]
  refine hmap.trans (List.map_congr_left fun side _ => ?_)
  exact style.sanitized_around side.1 side.2 s.toList

/-- An operator without a negation finds what one of its patterns finds, and one with a negation
what none of them does. -/
theorem finds_eq (op : OperatorOf .pattern) (s t : List Char) :
    op.1.finds s t =
      if op.1.isNegated then op.1.sides.all fun side => !foundIn side.1 side.2 s t
      else op.1.sides.any fun side => foundIn side.1 side.2 s t := by
  -- what is at the start or at the end is anywhere
  have hanywhere : decide (s <:+: t) =
      (foundIn true false s t || (foundIn true true s t || foundIn false true s t)) := by
    rw [Bool.eq_iff_iff, Bool.or_eq_true, Bool.or_eq_true]
    simp only [foundIn, decide_eq_true_eq]
    constructor
    · exact fun h => .inr (.inl h)
    · rintro (h | h | h)
      · exact h.isInfix
      · exact h
      · exact h.isInfix
  obtain ⟨op, hop⟩ := op
  cases op <;> cases hop
  · simp [finds, sides, isNegated, hanywhere]
  · simp [finds, sides, isNegated, hanywhere]
  · simp [finds, sides, isNegated, foundIn]
  · simp [finds, sides, isNegated, foundIn]
  · simp [finds, sides, isNegated, foundIn]
  · simp [finds, sides, isNegated, foundIn]

end Operator

section Reading

variable {d : Dialect}

/-- The test of a column against a pattern of an operator. -/
def LikeTest.ofPattern (d : Dialect) (op : Operator) (field : String) (pattern : List Char) :
    LikeTest := ⟨nameTokens field, op.isNegated, pattern, d.profile.like.clauseMark?⟩

/-- The tokens of a test, with those of its operand. -/
def testTokens (d : Dialect) (op : Operator) (field : String) (operand : List Token) :
    List Token :=
  nameTokens field ++ (op.tokens ++ (operand ++ d.profile.tokens d.profile.like.clause.toList))

/-- The tokens of a text, which may be marked as a national string. -/
def IsOperand (s : List Char) (operand : List Token) : Prop :=
  operand = [.string s] ∨ operand = [.word ['N'], .string s]

/-- The clause behind a pattern is read as what it names. -/
theorem readClause?_clause (e : Engine) :
    LikeTest.readClause? (e.profile.tokens e.profile.like.clause.toList) =
      some e.profile.like.clauseMark? := by cases e <;> decide

/-- A test of an operator is read as the test that it is. -/
theorem LikeTest.ofTokens?_testTokens (op : OperatorOf .pattern) (field : String) {s : List Char}
    {operand : List Token} (hoperand : IsOperand s operand) :
    ofTokens? (testTokens d op field operand) = some (ofPattern d op field s) := by
  have hpattern : readPattern? (operand ++ d.profile.tokens d.profile.like.clause.toList) =
      some (s, d.profile.like.clauseMark?) := by
    have hclause := readClause?_clause d.engine
    rcases hoperand with rfl | rfl
    · exact congrArg (Option.map (s, ·)) hclause
    · exact congrArg (Option.map (s, ·)) hclause
  rw [ofTokens?, testTokens, Operator.takeWhile_nameTokens, Operator.dropWhile_nameTokens]
  obtain ⟨op, hfamily⟩ := op
  cases op <;> cases hfamily <;> simp [Operator.tokens, hpattern, ofPattern, Operator.isNegated]

/-- The words between tests are no part of a test. -/
theorem joinWord_not_mem_testTokens (op : OperatorOf .pattern) (field : String) {s : List Char}
    {operand : List Token} (hoperand : IsOperand s operand) (together : Bool) :
    joinWord together ∉ testTokens d op field operand := by
  have hname : joinWord together ∉ nameTokens field := by
    intro h
    have hpart := isNamePart_of_mem_nameTokens _ h
    cases hpart
  have hop : joinWord together ∉ op.1.tokens := by
    obtain ⟨op, hfamily⟩ := op
    cases op <;> cases hfamily <;> cases together <;> decide
  have hclause : joinWord together ∉ d.profile.tokens d.profile.like.clause.toList := by
    rw [Dialect.profile]
    cases d.engine <;> cases together <;> decide
  have htext : joinWord together ∉ operand := by
    rcases hoperand with rfl | rfl <;> cases together <;> simp [joinWord]
  simp only [testTokens, List.mem_append, not_or]
  exact ⟨hname, hop, htext, hclause⟩

/-- Tests with a word between them are split at that word. -/
theorem LikeCondition.splitTests_intercalate {together : Bool} {tss : List (List Token)}
    (hne : tss ≠ []) (hwords : ∀ word, ∀ ts ∈ tss, joinWord word ∉ ts) :
    splitTests ([joinWord together].intercalate tss) = alternatives together tss := by
  have hwhole : ∀ {x : Token} {ts : List Token}, x ∉ ts → ts.splitOn x = [ts] := by
    intro x ts hx
    have h : ([x].intercalate [ts]).splitOn x = [ts] :=
      List.splitOn_intercalate x (by simpa using hx) (List.cons_ne_nil ts [])
    rwa [List.intercalate_singleton] at h
  have hsplit : ([joinWord together].intercalate tss).splitOn (joinWord together) = tss :=
    List.splitOn_intercalate _ (hwords together) hne
  cases together with
  | true =>
    have hnone : joinWord false ∉ [joinWord true].intercalate tss := by
      intro h
      rcases mem_intercalate h with h | ⟨ts, hts, h⟩
      · revert h
        decide
      · exact hwords false ts hts h
    rw [splitTests, hwhole hnone, List.map_singleton, hsplit]
    rfl
  | false =>
    rw [splitTests, hsplit]
    exact List.map_congr_left fun ts hts => hwhole (hwords true ts hts)

/-- A condition is read test by test. -/
theorem LikeCondition.ofTokens?_intercalate {α : Type} {together : Bool} {xs : List α}
    {tokens : α → List Token} {test : α → LikeTest} (hne : xs ≠ [])
    (hread : ∀ x, LikeTest.ofTokens? (tokens x) = some (test x))
    (hwords : ∀ word x, joinWord word ∉ tokens x) :
    ofTokens? (.symbol '(' :: ([joinWord together].intercalate (xs.map tokens) ++ [.symbol ')'])) =
      some (alternatives together (xs.map test)) := by
  have hsplit : splitTests ([joinWord together].intercalate (xs.map tokens)) =
      alternatives together (xs.map tokens) := by
    refine splitTests_intercalate (by simpa using hne) fun word ts hts => ?_
    obtain ⟨x, -, rfl⟩ := List.mem_map.mp hts
    exact hwords word x
  have hlast : ([joinWord together].intercalate (xs.map tokens) ++ [Token.symbol ')']).getLast? =
      some (.symbol ')') := by simp
  rw [ofTokens?, if_pos hlast, List.dropLast_concat, hsplit]
  exact mapM_alternatives hread together xs

/-- The tokens of a pattern are its tests in parentheses. -/
theorem Kept.tokens_pattern (op : OperatorOf .pattern) (field text : String)
    (operand : Value → List Token) :
    ((pattern op field text).fragment d).tokens d operand =
      .symbol '(' :: ([joinWord op.1.isNegated].intercalate
        ((op.1.patterns (d.profile.like.escape text)).map fun pattern =>
          testTokens d op field (operand (.string pattern))) ++ [.symbol ')']) := by
  have hterm : ∀ pattern, (patternTerm d op field pattern).tokens d operand =
      testTokens d op field (operand (.string pattern)) := by
    intro pattern
    simp only [patternTerm, testTokens, Fragment.tokens_name, Fragment.tokens_text,
      Fragment.tokens_slot, Profile.tokens_symbol, Fragment.tokens_nil, List.append_nil]
  simp only [fragment, Fragment.tokens_text, Fragment.tokens_append, Fragment.tokens_joined,
    List.map_map, Function.comp_def, hterm, Profile.tokens_opening, Profile.tokens_joiner,
    Profile.tokens_closing, Fragment.tokens_nil, joinWord, List.cons_append, List.nil_append,
    List.append_nil]

/-- The condition of a pattern is read with a test for each of its patterns, as what is read of
the pattern. -/
theorem LikeCondition.ofTokens?_pattern (op : OperatorOf .pattern) (field text : String)
    {operand : Value → List Token} {content : String → List Char}
    (hoperand : ∀ pattern, IsOperand (content pattern) (operand (.string pattern))) :
    ofTokens? (((Kept.pattern op field text).fragment d).tokens d operand) =
      some (alternatives op.1.isNegated ((op.1.patterns (d.profile.like.escape text)).map
        fun pattern => LikeTest.ofPattern d op field (content pattern))) := by
  have hne : op.1.patterns (d.profile.like.escape text) ≠ [] := by
    obtain ⟨op, hop⟩ := op
    cases op <;> cases hop <;> simp [Operator.patterns]
  rw [Kept.tokens_pattern]
  exact ofTokens?_intercalate hne
    (fun pattern => LikeTest.ofTokens?_testTokens op field (hoperand pattern))
    (fun word pattern => joinWord_not_mem_testTokens op field (hoperand pattern) word)

/-- A test of a text with wildcards around it is passed by the texts that it is found in, or by the
other ones. -/
theorem LikeTest.value?_ofPattern (op : Operator) (field : String) (front back : Bool)
    (s t : List Char) :
    (ofPattern d op field (d.profile.like.around front back s)).value? d.engine t =
      some (op.isNegated ^^ foundIn front back s t) := by
  rw [value?, ofPattern, Dialect.profile, LikeStyle.rules_eq, LikeStyle.like?_around]
  rfl

end Reading

/-- A condition searches a column for a text as an operator does: it tests the column against the
patterns of the operator for the text, and it holds of the texts that the operator asks for. -/
structure LikeCondition.Searches (d : Dialect) (op : Operator) (field s : String)
    (condition : LikeCondition) : Prop where
  tests : condition.flatten = (op.patterns (d.profile.like.escape s)).map fun pattern =>
    LikeTest.ofPattern d op field pattern.toList
  value : ∀ t, condition.value? d.engine t = some (op.finds s.toList t)

/-- The tests of the patterns of an operator search for the text of the patterns. -/
theorem LikeCondition.searches_alternatives (d : Dialect) (op : OperatorOf .pattern)
    (field s : String) :
    Searches d op field s (alternatives op.1.isNegated
      ((op.1.patterns (d.profile.like.escape s)).map fun pattern =>
        LikeTest.ofPattern d op field pattern.toList)) where
  tests := flatten_alternatives ..
  value t := by
    have hpatterns : ((op.1.patterns (d.profile.like.escape s)).map fun pattern =>
        LikeTest.ofPattern d op field pattern.toList) =
        op.1.sides.map fun side =>
          LikeTest.ofPattern d op field (d.profile.like.around side.1 side.2 s.toList) := by
      have h := congrArg (List.map (LikeTest.ofPattern d op field))
        (op.1.patterns_escape d.profile.like s)
      rwa [List.map_map, List.map_map] at h
    rw [hpatterns, value?, mapM_alternatives fun side : Bool × Bool =>
      LikeTest.value?_ofPattern op.1 field side.1 side.2 s.toList t, Option.map_some,
      any_alternatives, Operator.finds_eq]
    cases op.1.isNegated <;> simp

/-- The condition of a pattern searches for the text whose patterns are read in it. -/
theorem LikeCondition.searches_of_contents (d : Dialect) (op : OperatorOf .pattern)
    (field text : String) {s : String} {operand : Value → List Token}
    {content : String → List Char}
    (hoperand : ∀ pattern, IsOperand (content pattern) (operand (.string pattern)))
    (hcontent : (op.1.patterns (d.profile.like.escape text)).map content =
      (op.1.patterns (d.profile.like.escape s)).map String.toList) :
    ∃ condition, ofTokens? (((Kept.pattern op field text).fragment d).tokens d operand) =
      some condition ∧ condition.Searches d op field s := by
  have htests : ((op.1.patterns (d.profile.like.escape text)).map fun pattern =>
      LikeTest.ofPattern d op field (content pattern)) =
      (op.1.patterns (d.profile.like.escape s)).map fun pattern =>
        LikeTest.ofPattern d op field pattern.toList := by
    have h := congrArg (List.map (LikeTest.ofPattern d op field)) hcontent
    rwa [List.map_map, List.map_map] at h
  refine ⟨_, ofTokens?_pattern op field text hoperand, ?_⟩
  rw [htests]
  exact searches_alternatives d op field s

/-- A search for a text is drafted as the fragment of its patterns. -/
theorem Predicate.draft_pattern (d : Dialect) (op : OperatorOf .pattern) (field text : String) :
    (Predicate.pattern op field text).draft d =
      some <$> Draft.ofFragment ((Kept.pattern op field text).fragment d) := by
  obtain ⟨op, hop⟩ := op
  cases op <;> cases hop <;> rfl

namespace Compiler

variable {op : OperatorOf .pattern} {field s : String}

/-- A search for a text is compiled as the draft of its patterns. -/
theorem compile_pattern (c : Compiler) :
    c.compile (.pattern op field s) =
      c.run c.finish (some <$> Draft.ofFragment ((Kept.pattern op field s).fragment c.dialect)) := by
  rw [← Predicate.draft_pattern]
  rfl

/-- The draft of a fragment uses the values of its slots. -/
theorem used_some_ofFragment (f : Fragment) :
    (some <$> Draft.ofFragment f : Draft (Option Fragment)).used = f.slots :=
  (Predicate.outcome_some_ofFragment rfl).2

/-- The values of a search for a text are texts. -/
theorem eq_string_of_mem_slots {d : Dialect} {v : Value}
    (hv : v ∈ ((Kept.pattern op field s).fragment d).slots) : ∃ pattern, v = .string pattern := by
  rw [Kept.slots_fragment, Kept.values] at hv
  obtain ⟨pattern, -, rfl⟩ := List.mem_map.mp hv
  exact ⟨pattern, rfl⟩

/-- With placeholders, whatever has been bound before, a pattern operator compiles to a condition
that searches the column for the text as it was given. -/
theorem searches_bound (d : Dialect) (params : List Parameter) (number : Nat)
    (op : OperatorOf .pattern) (field s : String) :
    ∃ sql condition,
      (compile ⟨d, .parameterized, params, number⟩ (.pattern op field s)).2.outcome =
        .ok (some sql) ∧
      d.readCondition? sql
          (compile ⟨d, .parameterized, params, number⟩ (.pattern op field s)).2.bound =
        some condition ∧
      condition.Searches d op field s := by
  have hslots : ∀ v ∈ ((Kept.pattern op field s).fragment d).slots, v.string?.isSome := by
    intro v hv
    obtain ⟨pattern, rfl⟩ := eq_string_of_mem_slots hv
    rfl
  have htokens := Fragment.readTokens?_boundText
    (Kept.legible_fragment (d := d) (.pattern op field s)).behindBreak hslots (params.length + 1)
  have hoperand : ∀ pattern : String, IsOperand pattern.toList (boundOperand (.string pattern)) :=
    fun _ => .inl rfl
  obtain ⟨condition, hread, hsearches⟩ :=
    LikeCondition.searches_of_contents d op field s hoperand rfl
  rw [compile_pattern, outcome_run_bound rfl, bound_run rfl, used_some_ofFragment]
  refine ⟨_, condition, rfl, ?_, hsearches⟩
  rw [Dialect.readCondition?, next, htokens]
  exact hread

example : (Dialect.ofEngine .sqlite).readCondition? "(\"c\" LIKE ?1 ESCAPE '\\')"
      [⟨"?1", .string "a\\_b%"⟩] =
    some [[⟨[.name ['c']], false, "a\\_b%".toList, some '\\'⟩]] := by decide

/-- What an engine reads from the literal of a text: the text as the literal carries it. -/
def writtenOperand (d : Dialect) : Value → List Token
  | .string s => leadTokens d.profile ++ [.string (sanitized s.toList)]
  | _ => []

/-- Outside dollar tags, the literal of a text is read as the text that it carries. -/
theorem isOperand_writtenOperand (d : Dialect) (s : String) :
    IsOperand (sanitized s.toList) (writtenOperand d (.string s)) := by
  have hlead : leadTokens d.profile = [] ∨ leadTokens d.profile = [.word ['N']] := by
    rw [Dialect.profile]
    cases d.engine <;> decide
  rw [writtenOperand]
  rcases hlead with hlead | hlead
  · rw [hlead]
    exact .inl rfl
  · rw [hlead]
    exact .inr rfl

/-- Outside dollar tags, an engine reads a search that is written out with the texts that its
literals carry. -/
theorem readTokens?_pattern {d : Dialect} (hd : d.engine ≠ .postgres) (op : OperatorOf .pattern)
    (field s : String) (start : Nat) :
    ∃ sql, ((Kept.pattern op field s).fragment d).writtenText d start = .ok sql ∧
      d.readTokens? sql [] =
        some (((Kept.pattern op field s).fragment d).tokens d (writtenOperand d)) := by
  have hlegible := (Kept.legible_fragment (d := d) (.pattern op field s)).behindBreak
  let written (n : Nat) (v : Value) : String := (v.string?.map (d.quoteText n)).getD ""
  refine Fragment.readTokens?_writtenText hlegible written (fun v hv => ?_) start
  obtain ⟨pattern, rfl⟩ := eq_string_of_mem_slots hv
  have hreads (n : Nat) := Engine.reads_quoteText hd (d.tag n) pattern
  refine ⟨fun n => ⟨rfl, hreads n⟩, ?_⟩
  have hplain := (Engine.readsPlainly_quoteText hd (d.tag 0) pattern).plain
  rwa [(hreads 0).tokens_eq] at hplain

/-- Outside dollar tags, a pattern operator compiles with literals to a condition that searches the
column for the text without control characters and comment marks: each pattern is read from its
literal as the pattern of that text. -/
theorem searches_written {d : Dialect} (hd : d.engine ≠ .postgres) (params : List Parameter)
    (number : Nat) (op : OperatorOf .pattern) (field s : String) :
    ∃ sql condition,
      (compile ⟨d, .inline, params, number⟩ (.pattern op field s)).2.outcome = .ok (some sql) ∧
      d.readCondition? sql
          (compile ⟨d, .inline, params, number⟩ (.pattern op field s)).2.bound =
        some condition ∧
      condition.Searches d op field (String.ofList (stripComments (stripControls s.toList))) := by
  obtain ⟨sql, hsql, htokens⟩ := readTokens?_pattern hd op field s (number + 1)
  have hliteral : ∀ v ∈ (some <$> Draft.ofFragment ((Kept.pattern op field s).fragment d) :
      Draft (Option Fragment)).used, ∃ n x, d.literal n v = .ok x := by
    intro v hv
    rw [used_some_ofFragment] at hv
    obtain ⟨pattern, rfl⟩ := eq_string_of_mem_slots hv
    exact ⟨0, d.quoteText 0 pattern, rfl⟩
  obtain ⟨condition, hread, hsearches⟩ :=
    LikeCondition.searches_of_contents d op field s (isOperand_writtenOperand d)
      (op.1.patterns_sanitized d.profile.like s)
  rw [compile_pattern]
  refine ⟨sql, condition, ?_, ?_, hsearches⟩
  · refine (Draft.outcome_play (Draft.playError?_eq_none hliteral)).trans ?_
    exact congrArg (Except.map some) hsql
  · change d.readCondition? sql [] = _
    rw [Dialect.readCondition?, htokens]
    exact hread

/-- A comment mark that appears when a control character is removed is removed as well, and the
wildcards of what is left stand for themselves. -/
theorem searches_written_seam :
    (Dialect.ofEngine .sqlServer).engine ≠ .postgres ∧ ∃ sql condition,
      (compile ⟨.ofEngine .sqlServer, .inline, [], 0⟩
          (.pattern .contains "label" "50-\x01-%[x")).2.outcome = .ok (some sql) ∧
      (Dialect.ofEngine .sqlServer).readCondition? sql
          (compile ⟨.ofEngine .sqlServer, .inline, [], 0⟩
            (.pattern .contains "label" "50-\x01-%[x")).2.bound = some condition ∧
      condition.Searches (.ofEngine .sqlServer) .contains "label" "50%[x" ∧
      condition.value? .sqlServer "save 50%[x] today".toList = some true ∧
      condition.value? .sqlServer "save 50--%x today".toList = some false := by
  have hengine : (Dialect.ofEngine .sqlServer).engine ≠ .postgres := by decide
  have hstrip : String.ofList (stripComments (stripControls "50-\x01-%[x".toList)) = "50%[x" := by
    cbv
  obtain ⟨sql, condition, houtcome, hread, hsearches⟩ :=
    searches_written hengine [] 0 ⟨.contains, rfl⟩ "label" "50-\x01-%[x"
  rw [hstrip] at hsearches
  refine ⟨hengine, sql, condition, houtcome, hread, hsearches, ?_, ?_⟩
  · refine (hsearches.value _).trans ?_
    decide
  · refine (hsearches.value _).trans ?_
    decide

end Compiler

end SqlRender
