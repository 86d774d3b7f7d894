import SqlRender.Proofs.Like
import SqlRender.Proofs.Predicate.Modes
import SqlRender.Proofs.Predicate.Skeleton

/-!
# A rendered predicate determines what was rendered

The text of a predicate with placeholders, together with its parameters, determines the fields,
the operators, the values and the grouping of everything that is kept of it. The skeletons of
kept predicates are a prefix code: behind any of them the same tokens and values are left over,
so the two sides of a combinator can be told apart.
-/

namespace SqlRender

namespace Kept

/-- The operator of a pattern for the empty text, which stands at the end of every text as it
does at the start. -/
def endOperator : OperatorOf .pattern → OperatorOf .pattern
  | ⟨.startsWith, _⟩ => ⟨.endsWith, rfl⟩
  | ⟨.startsWithNot, _⟩ => ⟨.endsWithNot, rfl⟩
  | op => op

/-- A kept predicate with the empty text looked for at the end only. -/
def canonical : Kept → Kept
  | pattern op field text => pattern (if text = "" then endOperator op else op) field text
  | join op left right => join op left.canonical right.canonical
  | k => k

/-- The family of the operator at the top; none for a constant. -/
def family? : Kept → Option OperatorFamily
  | constant _ => none
  | nullity _ _ => some .nullity
  | comparison _ _ _ => some .comparison
  | membership _ _ _ => some .membership
  | pattern _ _ _ => some .pattern
  | join _ _ _ => some .combinator

end Kept

/-- What is rendered of a predicate: what is kept of it, with the empty text looked for at the end
only. -/
def Predicate.norm (p : Predicate) : Option Kept := p.kept.map Kept.canonical

/-- The operator with some tokens, if there is one. -/
def Operator.ofTokens? (ts : List Token) : Option Operator := all.find? (·.tokens = ts)

/-- The family of an operator is found by its tokens. -/
theorem Operator.family_ofTokens? (op : Operator) :
    (ofTokens? op.tokens).map family = some op.family := by cases op <;> decide

/-- The family of the predicate whose skeleton some tokens start with: behind the parenthesis and
a name stand the tokens of an operator, and nothing of the kind in front of a combinator. -/
def readFamily (ts : List Token) : Option OperatorFamily :=
  let sign := (ts.tail.dropWhile Token.isNamePart).takeWhile Token.isSign
  if sign = [] then some .combinator else (Operator.ofTokens? sign).map Operator.family

/-- The family of a leaf is read behind its name. -/
theorem readFamily_leaf {field : String} {op : Operator} {x : Token} (hx : x.isSign = false)
    (ts : List Token) :
    readFamily (.symbol '(' :: (nameTokens field ++ (op.tokens ++ x :: ts))) = some op.family := by
  obtain ⟨first, rest, hop, -⟩ := op.tokens_eq_cons
  have hname := op.dropWhile_nameTokens field (x :: ts)
  have hsign : (op.tokens ++ x :: ts).takeWhile Token.isSign = op.tokens := by
    rw [List.takeWhile_append_of_pos op.isSign_of_mem_tokens,
      List.takeWhile_cons_of_neg (by simp [hx]), List.append_nil]
  have hne : op.tokens ≠ [] := by simp [hop]
  simp only [readFamily, List.tail_cons, hname, hsign, if_neg hne]
  exact op.family_ofTokens?

/-- A leaf determines its name, its operator's tokens and what follows them. -/
theorem leaf_injective {field field' : String} {op op' : Operator} {x x' : Token}
    {ts ts' : List Token} (hx : x.isSign = false) (hx' : x'.isSign = false)
    (h : nameTokens field ++ (op.tokens ++ x :: ts) =
      nameTokens field' ++ (op'.tokens ++ x' :: ts')) :
    field = field' ∧ op.tokens = op'.tokens ∧ x = x' ∧ ts = ts' := by
  obtain ⟨first, rest, hop, hfirst⟩ := op.tokens_eq_cons
  obtain ⟨first', rest', hop', hfirst'⟩ := op'.tokens_eq_cons
  have hsplit := h
  rw [hop, hop', List.cons_append, List.cons_append] at hsplit
  obtain ⟨hname, -, -⟩ := append_inj_of_test isNamePart_of_mem_nameTokens
    isNamePart_of_mem_nameTokens hfirst hfirst' hsplit
  rw [hname] at h
  exact ⟨nameTokens_injective hname, append_inj_of_test op.isSign_of_mem_tokens
    op'.isSign_of_mem_tokens hx hx' (List.append_cancel_left h)⟩

namespace Kept

variable {d : Dialect}

/-- A skeleton starts with a parenthesis. -/
theorem skeleton_eq_cons (k : Kept) : ∃ rest, k.skeleton d = .symbol '(' :: rest := by
  cases k with
  | constant holds => exact ⟨_, skeleton_constant holds⟩
  | nullity op field => exact ⟨_, skeleton_nullity op field⟩
  | comparison op field v => exact ⟨_, skeleton_comparison op field v⟩
  | membership op field vs => exact ⟨_, skeleton_membership op field vs⟩
  | pattern op field text => exact ⟨_, skeleton_pattern op field text⟩
  | join op left right => exact ⟨_, skeleton_join op left right⟩

/-- The family of a kept predicate is read off its skeleton. -/
theorem readFamily_skeleton (k : Kept) (ts : List Token) :
    readFamily (k.skeleton d ++ ts) = k.family? := by
  cases k with
  | constant holds =>
    rw [skeleton_constant]
    cases holds <;> rfl
  | nullity op field =>
    rw [skeleton_nullity]
    simp only [List.cons_append, List.append_assoc, List.nil_append]
    rw [readFamily_leaf rfl, op.2]
    rfl
  | comparison op field v =>
    rw [skeleton_comparison]
    simp only [List.cons_append, List.append_assoc, List.nil_append]
    rw [readFamily_leaf rfl, op.2]
    rfl
  | membership op field vs =>
    rw [skeleton_membership]
    simp only [List.cons_append, List.append_assoc, List.nil_append]
    rw [readFamily_leaf rfl, op.2]
    rfl
  | pattern op field text =>
    rw [skeleton_pattern]
    simp only [termEnd, List.cons_append, List.append_assoc]
    rw [readFamily_leaf rfl, op.2]
    rfl
  | join op left right =>
    obtain ⟨rest, hleft⟩ := left.skeleton_eq_cons (d := d)
    rw [skeleton_join, hleft]
    rfl

/-- Kept predicates with the same skeleton in front are of one family. -/
theorem family?_eq {k k' : Kept} {ts ts' : List Token}
    (h : k.skeleton d ++ ts = k'.skeleton d ++ ts') : k.family? = k'.family? := by
  rw [← k.readFamily_skeleton ts, h, k'.readFamily_skeleton]

/-- As many placeholders with commas between them are as many tokens. -/
theorem length_listTokens (count : Nat) : (listTokens count).length = 2 * count - 1 := by
  unfold listTokens
  induction count with
  | zero => rfl
  | succ n ih =>
    cases n with
    | zero => rfl
    | succ n =>
      rw [List.replicate_succ, List.replicate_succ, List.intercalate_cons_cons,
        ← List.replicate_succ, List.length_append, List.length_append, ih]
      simp
      omega

/-- A list of placeholders holds no parenthesis. -/
theorem ne_closing_of_mem_listTokens {count : Nat} :
    ∀ t ∈ listTokens count, (t != .symbol ')') = true := by
  intro t ht
  rcases mem_intercalate ht with ht | ⟨ts, hts, ht⟩
  · rw [List.mem_singleton.mp ht]
    decide
  · rw [List.eq_of_mem_replicate hts] at ht
    rw [List.mem_singleton.mp ht]
    decide

/-- A list of placeholders in front of a parenthesis determines its length. -/
theorem listTokens_injective {count count' : Nat} {ts ts' : List Token}
    (h : listTokens count ++ .symbol ')' :: ts = listTokens count' ++ .symbol ')' :: ts') :
    count = count' ∧ ts = ts' := by
  obtain ⟨htokens, -, hrest⟩ := append_inj_of_test ne_closing_of_mem_listTokens
    ne_closing_of_mem_listTokens (by decide) (by decide) h
  have hlength := congrArg List.length htokens
  rw [length_listTokens, length_listTokens] at hlength
  exact ⟨by omega, hrest⟩

/-- The skeleton of a pattern in front of other tokens determines its name, its operator's tokens
and whether the text may stand anywhere. -/
theorem skeleton_pattern_injective {op op' : OperatorOf .pattern} {field field' text text' : String}
    {ts ts' : List Token}
    (h : (pattern op field text).skeleton d ++ ts = (pattern op' field' text').skeleton d ++ ts') :
    field = field' ∧ op.1.isNegated = op'.1.isNegated ∧ anywhere op = anywhere op' ∧ ts = ts' := by
  rw [skeleton_pattern, skeleton_pattern] at h
  simp only [termEnd, List.cons_append, List.append_assoc] at h
  obtain ⟨rfl, hop, -, hclause⟩ := leaf_injective rfl rfl (List.cons.inj h).2
  obtain ⟨-, hnegated, -⟩ := Operator.eq_of_tokens hop
  have hmore := List.append_cancel_left hclause
  unfold moreTokens termTokens at hmore
  rw [hop, hnegated] at hmore
  refine ⟨rfl, hnegated, ?_⟩
  cases hfirst : anywhere op <;> cases hsecond : anywhere op' <;>
    simp only [hfirst, hsecond, if_true, if_false, List.cons_append, List.append_assoc,
      List.cons.injEq, List.nil_append, true_and, reduceCtorEq, false_and,
      Bool.false_eq_true] at hmore
  · exact ⟨rfl, hmore⟩
  · refine ⟨rfl, ?_⟩
    simpa using hmore

/-- The values of two patterns with the same sign that may both stand anywhere or not determine
the pattern. -/
theorem values_pattern_injective {op op' : OperatorOf .pattern} {field text text' : String}
    {vs vs' : List Value} (hnegated : op.1.isNegated = op'.1.isNegated)
    (hanywhere : anywhere op = anywhere op')
    (h : (pattern op field text).values d ++ vs = (pattern op' field text').values d ++ vs') :
    (pattern op field text).canonical = (pattern op' field text').canonical ∧ vs = vs' := by
  have hfront : ∀ {s t : String}, "%" ++ d.profile.like.escape s = "%" ++ d.profile.like.escape t →
      s = t := fun h => d.profile.like.escape_injective (String.append_right_inj _ |>.mp h)
  have hback : ∀ {s t : String}, d.profile.like.escape s ++ "%" = d.profile.like.escape t ++ "%" →
      s = t := fun h => d.profile.like.escape_injective (String.append_left_inj _ |>.mp h)
  obtain ⟨op, hop⟩ := op
  obtain ⟨op', hop'⟩ := op'
  -- two operators of the same sign are equal, or one looks at the start and one at the end
  cases op <;> cases hop <;> cases op' <;> cases hop' <;>
    first
    | cases hnegated; done
    | cases hanywhere; done
    | simp only [values, Operator.patterns, List.map_cons, List.map_nil, List.cons_append,
        List.nil_append, List.cons.injEq, Value.string.injEq] at h
  case contains.refl.contains.refl | containsNot.refl.containsNot.refl =>
    obtain ⟨htext, -, -, rfl⟩ := h
    rw [hfront htext]
    exact ⟨rfl, rfl⟩
  case endsWith.refl.endsWith.refl | endsWithNot.refl.endsWithNot.refl =>
    obtain ⟨htext, rfl⟩ := h
    rw [hfront htext]
    exact ⟨rfl, rfl⟩
  case startsWith.refl.startsWith.refl | startsWithNot.refl.startsWithNot.refl =>
    obtain ⟨htext, rfl⟩ := h
    rw [hback htext]
    exact ⟨rfl, rfl⟩
  case startsWith.refl.endsWith.refl | startsWithNot.refl.endsWithNot.refl =>
    obtain ⟨htext, rfl⟩ := h
    obtain ⟨rfl, rfl⟩ := d.profile.like.escape_eq_empty htext
    exact ⟨rfl, rfl⟩
  case endsWith.refl.startsWith.refl | endsWithNot.refl.startsWithNot.refl =>
    obtain ⟨htext, rfl⟩ := h
    obtain ⟨rfl, rfl⟩ := d.profile.like.escape_eq_empty htext.symm
    exact ⟨rfl, rfl⟩

/-- An operator of a family without patterns is determined by its tokens. -/
theorem operatorOf_eq {family : OperatorFamily} {op op' : OperatorOf family}
    (hfamily : family ≠ .pattern) (h : op.1.tokens = op'.1.tokens) : op = op' :=
  Subtype.ext ((Operator.eq_of_tokens h).2.2 (op.2.trans_ne hfamily))

/-- Behind the skeletons of two kept predicates with the same tokens, and behind their values, the
same is left over, and up to the place of an empty text the predicates are equal. -/
theorem skeleton_injective {k k' : Kept} {ts ts' : List Token} {vs vs' : List Value}
    (h : k.skeleton d ++ ts = k'.skeleton d ++ ts')
    (hvalues : k.values d ++ vs = k'.values d ++ vs') :
    k.canonical = k'.canonical ∧ ts = ts' ∧ vs = vs' := by
  induction k generalizing k' ts ts' vs vs' with
  | constant holds =>
    have hfamily := family?_eq h
    cases k' with
    | constant holds' =>
      rw [skeleton_constant, skeleton_constant] at h
      cases holds <;> cases holds' <;> simp_all [values]
    | _ => cases hfamily
  | nullity op field =>
    have hfamily := family?_eq h
    cases k' with
    | nullity op' field' =>
      rw [skeleton_nullity, skeleton_nullity] at h
      simp only [List.cons_append, List.append_assoc, List.nil_append] at h
      obtain ⟨rfl, hop, -, hrest⟩ := leaf_injective rfl rfl (List.cons.inj h).2
      rw [operatorOf_eq (by decide) hop]
      exact ⟨rfl, hrest, hvalues⟩
    | _ => cases hfamily
  | comparison op field v =>
    have hfamily := family?_eq h
    cases k' with
    | comparison op' field' v' =>
      rw [skeleton_comparison, skeleton_comparison] at h
      simp only [List.cons_append, List.append_assoc, List.nil_append] at h
      obtain ⟨rfl, hop, -, hrest⟩ := leaf_injective rfl rfl (List.cons.inj h).2
      obtain ⟨rfl, hvs⟩ := List.cons.inj hvalues
      rw [operatorOf_eq (by decide) hop]
      exact ⟨rfl, (List.cons.inj hrest).2, hvs⟩
    | _ => cases hfamily
  | membership op field ws =>
    have hfamily := family?_eq h
    cases k' with
    | membership op' field' ws' =>
      rw [skeleton_membership, skeleton_membership] at h
      simp only [List.cons_append, List.append_assoc, List.nil_append] at h
      obtain ⟨rfl, hop, -, hlist⟩ := leaf_injective rfl rfl (List.cons.inj h).2
      obtain ⟨hlength, hrest⟩ := listTokens_injective hlist
      obtain ⟨rfl, hvs⟩ := List.append_inj hvalues hlength
      rw [operatorOf_eq (by decide) hop]
      exact ⟨rfl, (List.cons.inj hrest).2, hvs⟩
    | _ => cases hfamily
  | pattern op field text =>
    have hfamily := family?_eq h
    cases k' with
    | pattern op' field' text' =>
      obtain ⟨rfl, hnegated, hanywhere, hrest⟩ := skeleton_pattern_injective h
      obtain ⟨hcanonical, hvs⟩ := values_pattern_injective hnegated hanywhere hvalues
      exact ⟨hcanonical, hrest, hvs⟩
    | _ => cases hfamily
  | join op left right hleft hright =>
    have hfamily := family?_eq h
    cases k' with
    | join op' left' right' =>
      rw [skeleton_join, skeleton_join] at h
      simp only [List.cons_append, List.append_assoc] at h
      simp only [values, List.append_assoc] at hvalues
      obtain ⟨hfront, hoperator, hmore⟩ := hleft (List.cons.inj h).2 hvalues
      obtain ⟨rest, hcons⟩ := right.skeleton_eq_cons (d := d)
      obtain ⟨rest', hcons'⟩ := right'.skeleton_eq_cons (d := d)
      have hsplit := hoperator
      rw [hcons, hcons', List.cons_append, List.cons_append] at hsplit
      obtain ⟨hop, -, -⟩ := append_inj_of_test op.1.isSign_of_mem_tokens
        op'.1.isSign_of_mem_tokens rfl rfl hsplit
      rw [hop] at hoperator
      obtain ⟨hback, hend, hvs⟩ := hright (List.append_cancel_left hoperator) hmore
      rw [canonical, canonical, hfront, hback, operatorOf_eq (by decide) hop]
      exact ⟨rfl, (List.cons.inj hend).2, hvs⟩
    | _ => cases hfamily

end Kept

namespace Compiler

variable {d : Dialect} {p q : Predicate} {sql : String}

/-- The text of a compiled predicate is the bound text of what is kept of it, and its parameters
hold the values of that. -/
theorem compileBound_eq_kept (h : (compileBound d p).2.outcome = .ok (some sql)) :
    ∃ k, p.kept = some k ∧ sql = (k.fragment d).boundText d 1 ∧
      (compileBound d p).1.params.map (·.value) = k.values d := by
  obtain ⟨f, houtcome, hsql⟩ := compileBound_eq_some h
  obtain ⟨hkept, hused⟩ := Predicate.draft_eq_kept houtcome
  obtain ⟨k, hk, rfl⟩ := Option.map_eq_some_iff.mp hkept.symm
  refine ⟨k, hk, hsql, ?_⟩
  rw [compileBound_params, Fragment.map_value_parameters, hused]
  exact k.slots_fragment d

/-- Two predicates that are compiled to the same text with the same parameters are the same, up to
what is left out of both and the place of an empty text. -/
theorem norm_eq_of_compile (hp : (compileBound d p).2.outcome = .ok (some sql))
    (hq : (compileBound d q).2.outcome = .ok (some sql))
    (hparams : (compileBound d p).1.params = (compileBound d q).1.params) : p.norm = q.norm := by
  obtain ⟨k, hk, hsql, hvalues⟩ := compileBound_eq_kept hp
  obtain ⟨k', hk', hsql', hvalues'⟩ := compileBound_eq_kept hq
  have hskeleton : k.skeleton d = k'.skeleton d := by
    rw [Kept.skeleton, ← Fragment.unnumbered_boundText k.legible_fragment.behindBreak 1, ← hsql,
      hsql', Fragment.unnumbered_boundText k'.legible_fragment.behindBreak 1, Kept.skeleton]
  have hsame : k.values d = k'.values d := by rw [← hvalues, hparams, hvalues']
  have htokens : k.skeleton d ++ [] = k'.skeleton d ++ [] := by rw [hskeleton]
  have hlist : k.values d ++ [] = k'.values d ++ [] := by rw [hsame]
  have hcanonical := (Kept.skeleton_injective htokens hlist).1
  rw [Predicate.norm, Predicate.norm, hk, hk', Option.map_some, Option.map_some, hcanonical]

/-- A predicate on a name with a mark and a parenthesis, with a leaf that is dropped. -/
def withDropped : Predicate :=
  .and (.pattern .startsWith "a`) OR (b" "")
    (.or (.member .isIn "k" [.null, .int 1]) (.compare .equals "x" .null))

/-- The same predicate without the leaf, and with the empty text looked for at the end. -/
def withoutDropped : Predicate :=
  .and (.pattern .endsWith "a`) OR (b" "") (.member .isIn "k" [.int 1, .null])

set_option maxRecDepth 4000 in
/-- Predicates that differ in what is left out are compiled alike, and are the same up to that. -/
theorem norm_eq_of_compile_dropped :
    (compileBound (.ofEngine .mySql) withDropped).2.outcome =
        .ok (some "((`a``) OR (b` LIKE ?) AND (`k` IN (?)))") ∧
      (compileBound (.ofEngine .mySql) withoutDropped).2.outcome =
        .ok (some "((`a``) OR (b` LIKE ?) AND (`k` IN (?)))") ∧
      (compileBound (.ofEngine .mySql) withDropped).1.params =
        [⟨"?", .string "%"⟩, ⟨"?", .int 1⟩] ∧
      withDropped.norm = withoutDropped.norm := by
  have hp : (compileBound (.ofEngine .mySql) withDropped).2.outcome =
      .ok (some "((`a``) OR (b` LIKE ?) AND (`k` IN (?)))") := by rfl
  have hq : (compileBound (.ofEngine .mySql) withoutDropped).2.outcome =
      .ok (some "((`a``) OR (b` LIKE ?) AND (`k` IN (?)))") := by rfl
  have hparams : (compileBound (.ofEngine .mySql) withDropped).1.params =
      (compileBound (.ofEngine .mySql) withoutDropped).1.params := by rfl
  exact ⟨hp, hq, by rfl, norm_eq_of_compile hp hq hparams⟩

end Compiler

end SqlRender
