import SqlRender.Predicate.Validate
import SqlRender.Proofs.Predicate.Strict

/-!
# Well-formed trees

The check of a tree and its rendering agree on which trees are well formed. The rendering is the
more generous of the two in two places: it does not look at the right side of a question for null,
and it takes a combinator with nothing on its right for its left side. A tree that is repaired in
these places passes the check exactly when a strict dialect renders the tree, and it is rendered as
the tree is. A tree that passes the check as it stands needs no repair, and no dialect drops any of
its leaves.
-/

namespace SqlRender

/-- Whether nothing stands on the right. -/
def Operand.isAbsent : Operand → Bool
  | .absent => true
  | _ => false

mutual

/-- The operand with the predicate in it repaired. -/
def Operand.repaired : Operand → Operand
  | .nested r => .nested r.repaired
  | operand => operand

/-- The predicate without the operands that rendering does not look at: nothing stands on the right
of a question for null, and a combinator with nothing on its right is its left side. -/
def Predicate.repaired : Predicate → Predicate
  | .node (.field name) op right =>
    .node (.field name) op (if op.isNullity then .absent else right.repaired)
  | .node (.nested l) op right =>
    if op.isCombinator && right.isAbsent then l.repaired
    else .node (.nested l.repaired) op right.repaired

end

namespace Predicate

variable {d : Dialect} {op : Operator} {field : String} {right : Operand} {left p : Predicate}

/-- Two checks in a row pass when both do. -/
theorem check_then {x y : Except Error Unit} :
    (x >>= fun _ => y) = .ok () ↔ x = .ok () ∧ y = .ok () := by
  cases x with
  | error e => exact ⟨nofun, fun h => h.1⟩
  | ok a => exact ⟨fun h => ⟨rfl, h⟩, fun h => h.2⟩

/-- A leaf is well formed when its operator is no combinator and its operand fits. -/
theorem validate_field : (node (.field field) op right).validate = .ok () ↔
    op.isCombinator = false ∧ right.fits op := by
  have hnode : checkNode (.node (.field field) op right) = .ok () ↔
      op.isCombinator = false ∧ right.fits op := by
    rw [checkNode]
    cases op.isCombinator <;> cases right.fits op <;> simp
  cases right with
  | nested r =>
    rw [validate, check_then, check_then, hnode]
    simp [Operand.fits]
  | _ =>
    rw [validate, check_then, check_then, hnode]
    · simp
    · nofun

/-- A predicate on the left is well formed when it is joined to another one and both are. -/
theorem validate_nested : (node (.nested left) op right).validate = .ok () ↔
    op.isCombinator ∧ ∃ r, right = .nested r ∧ left.validate = .ok () ∧ r.validate = .ok () := by
  have hnode : checkNode (.node (.nested left) op right) = .ok () ↔
      op.isCombinator ∧ ∃ r, right = .nested r := by
    cases right <;> cases hop : op.isCombinator <;> simp [checkNode, hop]
  cases right with
  | nested r =>
    rw [validate, check_then, check_then, hnode]
    simp
  | _ =>
    rw [validate, check_then, check_then, hnode]
    · simp
    · nofun

/-- The operands that the operators of a family take. -/
def takes : OperatorFamily → Operand → Bool
  | .nullity, .absent => true
  | .comparison, .value v => !v.isNull
  | .membership, .list _ => true
  | .pattern, .value (.string _) => true
  | _, _ => false

/-- An operand fits an operator when the family of the operator takes it. -/
theorem fits_eq (op : Operator) (right : Operand) : right.fits op = takes op.family right := by
  unfold Operand.fits Operator.isNullity Operator.isMembership Operator.isPattern
    Operator.isComparison
  generalize op.family = family
  cases right with
  | value v => cases v <;> cases family <;> rfl
  | _ => cases family <;> rfl

/-- A strict dialect renders a comparison with a value that is not null, and no other one. -/
theorem isOk_strict_comparison :
    (draftComparison d.strict op field right).outcome.isOk = takes .comparison right := by
  cases right with
  | value v => cases v <;> rfl
  | _ => rfl

/-- A strict dialect renders a membership in a list, and no other one. -/
theorem isOk_strict_membership :
    (some <$> draftMembership op field right : Draft (Option Fragment)).outcome.isOk =
      takes .membership right := by
  cases right with
  | list vs =>
    unfold draftMembership
    dsimp only
    split <;> rfl
  | _ => rfl

/-- A strict dialect renders a pattern of a text, and no other one. -/
theorem isOk_strict_pattern :
    (draftPattern d.strict op field right).outcome.isOk = takes .pattern right := by
  cases right with
  | value v => cases v <;> rfl
  | _ => rfl

/-- A strict dialect renders a leaf with an operand that fits; on the right of a question for null
anything may stand. -/
theorem isOk_strict_leaf (hop : op.isCombinator = false) :
    (draftLeaf d.strict op field right).outcome.isOk =
      Operand.fits op (if op.isNullity then .absent else right) := by
  rw [fits_eq, Operator.isNullity, draftLeaf]
  cases hfamily : op.family with
  | combinator => simp [Operator.isCombinator, hfamily] at hop
  | nullity => rfl
  | membership => exact isOk_strict_membership
  | comparison => exact isOk_strict_comparison
  | pattern => exact isOk_strict_pattern

/-- Whether an operand fits does not depend on the predicate it may be. -/
theorem fits_repaired (op : Operator) (right : Operand) :
    right.repaired.fits op = right.fits op := by
  cases right <;> rfl

/-- A combinator with nothing on its right is drafted as its left side. -/
theorem draft_absent (hop : op.isCombinator) :
    (node (.nested left) op .absent).draft d = left.draft d := by
  rw [draft, hop]
  exact Draft.bind_done (left.draft d)

/-- A combinator of two predicates is rendered when both are. -/
theorem isOk_nested (hop : op.isCombinator) {r : Predicate} :
    ((node (.nested left) op (.nested r)).draft d).outcome.isOk ↔
      (left.draft d).outcome.isOk ∧ (r.draft d).outcome.isOk := by
  rw [draft, hop, if_pos rfl, Draft.outcome_bind]
  cases (left.draft d).outcome with
  | error e => simp [Except.bind, Except.isOk, Except.toBool]
  | ok front =>
    change ((r.draft d).bind _).outcome.isOk ↔ _
    rw [Draft.outcome_bind]
    cases (r.draft d).outcome <;> simp [Except.bind, Except.isOk, Except.toBool, pure]

/-- A strict dialect renders a predicate exactly when the predicate is well formed once it is
repaired. -/
theorem isOk_strict_iff (d : Dialect) (p : Predicate) :
    (p.draft d.strict).outcome.isOk ↔ p.repaired.validate = .ok () := by
  have hfail : ∀ e, (Draft.fail e : Draft (Option Fragment)).outcome.isOk = false := fun _ => rfl
  induction p using induction_sides with
  | field name op right ih =>
    rw [repaired, validate_field, draft]
    cases hop : op.isCombinator with
    | true => simp [hfail]
    | false =>
      have hleaf : (draftLeaf d.strict op name right).outcome.isOk =
          Operand.fits op (if op.isNullity then .absent else right) := isOk_strict_leaf hop
      cases hnull : op.isNullity with
      | true => simpa [hnull] using hleaf
      | false => simpa [hnull, fits_repaired] using hleaf
  | nested left op right hleft hright =>
    cases hop : op.isCombinator with
    | false => simp [repaired, draft, hfail, validate_nested, hop]
    | true =>
      cases right with
      | absent =>
        rw [draft_absent hop, repaired, hop]
        exact hleft
      | nested r =>
        refine (isOk_nested hop).trans ((and_congr hleft (hright r rfl)).trans ?_)
        rw [repaired, hop, Operand.repaired]
        simp [Operand.isAbsent, validate_nested, hop]
      | _ =>
        rw [repaired, draft, hop, if_pos rfl, Draft.outcome_bind]
        refine iff_of_false ?_ fun hvalid => ?_
        · cases (left.draft d.strict).outcome <;> exact Bool.false_ne_true
        · obtain ⟨-, r, hr, -⟩ := validate_nested.mp hvalid
          cases hr

/-- A leaf that is rendered is rendered without an operand that it does not look at. -/
theorem draftLeaf_repaired {f : Option Fragment}
    (h : (draftLeaf d op field right).outcome = .ok f) :
    draftLeaf d op field (if op.isNullity then .absent else right.repaired) =
      draftLeaf d op field right := by
  unfold draftLeaf Operator.isNullity at *
  cases hfamily : op.family with
  | nullity => rfl
  | pattern => cases right <;> rfl
  | membership =>
    rw [hfamily] at h
    cases right with
    | nested r => cases h
    | _ => rfl
  | comparison | combinator =>
    rw [hfamily] at h
    cases right with
    | nested r => cases h
    | _ => rfl

/-- A predicate that is rendered is rendered as it is once it is repaired. -/
theorem draft_repaired {f : Option Fragment} (h : (p.draft d).outcome = .ok f) :
    p.repaired.draft d = p.draft d := by
  induction p using induction_sides generalizing f with
  | field name op right ih =>
    rw [draft] at h
    rw [repaired, draft, draft]
    cases hop : op.isCombinator with
    | true => rfl
    | false =>
      rw [hop] at h
      exact draftLeaf_repaired h
  | nested left op right hleft hright =>
    rw [draft] at h
    cases hop : op.isCombinator with
    | false =>
      rw [hop] at h
      cases h
    | true =>
      simp only [hop, if_true] at h
      obtain ⟨front, hfront, hback, -⟩ := Draft.outcome_bind_eq_ok h
      cases right with
      | value v => cases hback
      | list vs => cases hback
      | absent =>
        rw [draft_absent hop, repaired, hop]
        exact hleft hfront
      | nested r =>
        obtain ⟨back, hr, -, -⟩ := Draft.outcome_bind_eq_ok hback
        have hpresent : (Operand.nested r).isAbsent = false := rfl
        rw [repaired, hop, hpresent, Bool.and_false, if_neg (by decide), Operand.repaired, draft,
          draft, hop, if_pos rfl, if_pos rfl]
        simp only [hleft hfront, hright r rfl hr]

/-- An operand that fits stands where it is looked at, and is no predicate. -/
theorem repaired_of_fits (h : right.fits op) :
    (if op.isNullity then .absent else right.repaired) = right := by
  rw [fits_eq] at h
  unfold Operator.isNullity
  cases hfamily : op.family with
  | nullity =>
    rw [hfamily] at h
    cases right with
    | absent => rfl
    | _ => cases h
  | _ =>
    rw [hfamily] at h
    cases right with
    | nested r => cases h
    | _ => rfl

/-- A predicate that is well formed needs no repair. -/
theorem repaired_eq_self (h : p.validate = .ok ()) : p.repaired = p := by
  induction p using induction_sides with
  | field name op right ih =>
    obtain ⟨-, hfits⟩ := validate_field.mp h
    rw [repaired, repaired_of_fits hfits]
  | nested left op right hleft hright =>
    obtain ⟨hop, r, rfl, hl, hr⟩ := validate_nested.mp h
    rw [repaired, hleft hl, Operand.repaired, hright r rfl hr]
    simp [Operand.isAbsent]

/-- No dialect drops anything of a predicate that is well formed, and something is left of it. -/
theorem draft_of_validate (h : p.validate = .ok ()) (d : Dialect) :
    (∃ f, (p.draft d).outcome = .ok (some f)) ∧ (p.draft d).steps.filterMap Step.dropped? = [] := by
  have hok : (p.draft d.strict).outcome.isOk := by
    rw [isOk_strict_iff, repaired_eq_self h]
    exact h
  have hdrops : (p.draft d.lenient).steps.filterMap Step.dropped? = [] := by
    by_contra hdrops
    obtain ⟨leaf, hleaf⟩ := Draft.outcome_refused hdrops
    rw [draft_strict, hleaf] at hok
    cases hok
  have hsame : p.draft d.strict = p.draft d.lenient :=
    (draft_strict d p).trans (Draft.refused_eq_self hdrops)
  have hdraft : p.draft d = p.draft d.lenient := by
    cases hstrict : d.strictPredicates with
    | true =>
      have hd : d = d.strict := by rw [Dialect.strict, ← hstrict]
      rw [hd, hsame]
      rfl
    | false =>
      have hd : d = d.lenient := by rw [Dialect.lenient, ← hstrict]
      rw [hd]
      rfl
  rw [hdraft]
  refine ⟨?_, hdrops⟩
  cases houtcome : (p.draft d.lenient).outcome with
  | error e =>
    rw [hsame, houtcome] at hok
    cases hok
  | ok f =>
    cases f with
    | some f => exact ⟨f, rfl⟩
    | none => exact absurd (hsame ▸ houtcome) (outcome_strict_ne_none d p)

end Predicate

namespace Compiler

/-- The compiler that binds values, whatever its mode. -/
def binding (c : Compiler) : Compiler := { c with mode := .parameterized }

/-- The check of a predicate and a strict compiler that binds values agree: the compiler renders a
predicate exactly when the predicate passes the check once it is repaired, and the repair does not
change what is rendered. Of a predicate that passes the check as it stands, every compiler renders
something and drops nothing, unless a value is to be written out that has no literal. -/
theorem compile_iff_validate (p : Predicate) :
    (∀ c : Compiler,
      ((∃ text, (c.binding.strict.compile p).2.outcome = .ok text) ↔
        p.repaired.validate = .ok ()) ∧
      ∀ text, (c.binding.strict.compile p).2.outcome = .ok text →
        c.binding.strict.compile p.repaired = c.binding.strict.compile p) ∧
    (p.validate = .ok () → ∀ c : Compiler,
      (c.mode = .inline → ∀ v ∈ (c.binding.compile p).2.bound.map (·.value),
        ∃ n x, c.dialect.literal n v = .ok x) →
      (∃ sql, (c.compile p).2.outcome = .ok (some sql)) ∧ (c.compile p).2.drops = []) := by
  refine ⟨fun c => ⟨?_, fun text htext => ?_⟩, fun hvalid c hliteral => ?_⟩
  · have houtcome : (c.binding.strict.compile p).2.outcome =
        (p.draft c.dialect.strict).outcome.map
          (Option.map (·.boundText c.dialect.strict c.binding.strict.next)) :=
      outcome_run_bound rfl _
    rw [houtcome, ← Predicate.isOk_strict_iff c.dialect]
    cases (p.draft c.dialect.strict).outcome with
    | error e => exact iff_of_false (fun ⟨_, h⟩ => nomatch h) nofun
    | ok f => exact iff_of_true ⟨_, rfl⟩ rfl
  · obtain ⟨f, hdraft, -⟩ := Draft.outcome_play_eq_ok htext
    unfold compile
    rw [Predicate.draft_repaired hdraft]
  · obtain ⟨⟨f, hdraft⟩, hdrops⟩ := Predicate.draft_of_validate hvalid c.dialect
    refine ⟨?_, Draft.drops_play_eq_nil hdrops⟩
    have hplay : Draft.playError? c.dialect c.mode (p.draft c.dialect).steps = none := by
      cases hmode : c.mode with
      | parameterized => rfl
      | inline =>
        refine Draft.playError?_eq_none fun v hv => hliteral hmode v ?_
        have hbound : (c.binding.compile p).2.bound =
            Fragment.parameters c.dialect c.binding.next (p.draft c.dialect).used :=
          bound_run rfl _
        rwa [hbound, Fragment.map_value_parameters]
    obtain ⟨text, htext⟩ := finish_eq_ok hplay (Predicate.draft_eq_kept hdraft).2
    obtain ⟨sql, -, rfl⟩ := render_of_finish htext
    refine ⟨sql, ?_⟩
    change (Draft.play ..).outcome = _
    rw [Draft.outcome_play hplay, hdraft]
    exact htext

/-- A tree in need of repair: a combinator without a right side, around a question with an
operand. -/
def unmended : Predicate := .node (.nested (.leaf "note" .isNull (.value (.int 1)))) .and .absent

/-- A tree that is repaired is rendered as what it was, and a tree that passes the check is written
out without drops. -/
theorem compile_iff_validate_unmended :
    let c : Compiler := { dialect := .ofEngine .sqlite, mode := .inline }
    unmended.validate ≠ .ok () ∧
      c.binding.strict.compile (.nullity .isNull "note") = c.binding.strict.compile unmended ∧
      (∃ text, (c.binding.strict.compile unmended).2.outcome = .ok text) ∧
      (∃ sql, (c.compile (.compare .lessThan "due" (.int 9))).2.outcome = .ok (some sql)) ∧
      (c.compile (.compare .lessThan "due" (.int 9))).2.drops = [] := by
  intro c
  obtain ⟨hrepaired, -⟩ := compile_iff_validate unmended
  obtain ⟨-, hvalid⟩ := compile_iff_validate (.compare .lessThan "due" (.int 9))
  obtain ⟨hiff, hsame⟩ := hrepaired c
  obtain ⟨text, htext⟩ := hiff.mpr rfl
  refine ⟨?_, hsame text htext, ⟨text, htext⟩, hvalid rfl c fun _ v hv => ?_⟩
  · intro h
    cases h
  · cases List.mem_singleton.mp hv
    exact ⟨0, _, rfl⟩

end Compiler

end SqlRender
