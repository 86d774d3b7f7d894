import SqlRender.Proofs.Fragment.Bytes
import SqlRender.Proofs.Query.Legible

/-!
# The limit on bound values

An engine takes so many bound values with one request. Inserts of many rows are held to that: what
they come to is taken, and where one would bind more it is refused. No other statement is counted.
It binds the values that its request carries, whether the engine takes them or not.
-/

namespace SqlRender

open Fragment

namespace Query

variable {q : Query} {r : Request} {f : Fragment} {st : Statement}

/-- The engine takes a statement that binds so many values. -/
def Takes (q : Query) (count : Nat) : Prop :=
  ∀ limit, q.dialect.profile.maxParameters = some limit → count ≤ limit

/-- The values that the statement of a request binds: all that the request carries, or none when
they are written out. -/
def binding (q : Query) (r : Request) : List Value :=
  match q.mode with
  | .parameterized => q.carried r
  | .inline => []

/-- A count is accepted when the engine takes so many values. -/
theorem checkParameters_eq_ok {count : Nat} :
    q.checkParameters count = .ok () ↔ q.Takes count := by
  unfold checkParameters Takes
  cases q.dialect.profile.maxParameters with
  | none => simp
  | some limit =>
    by_cases h : limit < count
    · simp [h]
    · simp [h, Nat.le_of_not_lt h]

/-- A count over the limit is refused, with the count and the limit. -/
theorem checkParameters_of_lt {limit count : Nat}
    (hlimit : q.dialect.profile.maxParameters = some limit) (h : limit < count) :
    q.checkParameters count =
      .error (.unsupportedFeature q.dialect.engine (.parameterCount count limit)) := by
  rw [checkParameters, hlimit]
  exact if_pos h

/-- A draft that has come to a fragment binds the values of its request. -/
theorem bound_play (h : (q.draft r).outcome = .ok f) :
    (q.play (q.draft r)).bound = parameters q.dialect 1 (q.binding r) := by
  have hused : (q.draft r).used = q.carried r :=
    (drafts_of_outcome h).used_eq.trans (drafts_of_outcome h).slots_eq
  unfold binding play Draft.play
  cases q.mode with
  | parameterized => exact congrArg (parameters q.dialect 1) hused
  | inline => rfl

/-- A statement has the parameters of the values that its request binds. -/
theorem params_of_build (h : (q.build r).outcome = .ok st) :
    st.params = parameters q.dialect 1 (q.binding r) := by
  obtain ⟨f, hrenders⟩ := renders_of_build h
  rw [hrenders.params_eq]
  exact bound_play hrenders.outcome_eq

/-- A request that is limited comes only to statements that the engine takes. -/
theorem takes_of_build (hlimited : r.isLimited) (h : (q.build r).outcome = .ok st) :
    q.Takes (q.binding r).length := by
  obtain ⟨f, hrenders⟩ := renders_of_build h
  rw [outcome_build] at h
  obtain ⟨sql, -, haccept⟩ := bind_eq_ok h
  rw [accept, if_pos hlimited, bound_play hrenders.outcome_eq, length_parameters] at haccept
  obtain ⟨⟨⟩, hchecked, -⟩ := bind_eq_ok haccept
  exact checkParameters_eq_ok.mp hchecked

/-- A request that is limited is refused where its statement would bind more values than the engine
takes. -/
theorem build_of_lt (hlimited : r.isLimited) (hdraft : (q.draft r).outcome = .ok f) {limit : Nat}
    (hlimit : q.dialect.profile.maxParameters = some limit)
    (h : limit < (q.binding r).length) :
    (q.build r).outcome = .error (.unsupportedFeature q.dialect.engine
      (.parameterCount (q.binding r).length limit)) := by
  have hmode : q.mode = .parameterized := by
    unfold binding at h
    cases hmode : q.mode with
    | parameterized => rfl
    | inline =>
      rw [hmode] at h
      cases h
  have hplay : (q.play (q.draft r)).outcome = .ok (f.boundText q.dialect 1) := by
    rw [outcome_play_bound hmode, hdraft]
    rfl
  rw [outcome_build, hplay]
  change q.accept r _ _ = _
  rw [accept, if_pos hlimited, bound_play hdraft, length_parameters,
    checkParameters_of_lt hlimit h]
  rfl

/-- A request that is not limited comes to a statement whenever its text is short enough, however
many values it binds. -/
theorem build_of_unlimited (hlimited : r.isLimited = false)
    (hdraft : (q.draft r).outcome = .ok f) {sql : String}
    (hplay : (q.play (q.draft r)).outcome = .ok sql)
    (hlength : sql.utf8ByteSize ≤ q.dialect.maxStatementLength) :
    (q.build r).outcome = .ok ⟨sql, parameters q.dialect 1 (q.binding r)⟩ := by
  have hchecked : q.dialect.checkLength sql = .ok () := if_neg (Nat.not_lt.mpr hlength)
  rw [outcome_build, hplay, bound_play hdraft]
  change q.accept r _ _ = _
  rw [accept, hlimited, if_neg (by decide), Query.statement, hchecked]
  rfl

/-- The statements of an insert of many rows, at once or in batches, are statements that the engine
takes, and the insert is refused where one of them would not be. Another statement is one that the
engine takes only if its request carries few enough values: when it carries more, there is a
statement all the same. -/
theorem takes_of_statements (q : Query) (t : Terminal) :
    (∀ sts, q.statements t = .ok sts →
      List.Forall₂ (fun r st => st.params = parameters q.dialect 1 (q.binding r) ∧
        (q.Takes st.params.length ↔ r.isLimited ∨ q.Takes (q.binding r).length))
        (q.requests t) sts) ∧
    (∀ r ∈ q.requests t, r.isLimited → ∀ f, (q.draft r).outcome = .ok f →
      ∀ limit, q.dialect.profile.maxParameters = some limit → limit < (q.binding r).length →
        (q.build r).outcome = .error (.unsupportedFeature q.dialect.engine
          (.parameterCount (q.binding r).length limit)) ∧
        ∀ sts, q.statements t ≠ .ok sts) ∧
    ∀ r, t = .statement r → r.isLimited = false → ∀ f, (q.draft r).outcome = .ok f →
      ∀ sql, (q.play (q.draft r)).outcome = .ok sql →
        sql.utf8ByteSize ≤ q.dialect.maxStatementLength →
          q.statements t = .ok [⟨sql, parameters q.dialect 1 (q.binding r)⟩] := by
  refine ⟨fun sts hsts => ?_, fun r hr hlimited f hdraft limit hlimit hover => ?_, ?_⟩
  · refine (build_of_statements hsts).imp fun r st hbuild => ?_
    have hparams := params_of_build hbuild
    refine ⟨hparams, ?_⟩
    rw [hparams, length_parameters]
    refine ⟨.inr, ?_⟩
    rintro (hlimited | htakes)
    · exact takes_of_build hlimited hbuild
    · exact htakes
  · have hrefused := build_of_lt hlimited hdraft hlimit hover
    refine ⟨hrefused, fun sts hsts => ?_⟩
    obtain ⟨st, hbuild⟩ := exists_of_forall₂ (build_of_statements hsts) r hr
    rw [hrefused] at hbuild
    cases hbuild
  · rintro r rfl hlimited f hdraft sql hplay hlength
    rw [statements, build_of_unlimited hlimited hdraft hplay hlength]
    rfl

/-- A query on a table of an engine that takes few values. -/
def narrow : Query where
  dialect := .ofEngine .sqlServer
  mode := .parameterized
  table := some "t"

/-- One row more than the engine takes values. -/
def longRows : List Row := List.replicate 2101 (.ofCells [("k", .int 7)])

/-- An insert of too many values is refused, with their number and the limit. -/
theorem takes_of_statements_longRows :
    (narrow.build (.insertMany longRows)).outcome =
        .error (.unsupportedFeature .sqlServer (.parameterCount 2101 2100)) ∧
      ∀ sts, narrow.statements (.statement (.insertMany longRows)) ≠ .ok sts := by
  have hdraft : (narrow.draft (.insertMany longRows)).outcome.toOption.isSome := by
    decide +kernel
  have hcount : (narrow.binding (.insertMany longRows)).length = 2101 := by decide +kernel
  obtain ⟨f, hf⟩ := Option.isSome_iff_exists.mp hdraft
  obtain ⟨-, hrefused, -⟩ := narrow.takes_of_statements (.statement (.insertMany longRows))
  have hover := hrefused _ List.mem_cons_self rfl f (eq_ok_of_toOption hf) 2100 rfl (by omega)
  rw [hcount] at hover
  exact hover

/-- A query on one value more than the engine takes. -/
def manyKeys : Query := narrow.addFilter (.member .isIn "k" (List.replicate 2101 (.int 7)))

/-- A selection by a list that is too long is made, and binds the whole list. -/
theorem not_takes_manyKeys :
    ∃ st, manyKeys.statements (.statement .select) = .ok [st] ∧
      st.params.length = 2101 ∧ ¬manyKeys.Takes st.params.length := by
  have hdraft : (manyKeys.draft .select).outcome.toOption.map
      (fun f => (f.bytes manyKeys.dialect, f.slots.length)) = some (4235, 2101) := by
    decide +kernel
  have hcount : (manyKeys.binding .select).length = 2101 := by decide +kernel
  obtain ⟨f, hf, hsize⟩ := Option.map_eq_some_iff.mp hdraft
  obtain ⟨hbytes, hslots⟩ := Prod.mk.inj hsize
  -- No placeholder up to the last one has more than four digits, so the text is short.
  have hlength : (f.boundText manyKeys.dialect 1).utf8ByteSize ≤
      manyKeys.dialect.maxStatementLength := by
    have hshort : (f.boundText manyKeys.dialect 1).utf8ByteSize ≤
        f.bytes manyKeys.dialect + f.slots.length * (2 + 4) :=
      utf8ByteSize_boundText_le (by decide) (by omega)
    have hlimit : manyKeys.dialect.maxStatementLength = 268435456 := rfl
    omega
  have hdrafted := eq_ok_of_toOption hf
  have hplay : (manyKeys.play (manyKeys.draft .select)).outcome =
      .ok (f.boundText manyKeys.dialect 1) := by
    rw [outcome_play_bound rfl, hdrafted]
    rfl
  have hbuild := build_of_unlimited rfl hdrafted hplay hlength
  refine ⟨_, by rw [statements, hbuild]; rfl, ?_, fun htakes => ?_⟩
  · rw [length_parameters, hcount]
  · have hover := htakes 2100 rfl
    rw [length_parameters, hcount] at hover
    omega

end Query

end SqlRender
