import SqlRender.Dialect

/-!
# The number of a literal

A literal has a number for the tag that it draws, and for nothing else. Whether a value has a
literal is the same under every number, and so is its error when it has none. On an engine whose
literals have no tag, the literal itself is the same.
-/

namespace SqlRender

/-- The engines but one write texts without tags. -/
theorem Engine.strings_ne_dollarTag {e : Engine} (he : e ≠ .postgres) :
    e.profile.strings ≠ .dollarTag := by
  cases e <;> first | decide | exact absurd rfl he

/-- The literal of a text does not depend on its tag where it has none. -/
theorem Profile.quoteText_eq {p : Profile} (hp : p.strings ≠ .dollarTag)
    (tag tag' : String → String) (s : String) : p.quoteText tag s = p.quoteText tag' s := by
  unfold quoteText
  split
  · next h => exact absurd h hp
  · rfl

namespace Dialect

variable {d : Dialect} {v : Value} {n : Nat}

/-- A value has a literal under every number, or it fails in the same way under all of them. -/
theorem literal_ends (d : Dialect) (v : Value) :
    (∀ n, ∃ x, d.literal n v = .ok x) ∨ ∃ e, ∀ n, d.literal n v = .error e := by
  have hstamp : ∀ pattern written, (∀ n, ∃ x, d.stampLiteral n pattern written = .ok x) ∨
      ∃ e, ∀ n, d.stampLiteral n pattern written = .error e := by
    intro pattern written
    cases written with
    | none => exact .inr ⟨_, fun _ => rfl⟩
    | some s => exact .inl fun n => ⟨d.quoteText n s, rfl⟩
  cases v with
  | double x =>
    cases hfinite : x.isFinite with
    | true => exact .inl fun _ => ⟨x.text, by simp [literal, hfinite]⟩
    | false => exact .inr ⟨.unrenderable (.nonFinite x), fun _ => by simp [literal, hfinite]⟩
  | dateTime t => exact hstamp _ _
  | dateTimeOffset t => exact hstamp _ _
  | _ => exact .inl fun _ => ⟨_, rfl⟩

/-- A value that has a literal under one number has one under every other. -/
theorem literal_ok {x : String} (h : d.literal n v = .ok x) (m : Nat) :
    ∃ y, d.literal m v = .ok y := by
  rcases d.literal_ends v with hok | ⟨e, he⟩
  · exact hok m
  · cases (he n).symm.trans h

/-- A value that fails under one number fails under every other. -/
theorem literal_error {e : Error} (h : d.literal n v = .error e) (m : Nat) :
    d.literal m v = .error e := by
  rcases d.literal_ends v with hok | ⟨e', he⟩
  · obtain ⟨x, hx⟩ := hok n
    cases hx.symm.trans h
  · cases (he n).symm.trans h
    exact he m

/-- A value has the same literal under two numbers that texts have the same literal under. -/
theorem literal_congr {m : Nat} (h : ∀ s, d.quoteText m s = d.quoteText n s) (v : Value) :
    d.literal m v = d.literal n v := by
  cases v with
  | string s => exact congrArg Except.ok (h s)
  | uuid u => exact congrArg Except.ok (h u.text)
  | dateTime t => simp only [literal, stampLiteral, h]
  | dateTimeOffset t => simp only [literal, stampLiteral, h]
  | _ => rfl

/-- Outside dollar tags, a value has the same literal under every number. -/
theorem literal_eq (hd : d.engine ≠ .postgres) (m n : Nat) (v : Value) :
    d.literal m v = d.literal n v :=
  literal_congr (Profile.quoteText_eq (Engine.strings_ne_dollarTag hd) (d.tag m) (d.tag n)) v

/-- A value has the same literal under two numbers that draw the same tags. -/
theorem literal_of_tag {m : Nat} (h : d.tag m = d.tag n) (v : Value) :
    d.literal m v = d.literal n v :=
  literal_congr (fun s => by rw [quoteText, quoteText, h]) v

end Dialect

end SqlRender
