import SqlRender.Error

/-!
# Results that are there

What is made of a result is there only when the result is, so a computation that comes to a result
has come to one at every step. Two computations end alike when both come to a result or neither
does.
-/

namespace SqlRender

variable {α β γ δ : Type}

/-- A result that is there is a result without error. -/
theorem eq_ok_of_toOption {x : Except Error α} {a : α} (h : x.toOption = some a) : x = .ok a := by
  cases x with
  | error e => cases h
  | ok b => rw [Option.some.inj h]

/-- A result that is changed was there before. -/
theorem map_eq_ok {x : Except Error α} {f : α → β} {b : β} (h : x.map f = .ok b) :
    ∃ a, x = .ok a ∧ b = f a := by
  cases x with
  | error e => cases h
  | ok a => exact ⟨a, rfl, (Except.ok.inj h).symm⟩

/-- A result that is made of another one is there when that one is. -/
theorem bind_eq_ok {x : Except Error α} {f : α → Except Error β} {b : β} (h : x.bind f = .ok b) :
    ∃ a, x = .ok a ∧ f a = .ok b := by
  cases x with
  | error e => cases h
  | ok a => exact ⟨a, rfl, h⟩

/-- A result that is made of another one fails when that one does, or is refused itself. -/
theorem bind_eq_error {x : Except Error α} {f : α → Except Error β} {e : Error}
    (h : x.bind f = .error e) : x = .error e ∨ ∃ a, x = .ok a ∧ f a = .error e := by
  cases x with
  | error e' => exact .inl (congrArg Except.error (Except.error.inj h))
  | ok a => exact .inr ⟨a, rfl, h⟩

/-- Two computations that end alike: both in an error, or both in results that are related. -/
inductive SameEnd (R : α → β → Prop) : Except Error α → Except Error β → Prop
  | ok {a : α} {b : β} (h : R a b) : SameEnd R (.ok a) (.ok b)
  | error (e e' : Error) : SameEnd R (.error e) (.error e')

/-- The two ways in which computations end alike. -/
theorem SameEnd.ends {R : α → β → Prop} {x : Except Error α} {y : Except Error β}
    (h : SameEnd R x y) : (∃ a b, x = .ok a ∧ y = .ok b ∧ R a b) ∨
      ∃ e e', x = .error e ∧ y = .error e' := by
  cases h with
  | ok hab => exact .inl ⟨_, _, rfl, rfl, hab⟩
  | error e e' => exact .inr ⟨e, e', rfl, rfl⟩

/-- What ends alike goes on alike. -/
theorem SameEnd.bind {R : α → β → Prop} {S : γ → δ → Prop} {x : Except Error α}
    {y : Except Error β} {f : α → Except Error γ} {g : β → Except Error δ} (h : SameEnd R x y)
    (hstep : ∀ a b, R a b → SameEnd S (f a) (g b)) : SameEnd S (x.bind f) (y.bind g) := by
  cases h with
  | ok hab => exact hstep _ _ hab
  | error e e' => exact .error e e'

/-- Results that end alike and are changed alike end alike. -/
theorem SameEnd.map {R : α → β → Prop} {S : γ → δ → Prop} {x : Except Error α}
    {y : Except Error β} {f : α → γ} {g : β → δ} (h : SameEnd R x y)
    (hstep : ∀ a b, R a b → S (f a) (g b)) : SameEnd S (x.map f) (y.map g) := by
  cases h with
  | ok hab => exact .ok (hstep _ _ hab)
  | error e e' => exact .error e e'

end SqlRender
